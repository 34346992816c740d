import MemberOrder.Path

/-! The optional formatter run on written files.

The tool is started through a package runner, once as a probe whether it is installed and then
once per file. A missing tool or a failed run is noted and passed over. What a call changes, the
files among it, is up to the state in which it is made.
-/

set_option autoImplicit false

namespace MemberOrder

inductive Formatter where
  | none
  | prettier
  | biome
  deriving DecidableEq, Repr

namespace Formatter

def package? : Formatter → Option String
  | none => Option.none
  | prettier => some "prettier"
  | biome => some "@biomejs/biome"

def formatArgs? (tool : Formatter) (file : Path) : Option (List String) :=
  match tool with
  | none => Option.none
  | prettier => some ["prettier", "--write", file.text]
  | biome => some ["@biomejs/biome", "format", "--write", file.text]

/-- The arguments that ask for an installed tool without installing it. -/
def probeArgs? (tool : Formatter) : Option (List String) :=
  tool.package?.map fun package => ["--no-install", package, "--version"]

end Formatter

/-- A state in which a package runner can be called. A call tells whether it was started and exited
with zero, and leaves the state behind it. -/
class Launcher (σ : Type) where
  call : σ → List String → Bool × σ

/-- A package runner that records the calls it starts. It may fail for some files, and it may be
gone after its first probe. -/
structure Runner where
  isPresent : Bool
  probeCode : Nat
  failing : List String
  vanishes : Bool
  calls : List (List String)
  deriving DecidableEq, Repr

namespace Runner

def absent : Runner := ⟨false, 0, [], false, []⟩

def isProbe (args : List String) : Bool := args.head? = some "--no-install"

def succeeds (r : Runner) (args : List String) : Bool :=
  if isProbe args then r.probeCode == 0
  else
    match args.getLast? with
    | some file => !r.failing.contains file
    | none => true

def call (r : Runner) (args : List String) : Bool × Runner :=
  if r.isPresent then
    (r.succeeds args,
      { r with
        isPresent := !(isProbe args && r.vanishes)
        calls := r.calls ++ [args] })
  else (false, r)

instance : Launcher Runner where
  call := Runner.call

end Runner

namespace Formatter

variable {σ : Type} [Launcher σ]

def probe (tool : Formatter) (state : σ) : Bool × σ :=
  match tool.probeArgs? with
  | some args => Launcher.call state args
  | Option.none => (false, state)

/-- Formatting is skipped if the tool that was asked for could not be found. -/
structure Summary where
  formatted : List Path
  failed : List Path
  skipped : Bool
  deriving DecidableEq, Repr

namespace Summary

def empty : Summary := ⟨[], [], false⟩

end Summary

def formatEach (tool : Formatter) : List Path → σ → Summary × σ
  | [], state => (.empty, state)
  | file :: rest, state =>
    match tool.formatArgs? file with
    | Option.none => formatEach tool rest state
    | some args =>
      let (succeeded, state) := Launcher.call state args
      let (summary, state) := formatEach tool rest state
      if succeeded then ({ summary with formatted := file :: summary.formatted }, state)
      else ({ summary with failed := file :: summary.failed }, state)

def formatFiles (tool : Formatter) (files : List Path) (state : σ) : Summary × σ :=
  if tool = none ∨ files = [] then (.empty, state)
  else
    let (installed, state) := tool.probe state
    if installed then tool.formatEach files state
    else ({ Summary.empty with skipped := true }, state)

end Formatter

end MemberOrder
