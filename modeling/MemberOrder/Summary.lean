import MemberOrder.Json
import MemberOrder.Path

/-! What a run did, for the terminal and as JSON.
-/

set_option autoImplicit false

namespace MemberOrder

structure ChangedFile where
  path : Path
  classes : List String
  deriving DecidableEq, Repr

/-- The failure of a class, or of a whole file. -/
structure Failure where
  path : Path
  className : Option String
  message : String
  deriving DecidableEq, Repr

structure RunSummary where
  singleFile : Bool
  check : Bool
  filesProcessed : Nat
  changed : List ChangedFile
  written : List Path
  formatted : List Path
  failures : List Failure
  cancelled : Bool
  deriving DecidableEq, Repr

def ChangedFile.toJson (file : ChangedFile) : Json :=
  .object [("path", .string file.path.text), ("classes", .array (file.classes.map .string))]

def Failure.toJson (failure : Failure) : Json :=
  .object <|
    [("path", Json.string failure.path.text)] ++
    (failure.className.map fun name => ("class", Json.string name)).toList ++
    [("error", Json.string failure.message)]

inductive Style where
  | green
  | yellow
  | boldGreen
  | boldYellow
  | boldRed
  deriving DecidableEq, Repr

namespace Style

def code : Style → String
  | green => "32"
  | yellow => "33"
  | boldGreen => "1;32"
  | boldYellow => "1;33"
  | boldRed => "1;31"

def paint (color : Bool) (style : Style) (text : String) : String :=
  if color then "\x1b[" ++ style.code ++ "m" ++ text ++ "\x1b[0m" else text

end Style

namespace RunSummary

def hasFileFailures (s : RunSummary) : Bool := s.failures.any (·.className.isNone)

/-- One when a file failed, or when a check found files to change. -/
def exitCode (s : RunSummary) : Nat :=
  if (s.check && !s.changed.isEmpty) || s.hasFileFailures then 1 else 0

def headline (color : Bool) (s : RunSummary) : List String :=
  if s.singleFile then
    if s.changed.isEmpty then [Style.green.paint color "No changes needed."]
    else
      let label :=
        if s.check then Style.boldYellow.paint color "Would sort:"
        else Style.boldGreen.paint color "Sorted and saved:"
      s.changed.map fun file => label ++ " " ++ file.path.text
  else if s.filesProcessed = 0 ∧ s.cancelled = false then
    [Style.yellow.paint color "No TypeScript files found"]
  else
    let label :=
      if s.check then Style.boldYellow.paint color "Would sort members in:"
      else Style.boldGreen.paint color "Sorted members in:"
    [label ++ " " ++ toString s.changed.length ++ " files"]

def changedLines (s : RunSummary) : List String :=
  if s.singleFile then []
  else s.changed.map fun file =>
    "  " ++ file.path.text ++ " (" ++ ", ".intercalate file.classes ++ ")"

def formattedLines (s : RunSummary) : List String :=
  if s.formatted.isEmpty then [] else ["Formatted " ++ toString s.formatted.length ++ " files"]

def failureLines (color : Bool) (s : RunSummary) : List String :=
  if s.failures.isEmpty then []
  else
    (Style.boldRed.paint color "Errors:" ++ " " ++ toString s.failures.length) ::
      s.failures.map fun failure => "  " ++ failure.message

def cancelledLines (color : Bool) (s : RunSummary) : List String :=
  if s.cancelled then [Style.yellow.paint color "Cancelled before every file was processed"]
  else []

def lines (color : Bool) (s : RunSummary) : List String :=
  s.headline color ++ s.changedLines ++ s.formattedLines ++ s.failureLines color ++
    s.cancelledLines color

def terminal (color : Bool) (s : RunSummary) : String := "\n".intercalate (s.lines color)

def pathsJson (paths : List Path) : Json := .array (paths.map fun p => .string p.text)

def toJson (s : RunSummary) : Json :=
  .object [
    ("single_file", .bool s.singleFile),
    ("check", .bool s.check),
    ("files_processed", .nat s.filesProcessed),
    ("changed", .array (s.changed.map ChangedFile.toJson)),
    ("written", pathsJson s.written),
    ("formatted", pathsJson s.formatted),
    ("failures", .array (s.failures.map Failure.toJson)),
    ("cancelled", .bool s.cancelled)]

end RunSummary

end MemberOrder
