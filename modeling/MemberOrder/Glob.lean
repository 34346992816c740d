import MemberOrder.Frontier

/-! Glob patterns on paths.

`?` stands for any character and `*` for any sequence of characters, slashes included. `**` is a
whole component and stands for any number of directories. `[ab-d]` is one of some characters and
`[!ab-d]` one of all others. There are no escapes and no alternatives.
-/

set_option autoImplicit false

namespace MemberOrder.Glob

structure CharRange where
  first : Char
  last : Char
  deriving DecidableEq, Repr

def CharRange.contains (r : CharRange) (c : Char) : Bool := r.first ≤ c && c ≤ r.last

inductive Token where
  | char (c : Char)
  | anyChar
  | anySequence
  | anyDirectories
  | oneOf (ranges : List CharRange)
  | noneOf (ranges : List CharRange)
  deriving DecidableEq, Repr

abbrev Pattern := List Token

inductive Fault where
  | tooManyStars
  | partialComponent
  | invalidRange
  deriving DecidableEq, Repr

structure PatternError where
  position : Nat
  fault : Fault
  deriving DecidableEq, Repr

def Fault.message : Fault → String
  | tooManyStars => "wildcards are either regular `*` or recursive `**`"
  | partialComponent => "recursive wildcards must form a single path component"
  | invalidRange => "invalid range pattern"

def PatternError.message (e : PatternError) : String :=
  s!"Pattern syntax error near position {e.position}: {e.fault.message}"

def ranges : List Char → List CharRange
  | a :: '-' :: b :: rest => ⟨a, b⟩ :: ranges rest
  | c :: rest => ⟨c, c⟩ :: ranges rest
  | [] => []

/-- The characters in brackets, the first of which may be a closing bracket, and what follows. -/
def bracketed? : List Char → Option (List Char × List Char)
  | [] => none
  | first :: rest =>
    match rest.dropWhile (· != ']') with
    | [] => none
    | _ :: after => some (first :: rest.takeWhile (· != ']'), after)

def bracketToken? : List Char → Option (Token × List Char)
  | '!' :: rest => (bracketed? rest).map fun (content, after) => (.noneOf (ranges content), after)
  | cs => (bracketed? cs).map fun (content, after) => (.oneOf (ranges content), after)

/-- Adds directories of any depth, unless the pattern ends so already. -/
def addDirectories (read : List Token) : List Token :=
  match read with
  | .anyDirectories :: _ :: _ => read
  | _ => .anyDirectories :: read

/-- Reads a pattern from `position` on. The tokens read come latest first, and `atStart` says that a
component starts here. -/
def readFrom : Nat → Nat → Bool → List Token → List Char → Except PatternError Pattern
  | _, _, _, read, [] => .ok read.reverse
  | 0, position, _, _, _ => .error ⟨position, .invalidRange⟩
  | fuel + 1, position, atStart, read, c :: rest =>
    match c, rest with
    | '*', '*' :: '*' :: _ => .error ⟨position + 2, .tooManyStars⟩
    | '*', '*' :: after =>
      if !atStart then .error ⟨position - 1, .partialComponent⟩
      else
        match after with
        | [] => .ok (addDirectories read).reverse
        | '/' :: after => readFrom fuel (position + 3) true (addDirectories read) after
        | _ => .error ⟨position + 2, .partialComponent⟩
    | '*', after => readFrom fuel (position + 1) false (.anySequence :: read) after
    | '?', after => readFrom fuel (position + 1) false (.anyChar :: read) after
    | '[', inside =>
      match bracketToken? inside with
      | some (token, after) =>
        readFrom fuel (position + 1 + (inside.length - after.length)) false (token :: read) after
      | none => .error ⟨position, .invalidRange⟩
    | c, after => readFrom fuel (position + 1) (c = '/') (.char c :: read) after

def Pattern.parse (text : String) : Except PatternError Pattern :=
  readFrom text.toList.length 0 true [] text.toList

/-- Moves a frontier by a token. Directories end at a slash, and the last one may end with the
path. -/
def Token.advance (path : List Char) (f : Frontier) : Token → Frontier
  | char c => f.one (· == c) path
  | anyChar => f.one (fun _ => true) path
  | anySequence => f.many (fun _ => true) path
  | anyDirectories => (f.behind (· == '/') path).orEnd
  | oneOf ranges => f.one (fun c => ranges.any (·.contains c)) path
  | noneOf ranges => f.one (fun c => !ranges.any (·.contains c)) path

def Pattern.fits (pattern : Pattern) (path : List Char) : Bool :=
  (pattern.foldl (fun f token => token.advance path f) (Frontier.start path)).isComplete

end MemberOrder.Glob
