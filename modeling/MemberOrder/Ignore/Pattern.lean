import MemberOrder.Glob

/-! Patterns of ignore files.

A pattern is matched against the bytes of a path. `?` stands for a byte and `*` for any number of
them, slashes excepted. `**` as a whole component stands for any number of directories. `[a-c]` is
one of some characters and `[!a-c]` any byte that is in none of them; a bracket that is never
closed stands for itself. `{a,b}` is one of several patterns, and a backslash takes the
character after it as it is.
-/

set_option autoImplicit false

namespace MemberOrder.Ignore

open Glob (CharRange)

/-- Directories stand in front of a name, or behind a slash and with it. -/
inductive Token where
  | char (c : Char)
  | anyByte
  | anyBytes
  | directoriesBefore
  | directoriesBetween
  | everythingInside
  | bracket (negated : Bool) (ranges : List CharRange)
  | choice (branches : List (List Token))

abbrev Pattern := List Token

/-! Reading a pattern. -/

/-- A choice whose branches are being read: the tokens in front of it and the branches that are
complete, both latest first. -/
structure Group where
  before : List Token
  branches : List (List Token)

/-- The innermost branch, latest token first, and the choices that it stands in, innermost first. A
bracket that is never closed keeps later ones from counting. -/
structure Reader where
  branch : List Token
  groups : List Group
  previous : Option Char
  bracketsDone : Bool

namespace Reader

def empty : Reader := ⟨[], [], none, false⟩

def push (r : Reader) (token : Token) (last : Char) : Reader :=
  { r with branch := token :: r.branch, previous := some last }

def openGroup (r : Reader) : Reader :=
  { r with branch := [], groups := ⟨r.branch, []⟩ :: r.groups, previous := some '\x7b' }

/-- A comma starts the next branch of a choice; outside it is a character. -/
def comma (r : Reader) : Reader :=
  match r.groups with
  | [] => r.push (.char ',') ','
  | group :: outer =>
    { r with
      branch := []
      groups := ⟨group.before, r.branch.reverse :: group.branches⟩ :: outer
      previous := some ',' }

def closeGroup? (r : Reader) : Option Reader :=
  match r.groups with
  | [] => none
  | group :: outer =>
    let choice := Token.choice (r.branch.reverse :: group.branches).reverse
    some { r with branch := choice :: group.before, groups := outer, previous := some '\x7d' }

/-- Directories behind a slash take its place, unless they are there already. -/
def joined (last directories : Token) : Token :=
  match last with
  | .directoriesBefore => .directoriesBefore
  | .everythingInside => .everythingInside
  | _ => directories

def atComponent (r : Reader) : Bool :=
  r.previous == some '/' ||
    (!r.groups.isEmpty && (r.previous == some ',' || r.previous == some '\x7b'))

/-- Two stars have been read. They are more than two single ones if they make a component. -/
def stars (r : Reader) (rest : List Char) : Reader × List Char :=
  let single := ((r.push .anyBytes '*').push .anyBytes '*', rest)
  match r.branch with
  | [] =>
    match rest with
    | [] => (r.push .directoriesBefore '*', [])
    | '/' :: rest => (r.push .directoriesBefore '/', rest)
    | _ => single
  | last :: earlier =>
    let behind := fun (directories : Token) (c : Char) =>
      { r with branch := joined last directories :: earlier, previous := some c }
    if r.atComponent then
      match rest with
      | [] => (behind .everythingInside '*', [])
      | '/' :: rest => (behind .directoriesBetween '/', rest)
      | c :: _ =>
        if (c == ',' || c == '\x7d') && !r.groups.isEmpty then (behind .everythingInside '*', rest)
        else single
    else single

end Reader

inductive Bracket where
  | closed (ranges : List CharRange) (rest : List Char)
  | unclosed
  | reversed

/-- Reads up to the closing bracket; one that comes first is a member. A dash between two
characters makes a range of the one last read, which is what `ranging` says. -/
def readBracket (first ranging : Bool) (read : List CharRange) : List Char → Bracket
  | [] => .unclosed
  | c :: rest =>
    if c = ']' ∧ ¬first then
      .closed (if ranging then ⟨'-', '-'⟩ :: read else read).reverse rest
    else if c = '-' ∧ ¬first ∧ ¬ranging then readBracket false true read rest
    else
      match ranging, read with
      | true, range :: earlier =>
        if c < range.first then .reversed
        else readBracket false false (⟨range.first, c⟩ :: earlier) rest
      | _, _ => readBracket false false (⟨c, c⟩ :: read) rest

def negation : List Char → Bool × List Char
  | '!' :: rest => (true, rest)
  | '^' :: rest => (true, rest)
  | cs => (false, cs)

/-- Reads the rest of a pattern. Every token takes at least a character off. -/
def readTokens : Nat → Reader → List Char → Option Pattern
  | _, r, [] => if r.groups.isEmpty then some r.branch.reverse else none
  | 0, _, _ => none
  | fuel + 1, r, c :: rest =>
    match c, rest with
    | '?', _ => readTokens fuel (r.push .anyByte '?') rest
    | '*', '*' :: rest =>
      let (r, rest) := r.stars rest
      readTokens fuel r rest
    | '*', _ => readTokens fuel (r.push .anyBytes '*') rest
    | '\x7b', _ => readTokens fuel r.openGroup rest
    | '\x7d', _ => r.closeGroup?.bind fun r => readTokens fuel r rest
    | ',', _ => readTokens fuel r.comma rest
    | '\\', [] => none
    | '\\', d :: rest => readTokens fuel (r.push (.char d) d) rest
    | '[', _ =>
      if r.bracketsDone then readTokens fuel (r.push (.char '[') '[') rest
      else
        let (negated, inside) := negation rest
        match readBracket true false [] inside with
        | .closed ranges rest => readTokens fuel (r.push (.bracket negated ranges) ']') rest
        | .unclosed =>
          readTokens fuel { r.push (.char '[') '[' with bracketsDone := true } rest
        | .reversed => none
    | _, _ => readTokens fuel (r.push (.char c) c) rest

def Pattern.parse? (text : List Char) : Option Pattern := readTokens text.length .empty text

/-! Matching. -/

def slash : UInt8 := 47

structure ByteRange where
  first : UInt8
  last : UInt8
  deriving DecidableEq, Repr

def ByteRange.contains (r : ByteRange) (b : UInt8) : Bool := r.first ≤ b && b ≤ r.last

def ByteRange.single (b : UInt8) : ByteRange := ⟨b, b⟩

/-- A range of characters seen as bytes: those of either end, and what lies between where they
meet. -/
def byteRanges (range : CharRange) : List ByteRange :=
  let first := String.utf8EncodeChar range.first
  let last := String.utf8EncodeChar range.last
  if range.first = range.last then first.map .single
  else
    match first.reverse, last with
    | b :: before, c :: after =>
      before.reverse.map .single ++ ⟨b, c⟩ :: after.map .single
    | _, _ => []

def bracketContains (negated : Bool) (ranges : List CharRange) (b : UInt8) : Bool :=
  (ranges.any fun range => (byteRanges range).any (·.contains b)) != negated

mutual

def Token.isVoid : Token → Bool
  | .choice branches => allVoid branches
  | _ => false

def isVoid : List Token → Bool
  | [] => true
  | token :: rest => token.isVoid && isVoid rest

def allVoid : List (List Token) → Bool
  | [] => true
  | branch :: rest => isVoid branch && allVoid rest

end

mutual

def Token.advance (path : List UInt8) (f : Frontier) : Token → Frontier
  | .char c => (String.utf8EncodeChar c).foldl (fun f b => f.one (· == b) path) f
  | .anyByte => f.one (· != slash) path
  | .anyBytes => f.many (· != slash) path
  | .directoriesBefore => f.behind (· == slash) path
  | .directoriesBetween => (f.one (· == slash) path).behind (· == slash) path
  | .everythingInside => (f.one (· == slash) path).many (fun _ => true) path
  | .bracket negated ranges => f.one (bracketContains negated ranges) path
  | .choice branches => (advanceByOne path f branches).getD f

def advance (path : List UInt8) (f : Frontier) : List Token → Frontier
  | [] => f
  | token :: rest => advance path (token.advance path f) rest

/-- Moves a frontier by one of several branches. Branches with nothing in them do not count. -/
def advanceByOne (path : List UInt8) (f : Frontier) : List (List Token) → Option Frontier
  | [] => none
  | branch :: rest =>
    let others := advanceByOne path f rest
    if isVoid branch then others
    else
      let here := advance path f branch
      some (match others with
        | some others => here.union others
        | none => here)

end

/-- Whether the whole path fits the pattern. Directories alone are fit by every path. -/
def Pattern.fits (pattern : Pattern) (path : List UInt8) : Bool :=
  match pattern with
  | [.directoriesBefore] => true
  | _ => (advance path (Frontier.start path) pattern).isComplete

end MemberOrder.Ignore
