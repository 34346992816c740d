/-! Texts as lists of characters, cut at UTF-8 byte offsets.

Parsers report where a node starts and ends in bytes. A text is kept as its characters, and the
operations here turn byte offsets into cuts between them. An offset that falls inside a character
is moved to the end of that character, so every cut loses nothing.
-/

set_option autoImplicit false

namespace MemberOrder

abbrev Text := List Char

/-- A half-open range of byte offsets. -/
structure Span where
  start : Nat
  stop : Nat
  deriving DecidableEq, Repr

namespace Text

def byteSize : Text → Nat
  | [] => 0
  | c :: rest => c.utf8Size + byteSize rest

@[simp] theorem byteSize_nil : byteSize [] = 0 := rfl

@[simp] theorem byteSize_cons (c : Char) (t : Text) :
    byteSize (c :: t) = c.utf8Size + byteSize t := rfl

@[simp] theorem byteSize_append (s t : Text) : byteSize (s ++ t) = byteSize s + byteSize t := by
  induction s with
  | nil => simp
  | cons c s ih => simp [ih, Nat.add_assoc]

/-- The characters that begin before the offset `n`. -/
def takeBytes (n : Nat) : Text → Text
  | [] => []
  | c :: rest => if n = 0 then [] else c :: takeBytes (n - c.utf8Size) rest

/-- The characters that begin at or after the offset `n`. -/
def dropBytes (n : Nat) : Text → Text
  | [] => []
  | c :: rest => if n = 0 then c :: rest else dropBytes (n - c.utf8Size) rest

@[simp] theorem takeBytes_append_dropBytes (n : Nat) (t : Text) :
    takeBytes n t ++ dropBytes n t = t := by
  induction t generalizing n with
  | nil => rfl
  | cons c t ih =>
    by_cases zero : n = 0
    · simp [takeBytes, dropBytes, zero]
    · simp [takeBytes, dropBytes, zero, ih]

@[simp] theorem takeBytes_zero (t : Text) : takeBytes 0 t = [] := by
  cases t <;> simp [takeBytes]

@[simp] theorem dropBytes_zero (t : Text) : dropBytes 0 t = t := by
  cases t <;> simp [dropBytes]

def slice (t : Text) (span : Span) : Text :=
  takeBytes (span.stop - span.start) (dropBytes span.start t)

def lastLine (t : Text) : Text :=
  (t.reverse.takeWhile (· != '\n')).reverse

def firstLine (t : Text) : Text :=
  t.takeWhile (· != '\n')

def isIndent (c : Char) : Bool := c == ' ' || c == '\t'

def lineStart (t : Text) (n : Nat) : Nat :=
  n - byteSize (lastLine (takeBytes n t))

/-- Moves an offset back to the start of its line when only indentation precedes it there. -/
def toLineStart (t : Text) (n : Nat) : Nat :=
  if (lastLine (takeBytes n t)).all isIndent then lineStart t n else n

def join (separator : Text) : List Text → Text
  | [] => []
  | [t] => t
  | t :: rest => t ++ separator ++ join separator rest

@[simp] theorem join_nil (separator : Text) : join separator [] = [] := rfl

@[simp] theorem join_singleton (separator t : Text) : join separator [t] = t := rfl

@[simp] theorem join_cons_cons (separator t u : Text) (rest : List Text) :
    join separator (t :: u :: rest) = t ++ separator ++ join separator (u :: rest) := rfl

def splitOn (separator : Char) : Text → List Text
  | [] => [[]]
  | c :: rest =>
    if c = separator then [] :: splitOn separator rest
    else
      match splitOn separator rest with
      | [] => [[c]]
      | part :: others => (c :: part) :: others

def occursIn (pattern : Text) : Text → Bool
  | [] => pattern.isEmpty
  | c :: rest => pattern.isPrefixOf (c :: rest) || occursIn pattern rest

end Text

inductive LineEnding where
  | lf
  | crlf
  deriving DecidableEq, Repr

namespace LineEnding

def text : LineEnding → Text
  | lf => ['\n']
  | crlf => ['\r', '\n']

/-- A file that has a carriage return before a line feed anywhere uses that pair. -/
def ofText (t : Text) : LineEnding :=
  if Text.occursIn ['\r', '\n'] t then crlf else lf

end LineEnding

end MemberOrder
