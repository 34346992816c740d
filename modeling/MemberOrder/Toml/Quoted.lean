import MemberOrder.Toml.Numeral

/-! The four kinds of strings of TOML.

Every reader starts behind the opening quotes and returns the characters of the string and what
follows the closing quotes.
-/

set_option autoImplicit false

namespace MemberOrder.Toml

/-- Control characters stand in no string and no comment; the tab is not among them. -/
def isControl (c : Char) : Bool := (c.toNat < 0x20 && c != '\t') || c.toNat == 0x7F

def isSpace (c : Char) : Bool := c == ' ' || c == '\t'

def escape? : Char → Option Char
  | 'b' => some '\x08'
  | 't' => some '\t'
  | 'n' => some '\n'
  | 'f' => some '\x0c'
  | 'r' => some '\r'
  | 'e' => some '\x1b'
  | '"' => some '"'
  | '\\' => some '\\'
  | _ => none

def codePoint? (digits : List Char) : Option Char :=
  if digits.all isHexDigit then
    let code := Text.valueInBase 16 digits
    if code < 0xD800 ∨ (0xDFFF < code ∧ code < 0x110000) then some (Char.ofNat code) else none
  else none

def prepend (c : Option Char) (read : Option (List Char × List Char)) :
    Option (List Char × List Char) := do
  let c ← c
  let (content, rest) ← read
  return (c :: content, rest)

def readBasic : List Char → Option (List Char × List Char)
  | [] => none
  | '"' :: rest => some ([], rest)
  | '\\' :: 'x' :: a :: b :: rest => prepend (codePoint? [a, b]) (readBasic rest)
  | '\\' :: 'u' :: a :: b :: c :: d :: rest => prepend (codePoint? [a, b, c, d]) (readBasic rest)
  | '\\' :: 'U' :: a :: b :: c :: d :: e :: f :: g :: h :: rest =>
    prepend (codePoint? [a, b, c, d, e, f, g, h]) (readBasic rest)
  | '\\' :: c :: rest => prepend (escape? c) (readBasic rest)
  | c :: rest => if isControl c then none else prepend (some c) (readBasic rest)

def readLiteral : List Char → Option (List Char × List Char)
  | [] => none
  | '\x27' :: rest => some ([], rest)
  | c :: rest => if isControl c then none else prepend (some c) (readLiteral rest)

/-- Up to two quotes in front of the closing three belong to the string. -/
def closeLong (quote : Char) (rest : List Char) : List Char × List Char :=
  let extra := (rest.takeWhile (· == quote)).take 2
  (extra, rest.drop extra.length)

def lineBreakAhead (cs : List Char) : Bool :=
  match cs.dropWhile isSpace with
  | '\n' :: _ => true
  | '\r' :: '\n' :: _ => true
  | _ => false

/-- A string in three double quotes. A backslash at the end of a line drops the blanks and line
breaks after it, which is when `folding` holds. Line breaks stay as they are written. -/
def readLongBasic (folding : Bool) : List Char → Option (List Char × List Char)
  | [] => none
  | '"' :: '"' :: '"' :: rest => some (closeLong '"' rest)
  | '\r' :: '\n' :: rest =>
    if folding then readLongBasic true rest
    else prepend (some '\r') (prepend (some '\n') (readLongBasic false rest))
  | '\\' :: 'x' :: a :: b :: rest => prepend (codePoint? [a, b]) (readLongBasic false rest)
  | '\\' :: 'u' :: a :: b :: c :: d :: rest =>
    prepend (codePoint? [a, b, c, d]) (readLongBasic false rest)
  | '\\' :: 'U' :: a :: b :: c :: d :: e :: f :: g :: h :: rest =>
    prepend (codePoint? [a, b, c, d, e, f, g, h]) (readLongBasic false rest)
  | '\\' :: c :: rest =>
    if lineBreakAhead (c :: rest) then readLongBasic true (c :: rest)
    else prepend (escape? c) (readLongBasic false rest)
  | c :: rest =>
    if folding && (isSpace c || c == '\n') then readLongBasic true rest
    else if isControl c && c != '\n' then none
    else prepend (some c) (readLongBasic false rest)

def readLongLiteral : List Char → Option (List Char × List Char)
  | [] => none
  | '\x27' :: '\x27' :: '\x27' :: rest => some (closeLong '\x27' rest)
  | '\r' :: '\n' :: rest => prepend (some '\r') (prepend (some '\n') (readLongLiteral rest))
  | c :: rest =>
    if isControl c && c != '\n' then none else prepend (some c) (readLongLiteral rest)

/-- A line break right behind the opening quotes does not count. -/
def skipFirstBreak : List Char → List Char
  | '\n' :: rest => rest
  | '\r' :: '\n' :: rest => rest
  | cs => cs

def readShort : List Char → Option (List Char × List Char)
  | '"' :: rest => readBasic rest
  | '\x27' :: rest => readLiteral rest
  | _ => none

def readString : List Char → Option (List Char × List Char)
  | '"' :: '"' :: '"' :: rest => readLongBasic false (skipFirstBreak rest)
  | '\x27' :: '\x27' :: '\x27' :: rest => readLongLiteral (skipFirstBreak rest)
  | cs => readShort cs

end MemberOrder.Toml
