import MemberOrder.Toml.Quoted

/-! Reading a TOML document.

Readers take the characters left and return a value and what follows it, or nothing if the text
is not TOML. Values nest, so they are read with a fuel that the length of the text bounds.
-/

set_option autoImplicit false

namespace MemberOrder.Toml

def skipSpaces (cs : List Char) : List Char := cs.dropWhile isSpace

def skipVoid (inComment : Bool) : List Char → Option (List Char)
  | [] => some []
  | '\n' :: rest => skipVoid false rest
  | '\r' :: '\n' :: rest => skipVoid false rest
  | c :: rest =>
    if inComment then
      if isControl c then none else skipVoid true rest
    else if isSpace c then skipVoid false rest
    else if c = '#' then skipVoid true rest
    else some (c :: rest)

/-- What follows the end of the line, where only blanks and a comment may precede it. -/
def endLine (inComment : Bool) : List Char → Option (List Char)
  | [] => some []
  | '\n' :: rest => some rest
  | '\r' :: '\n' :: rest => some rest
  | c :: rest =>
    if inComment then
      if isControl c then none else endLine true rest
    else if isSpace c then endLine false rest
    else if c = '#' then endLine true rest
    else none

def isBareKeyChar (c : Char) : Bool := c.isAlphanum || c == '_' || c == '-'

def readKeyPart : List Char → Option (String × List Char)
  | [] => none
  | c :: rest =>
    if c = '"' ∨ c = '\x27' then
      (readShort (c :: rest)).map fun (content, after) => (String.ofList content, after)
    else
      let bare := (c :: rest).takeWhile isBareKeyChar
      if bare.isEmpty then none
      else some (String.ofList bare, (c :: rest).dropWhile isBareKeyChar)

/-- The most parts that a key may have, and the deepest that arrays and inline tables may nest. -/
def depthLimit : Nat := 80

def readKeyParts : Nat → List Char → Option (Key × List Char)
  | 0, _ => none
  | parts + 1, cs => do
    let (part, rest) ← readKeyPart cs
    match skipSpaces rest with
    | '.' :: rest =>
      let (others, rest) ← readKeyParts parts (skipSpaces rest)
      return (part :: others, rest)
    | rest => return ([part], rest)

def readKey (cs : List Char) : Option (Key × List Char) := readKeyParts depthLimit cs

def isWordChar (c : Char) : Bool := c.isAlphanum || ['+', '-', '_', '.', ':'].contains c

/-- An unquoted value. A date may be followed by one space and a time. -/
def readWord (cs : List Char) : Option (Item × List Char) := do
  let word := cs.takeWhile isWordChar
  let rest := cs.dropWhile isWordChar
  let (word, rest) := match afterDate? word, rest with
    | some [], ' ' :: d :: more =>
      if d.isDigit then
        (word ++ ' ' :: (d :: more).takeWhile isWordChar, (d :: more).dropWhile isWordChar)
      else (word, rest)
    | _, _ => (word, rest)
  let value ← scalar? word
  return (.scalar value, rest)

mutual

/-- A value that holds arrays and inline tables at most `depth` deep. -/
def readValue : Nat → Nat → List Char → Option (Item × List Char)
  | 0, _, _ => none
  | fuel + 1, depth, cs =>
    match cs, depth with
    | '[' :: rest, depth + 1 => do
      let (items, rest) ← readItems fuel depth rest
      return (.array items, rest)
    | '\x7b' :: rest, depth + 1 => do
      let (entries, rest) ← readPairs fuel depth [] rest
      return (.table .inline entries, rest)
    | c :: rest, _ =>
      if c = '"' ∨ c = '\x27' then do
        let (content, rest) ← readString (c :: rest)
        return (.scalar (.string (String.ofList content)), rest)
      else readWord (c :: rest)
    | [], _ => none

def readItems : Nat → Nat → List Char → Option (List Item × List Char)
  | 0, _, _ => none
  | fuel + 1, depth, cs => do
    match ← skipVoid false cs with
    | ']' :: rest => return ([], rest)
    | cs =>
      let (item, rest) ← readValue fuel depth cs
      match ← skipVoid false rest with
      | ',' :: rest =>
        let (items, rest) ← readItems fuel depth rest
        return (item :: items, rest)
      | ']' :: rest => return ([item], rest)
      | _ => none

def readPairs : Nat → Nat → Entries → List Char → Option (Entries × List Char)
  | 0, _, _, _ => none
  | fuel + 1, depth, entries, cs => do
    match ← skipVoid false cs with
    | '\x7d' :: rest => return (entries, rest)
    | cs =>
      let (key, rest) ← readKey cs
      match ← skipVoid false rest with
      | '=' :: rest =>
        let (value, rest) ← readValue fuel depth (← skipVoid false rest)
        let entries ← Entries.insert value key entries
        match ← skipVoid false rest with
        | ',' :: rest => readPairs fuel depth entries rest
        | '\x7d' :: rest => return (entries, rest)
        | _ => none
      | _ => none

end

def readStatement (fuel : Nat) (cs : List Char) : Option (Statement × List Char) :=
  match cs with
  | '[' :: '[' :: rest => do
    match ← readKey (skipSpaces rest) with
    | (key, ']' :: ']' :: rest) => return (.elementHeader key, rest)
    | _ => none
  | '[' :: rest => do
    match ← readKey (skipSpaces rest) with
    | (key, ']' :: rest) => return (.header key, rest)
    | _ => none
  | _ => do
    match ← readKey cs with
    | (key, '=' :: rest) =>
      let (value, rest) ← readValue fuel depthLimit (skipSpaces rest)
      return (.pair key value, rest)
    | _ => none

/-- The statements of a document. Each one takes at least a character off, which is what the
first argument counts. -/
def readStatements (fuel : Nat) : Nat → List Char → Option (List Statement)
  | 0, _ => none
  | steps + 1, cs => do
    match ← skipVoid false cs with
    | [] => return []
    | cs =>
      let (statement, rest) ← readStatement fuel cs
      let rest ← endLine false rest
      let statements ← readStatements fuel steps rest
      return statement :: statements

def skipMark : List Char → List Char
  | '\ufeff' :: rest => rest
  | cs => cs

def parse? (document : String) : Option Entries := do
  let cs := skipMark document.toList
  let size := 2 * cs.length + 2
  Document.ofStatements? (← readStatements size size cs)

end MemberOrder.Toml
