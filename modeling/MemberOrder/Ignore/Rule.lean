import MemberOrder.Ignore.Pattern
import MemberOrder.Text.Blank

/-! The rules in an ignore file.

A rule without a slash holds for a name at any depth below its file; one with a slash holds for a
path from the directory of its file. A final slash restricts a rule to directories, an exclamation
mark in front takes back what earlier rules leave out. The last rule that applies decides.
-/

set_option autoImplicit false

namespace MemberOrder.Ignore

structure Rule where
  keeps : Bool
  directoriesOnly : Bool
  pattern : Pattern

/-- Without the blanks at its end, unless the last one is escaped. -/
def trimEnd (line : List Char) : List Char :=
  match line.reverse with
  | ' ' :: '\\' :: _ => line
  | reversed => (reversed.dropWhile Text.isBlank).reverse

/-- What the first characters of a rule say: whether it keeps, whether it starts at the directory
of its file, and the pattern behind them. -/
def readFront : List Char → Bool × Bool × List Char
  | '\\' :: '!' :: rest => (false, false, '!' :: rest)
  | '\\' :: '#' :: rest => (false, false, '#' :: rest)
  | '!' :: '/' :: rest => (true, true, rest)
  | '!' :: rest => (true, false, rest)
  | '/' :: rest => (false, true, rest)
  | body => (false, false, body)

/-- Whether a pattern ends in a slash, escaped or not, and the pattern in front of it. -/
def readBack (body : List Char) : Bool × List Char :=
  match body.reverse with
  | '/' :: '\\' :: rest => (true, rest.reverse)
  | '/' :: rest => (true, rest.reverse)
  | _ => (false, body)

/-- The pattern for the whole path. A name may stand at any depth, and two stars at the end mean
something inside. -/
def wholePattern (anchored : Bool) (body : List Char) : List Char :=
  let stars := "**".toList
  let body := if anchored || body.contains '/' || body == stars then body else stars ++ '/' :: body
  if ('/' :: stars).isSuffixOf body then body ++ "/*".toList else body

/-- The rule on a line. Empty lines, comments and lines with no valid pattern have none. -/
def Rule.ofLine? (line : List Char) : Option Rule :=
  if line.head? = some '#' then none
  else
    let line := trimEnd line
    if line.isEmpty then none
    else
      let (keeps, anchored, body) := readFront line
      let (directoriesOnly, body) := readBack body
      (Pattern.parse? (wholePattern anchored body)).map fun pattern =>
        ⟨keeps, directoriesOnly, pattern⟩

def Rule.applies (path : List UInt8) (isDirectory : Bool) (rule : Rule) : Bool :=
  (!rule.directoriesOnly || isDirectory) && rule.pattern.fits path

def judge (rules : List Rule) (path : List UInt8) (isDirectory : Bool) : Option Bool :=
  (rules.reverse.find? (Rule.applies path isDirectory)).map fun rule => !rule.keeps

/-- The rules in the lines of an ignore file. Byte order marks in front do not count. -/
def rules (lines : List String) : List Rule :=
  match lines.map String.toList with
  | [] => []
  | first :: rest => (first.dropWhile (· == '\ufeff') :: rest).filterMap Rule.ofLine?

end MemberOrder.Ignore
