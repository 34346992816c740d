import MemberOrder.Text.Basic
import MemberOrder.Text.Ranges

/-! Blank characters, the Unicode property White_Space, and what depends on them: trimming and
splitting a text into words.
-/

set_option autoImplicit false

namespace MemberOrder.Text

/-- The ranges of the property White_Space. -/
def blankRanges : Ranges := [
  (0x9, 0xD), (0x20, 0x20), (0x85, 0x85), (0xA0, 0xA0), (0x1680, 0x1680), (0x2000, 0x200A),
  (0x2028, 0x2029), (0x202F, 0x202F), (0x205F, 0x205F), (0x3000, 0x3000)]

def isBlank (c : Char) : Bool := blankRanges.contains c.toNat

def trim (t : Text) : Text :=
  ((t.dropWhile isBlank).reverse.dropWhile isBlank).reverse

def words : Text → List Text
  | [] => []
  | c :: rest =>
    if isBlank c then words rest
    else
      match rest with
      | [] => [[c]]
      | d :: _ =>
        if isBlank d then [c] :: words rest
        else
          match words rest with
          | [] => [[c]]
          | word :: others => (c :: word) :: others

def normalizeBlanks (t : Text) : Text := join [' '] (words t)

end MemberOrder.Text
