/-! Latin letters with a diacritic and the base letters they are built on.

The table covers the Latin-1 Supplement and Latin Extended-A. Letters outside it, and those that
are no base letter with a mark (`æ`, `ß`, `ŋ`), have no base.
-/

set_option autoImplicit false

namespace MemberOrder.Text

/-- First and last code point of the accented letters, each with its lowercase base. -/
def accentedLetters : List (Nat × Nat × Char) := [
  (0xC0, 0xC5, 'a'), (0xC7, 0xC7, 'c'), (0xC8, 0xCB, 'e'), (0xCC, 0xCF, 'i'), (0xD1, 0xD1, 'n'),
  (0xD2, 0xD6, 'o'), (0xD8, 0xD8, 'o'), (0xD9, 0xDC, 'u'), (0xDD, 0xDD, 'y'),
  (0xE0, 0xE5, 'a'), (0xE7, 0xE7, 'c'), (0xE8, 0xEB, 'e'), (0xEC, 0xEF, 'i'), (0xF1, 0xF1, 'n'),
  (0xF2, 0xF6, 'o'), (0xF8, 0xF8, 'o'), (0xF9, 0xFC, 'u'), (0xFD, 0xFD, 'y'), (0xFF, 0xFF, 'y'),
  (0x100, 0x105, 'a'), (0x106, 0x10D, 'c'), (0x10E, 0x111, 'd'), (0x112, 0x11B, 'e'),
  (0x11C, 0x123, 'g'), (0x124, 0x127, 'h'), (0x128, 0x130, 'i'), (0x134, 0x135, 'j'),
  (0x136, 0x137, 'k'), (0x139, 0x142, 'l'), (0x143, 0x148, 'n'), (0x14C, 0x151, 'o'),
  (0x154, 0x159, 'r'), (0x15A, 0x161, 's'), (0x162, 0x167, 't'), (0x168, 0x173, 'u'),
  (0x174, 0x175, 'w'), (0x176, 0x178, 'y'), (0x179, 0x17E, 'z')]

def baseLetter? (c : Char) : Option Char :=
  (accentedLetters.find? fun (first, last, _) => first ≤ c.toNat && c.toNat ≤ last).map
    fun (_, _, base) => base

end MemberOrder.Text
