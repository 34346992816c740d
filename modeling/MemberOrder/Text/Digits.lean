import MemberOrder.Text.Basic

/-! Numbers in digits.
-/

set_option autoImplicit false

namespace MemberOrder.Text

/-- The value of a digit; the letters of either case go on after nine. -/
def digitValue (c : Char) : Nat :=
  if c.isDigit then c.toNat - '0'.toNat
  else if 'a' ≤ c then c.toNat - 'a'.toNat + 10
  else c.toNat - 'A'.toNat + 10

def valueInBase (base : Nat) (digits : Text) : Nat :=
  digits.foldl (fun value c => value * base + digitValue c) 0

def nat? (digits : Text) : Option Nat :=
  if digits.isEmpty || !digits.all Char.isDigit then none else some (valueInBase 10 digits)

/-- The first number that does not fit in 64 bits. -/
def wordLimit : Nat := 18446744073709551616

end MemberOrder.Text
