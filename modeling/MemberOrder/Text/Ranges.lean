/-! Sets of code points given as sorted lists of closed ranges.

A property of characters that a standard defines is stored as such a list, and membership is one
walk along it that stops at the first range lying above the code point.
-/

set_option autoImplicit false

namespace MemberOrder.Text

/-- The code points of a property: closed ranges in increasing order. -/
abbrev Ranges := List (Nat × Nat)

def Ranges.contains (code : Nat) : Ranges → Bool
  | [] => false
  | (first, last) :: rest =>
    if code < first then false else if code ≤ last then true else Ranges.contains code rest

/-- Every second, or every, code point from `first` to `last`. Case pairs alternate in many
alphabets, which is why a run has a stride. -/
structure Run where
  first : Nat
  last : Nat
  stride : Nat
  deriving DecidableEq, Repr

def Run.contains (run : Run) (code : Nat) : Bool :=
  run.first ≤ code && code ≤ run.last && (code - run.first) % run.stride == 0

end MemberOrder.Text
