import MemberOrder.Text.Basic

/-! Ranges of a text replaced by other texts. Everything outside the ranges is copied.
-/

set_option autoImplicit false

namespace MemberOrder

structure Replacement where
  span : Span
  text : Text
  deriving DecidableEq, Repr

namespace Text

/-- Copies the source from `cursor` on, with the replacements in the order given. -/
def spliceFrom (source : Text) (cursor : Nat) : List Replacement → Text
  | [] => source.dropBytes cursor
  | r :: rest =>
    source.slice ⟨cursor, r.span.start⟩ ++ r.text ++ spliceFrom source r.span.stop rest

def startsBefore (a b : Replacement) : Bool := a.span.start ≤ b.span.start

/-- The source with the ranges replaced. Replacements may come in any order. -/
def splice (source : Text) (replacements : List Replacement) : Text :=
  spliceFrom source 0 (replacements.mergeSort startsBefore)

end Text

end MemberOrder
