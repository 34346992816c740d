import MemberOrder.Member

/-! Classes as they are found in a source: the shape of each member, its verbatim text, and where
the member list stands.
-/

set_option autoImplicit false

namespace MemberOrder

/-- What the syntax tree shows a member to be. An orphan is an overload signature that no
implementation follows; index signatures and static blocks are not supported. -/
inductive HandleKind where
  | member (kind : MemberKind)
  | orphanSignature
  | unsupported (nodeKind : String)
  deriving DecidableEq, Repr

structure Handle where
  kind : HandleKind
  name : String
  isStatic : Bool
  isPrivate : Bool
  text : Text
  overloads : List Text
  line : Nat
  endsWithLineComment : Bool
  deriving DecidableEq, Repr

/-- The layout of a line that the last member shares with the code after it: the blanks before that
code, and the indentation of the line on which the class starts. -/
structure ClosingLine where
  gap : Text
  indent : Text
  deriving DecidableEq, Repr

/-- A class of a source. Its doc is the comment directly before it or before its export. The span
reaches from the indentation of the first member to the end of the last and the gap after it; an
empty body has none. -/
structure ClassDecl where
  name : Option String
  line : Nat
  doc : Option Text
  members : List Handle
  span : Option Span
  closing : Option ClosingLine
  lineEnding : LineEnding
  deriving DecidableEq, Repr

def ClassDecl.displayName (c : ClassDecl) : String := c.name.getD "<anonymous>"

end MemberOrder
