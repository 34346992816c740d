import MemberOrder.Text.Basic

/-! Class members as the sorter sees them.

A member is a snapshot: what it is, what it is called, which modifiers decide its place, and its
verbatim text. A method and its overload signatures are one member, so they move together.
-/

set_option autoImplicit false

namespace MemberOrder

inductive MemberKind where
  | field
  | method
  | constructor
  deriving DecidableEq, Repr

def MemberKind.label : MemberKind → String
  | field => "field"
  | method => "method"
  | constructor => "constructor"

/-- What two member orders are compared by. -/
structure Signature where
  kind : MemberKind
  name : String
  deriving DecidableEq, Repr

def Signature.label (s : Signature) : String := s.kind.label ++ " " ++ s.name

/-- Protected and unmarked members count as public. The text includes leading comments and
decorators; if it ends in a `//` comment, nothing may follow on its line. -/
structure Member where
  kind : MemberKind
  name : String
  isStatic : Bool
  isPrivate : Bool
  text : Text
  overloads : List Text
  endsWithLineComment : Bool
  deriving DecidableEq, Repr

namespace Member

/-- The name every constructor goes by. It is never compared with another name. -/
def constructorName : String := "Constructor"

def signature (m : Member) : Signature := ⟨m.kind, m.name⟩

def render (newline : Text) (m : Member) : Text :=
  Text.join newline (m.overloads ++ [m.text])

end Member

end MemberOrder
