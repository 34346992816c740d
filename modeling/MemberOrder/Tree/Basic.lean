import MemberOrder.Text.Basic

/-! Concrete syntax trees as a parser delivers them.

A node covers a range of bytes, has a kind, possibly the name of the field it fills in its parent,
and its children in source order, tokens and comments included.
-/

set_option autoImplicit false

namespace MemberOrder

/-- A node without its children. Tokens such as keywords and braces are not named. A node has an
error if it or one below it is an error or is missing. -/
structure NodeInfo where
  kind : String
  isNamed : Bool
  isError : Bool
  isMissing : Bool
  hasError : Bool
  field : String
  span : Span
  startRow : Nat
  endRow : Nat
  deriving DecidableEq, Repr

inductive Node where
  | mk (info : NodeInfo) (children : List Node)

namespace Node

def info : Node → NodeInfo
  | mk info _ => info

def children : Node → List Node
  | mk _ children => children

def kind (n : Node) : String := n.info.kind

def span (n : Node) : Span := n.info.span

def line (n : Node) : Nat := n.info.startRow + 1

def field? (n : Node) (name : String) : Option Node :=
  n.children.find? (·.info.field = name)

def text (source : Text) (n : Node) : Text := source.slice n.span

def textString (source : Text) (n : Node) : String := String.ofList (n.text source)

def isComment (n : Node) : Bool := n.kind = "comment"

end Node

end MemberOrder
