import MemberOrder.Bucket
import MemberOrder.Class.Declaration
import MemberOrder.Error

/-! One class put into canonical order.

The handles of a class become members, the members are put into canonical order, and only if that
changes the sequence of kinds and names is the member list written anew.
-/

set_option autoImplicit false

namespace MemberOrder

/-- An overloaded method moves as one member with its signatures, or the file is refused. -/
inductive OverloadPolicy where
  | group
  | reject
  deriving DecidableEq, Repr

def Handle.toMember (className : String) (policy : OverloadPolicy) (h : Handle) :
    Except SortError Member :=
  match h.kind with
  | .orphanSignature => .error (.unsupported className (.orphanSignature h.name h.line))
  | .unsupported nodeKind => .error (.unsupported className (.unplaced nodeKind h.line))
  | .member kind =>
    if h.overloads ≠ [] ∧ kind = .field then
      .error (.unsupported className (.overloadedField h.name))
    else if h.overloads ≠ [] ∧ policy = .reject then
      .error (.overloadsRejected className)
    else
      .ok {
        kind := kind
        name := if kind = .constructor then Member.constructorName else h.name
        isStatic := h.isStatic
        isPrivate := h.isPrivate
        text := h.text
        overloads := h.overloads
        endsWithLineComment := h.endsWithLineComment }

/-- The members of a class in source order; the first handle that has none decides the error. -/
def ClassDecl.extract (policy : OverloadPolicy) (c : ClassDecl) :
    Except SortError (List Member) :=
  c.members.mapM (Handle.toMember c.displayName policy)

namespace Buckets

/-- The member list as text, with one empty line between members. -/
def recompose (newline : Text) (buckets : Buckets) : Text :=
  Text.join (newline ++ newline) (buckets.toList.map (Member.render newline))

/-- What goes between the member list and code on its last line. Behind a `//` comment that code
moves to a line of its own, at the indentation of the class. -/
def closingSeparator (newline : Text) (closing : ClosingLine) (buckets : Buckets) : Text :=
  match buckets.toList.getLast? with
  | some last => if last.endsWithLineComment then newline ++ closing.indent else closing.gap
  | none => closing.gap

end Buckets

/-- What became of one class. There is a text only if the order changed. -/
structure ClassResult where
  className : String
  sourceOrder : List Signature
  newOrder : List Signature
  text : Option Text
  deriving DecidableEq, Repr

def ClassDecl.rebuild (c : ClassDecl) (buckets : Buckets) : Text :=
  let newline := c.lineEnding.text
  buckets.recompose newline ++
    match c.closing with
    | some closing => buckets.closingSeparator newline closing
    | none => []

def ClassDecl.process (policy : OverloadPolicy) (c : ClassDecl) :
    Except SortError ClassResult :=
  (c.extract policy).map fun members =>
    let buckets := (Buckets.ofMembers members).sorted
    let sourceOrder := members.map Member.signature
    let newOrder := buckets.toList.map Member.signature
    { className := c.displayName
      sourceOrder := sourceOrder
      newOrder := newOrder
      text := if sourceOrder = newOrder then none else some (c.rebuild buckets) }

end MemberOrder
