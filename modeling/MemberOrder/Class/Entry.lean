import MemberOrder.Class.Declaration
import MemberOrder.Text.Blank
import MemberOrder.Tree.Basic

/-! The entries of a class body.

The children of a body are members, comments, decorators and separators. Comments and decorators
before a member belong to it, and so do a separator after it and a comment on the line where it
ends. A comment on the line of the opening brace belongs to the class.
-/

set_option autoImplicit false

namespace MemberOrder

/-- What an entry is on its own, before signatures are joined to implementations. -/
inductive Shape where
  | member (kind : MemberKind)
  | signature
  | unsupported
  deriving DecidableEq, Repr

structure Entry where
  shape : Shape
  nodeKind : String
  name : String
  isStatic : Bool
  isPrivate : Bool
  start : Nat
  stop : Nat
  endRow : Nat
  line : Nat
  endsWithLineComment : Bool
  deriving DecidableEq, Repr

namespace Entry

/-- The verbatim text, from the start of its line if only indentation precedes it. -/
def text (source : Text) (e : Entry) : Text :=
  source.slice ⟨source.toLineStart e.start, e.stop⟩

def handleKind (e : Entry) : HandleKind :=
  match e.shape with
  | .member kind => .member kind
  | .signature => .orphanSignature
  | .unsupported => .unsupported e.nodeKind

def toHandle (source : Text) (overloads : List Text) (e : Entry) : Handle where
  kind := e.handleKind
  name := e.name
  isStatic := e.isStatic
  isPrivate := e.isPrivate
  text := e.text source
  overloads := overloads
  line := e.line
  endsWithLineComment := e.endsWithLineComment

end Entry

namespace Node

def nameNode? (n : Node) : Option Node := (n.field? "name").or (n.field? "property")

def isStaticMember (n : Node) : Bool :=
  let modifiers := match n.nameNode? with
    | some name => n.children.takeWhile fun child : Node => child.span.start < name.span.start
    | none => n.children
  modifiers.any fun child => child.kind = "static" || child.kind = "static get"

def isPrivateModifier (source : Text) (n : Node) : Bool :=
  n.kind = "accessibility_modifier" && Text.trim (n.text source) == "private".toList

def isPrivateMember (source : Text) (name : String) (n : Node) : Bool :=
  name.toList.head? = some '#' || n.children.any (isPrivateModifier source)

def isField (n : Node) : Bool :=
  n.kind = "public_field_definition" || n.kind = "field_definition"

/-- The shape of a member named `name`. In an ambient class a signature is a declaration in its
own right; elsewhere it waits for an implementation. -/
def memberShape (ambient : Bool) (name : String) (n : Node) : Shape :=
  let callable := n.kind = "method_definition" || n.kind = "method_signature" ||
    n.kind = "abstract_method_signature"
  if n.isField then .member .field
  else if callable then
    if n.kind = "method_signature" && !ambient then .signature
    else if name = "constructor" && !n.isStaticMember then .member .constructor
    else .member .method
  else .unsupported

def toEntry (source : Text) (ambient : Bool) (start : Nat) (n : Node) : Entry :=
  let name := match n.nameNode? with
    | some node => node.textString source
    | none => n.kind
  { shape := n.memberShape ambient name
    nodeKind := n.kind
    name := name
    isStatic := n.isStaticMember
    isPrivate := n.isPrivateMember source name
    start := start
    stop := n.span.stop
    endRow := n.info.endRow
    line := n.line
    endsWithLineComment := false }

end Node

/-- A body read so far: the entries, the latest first, and where the comments and decorators begin
that wait for their member. -/
structure BodyScan where
  entries : List Entry
  pending : Option Nat
  deriving DecidableEq, Repr

namespace BodyScan

def empty : BodyScan := ⟨[], none⟩

def amend (change : Entry → Entry) (scan : BodyScan) : BodyScan :=
  match scan.entries with
  | [] => scan
  | last :: earlier => { scan with entries := change last :: earlier }

def await (start : Nat) (scan : BodyScan) : BodyScan :=
  { scan with pending := some (scan.pending.getD start) }

/-- A comment on the line where the latest entry ends, with nothing waiting in between. -/
def isTrailing (scan : BodyScan) (child : Node) : Bool :=
  child.isComment && scan.pending.isNone &&
    match scan.entries with
    | [] => false
    | last :: _ => last.endRow == child.info.startRow

/-- A comment behind the opening brace, before any member. -/
def isHeaderComment (headerRow : Nat) (scan : BodyScan) (child : Node) : Bool :=
  child.isComment && scan.entries.isEmpty && scan.pending.isNone &&
    child.info.startRow == headerRow

def isBrace (child : Node) : Bool := child.kind = "\x7b" || child.kind = "\x7d"

def isSeparator (child : Node) : Bool := child.kind = ";" || child.kind = ","

def step (source : Text) (ambient : Bool) (headerRow : Nat) (scan : BodyScan) (child : Node) :
    BodyScan :=
  if isBrace child || scan.isHeaderComment headerRow child then scan
  else if child.isComment || child.kind = "decorator" then
    if scan.isTrailing child then
      scan.amend fun last =>
        { last with
          stop := child.span.stop
          endsWithLineComment := ['/', '/'].isPrefixOf (child.text source) }
    else scan.await child.span.start
  else if isSeparator child then
    if scan.pending.isNone then
      scan.amend fun last =>
        { last with
          stop := child.span.stop
          endRow := child.info.endRow
          endsWithLineComment := false }
    else scan
  else
    { entries := child.toEntry source ambient (scan.pending.getD child.span.start) :: scan.entries
      pending := none }

end BodyScan

def Node.bodyEntries (source : Text) (ambient : Bool) (body : Node) : List Entry :=
  (body.children.foldl (BodyScan.step source ambient body.info.startRow) .empty).entries.reverse

end MemberOrder
