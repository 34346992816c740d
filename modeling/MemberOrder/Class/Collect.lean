import MemberOrder.Class.Overload

/-! The classes of a source: every class that is not inside another one.
-/

set_option autoImplicit false

namespace MemberOrder

/-- The keyword token `class` has the kind of a class expression but is not named. -/
def Node.isClass (n : Node) : Bool :=
  n.info.isNamed &&
    (n.kind = "class_declaration" || n.kind = "abstract_class_declaration" || n.kind = "class")

/-- A comment before an export or an ambient declaration speaks of what is declared in it. -/
def Node.wrapsDeclaration (n : Node) : Bool :=
  n.kind = "export_statement" || n.kind = "ambient_declaration"

namespace ClassDecl

/-- The layout of the line on which the member list ends at `stop`, when code follows there. -/
def closingLine? (source : Text) (stop classStart : Nat) : Option ClosingLine :=
  let line := Text.firstLine (source.dropBytes stop)
  if (line.dropWhile Text.isIndent).all Text.isBlank then none
  else
    some {
      gap := line.takeWhile Text.isIndent
      indent := (source.dropBytes (source.lineStart classStart)).takeWhile Text.isIndent }

/-- The class's own name, or that of the variable it is bound to. -/
def nameOf? (source : Text) (parent node : Node) : Option String :=
  match node.field? "name" with
  | some name => some (name.textString source)
  | none =>
    if parent.kind = "variable_declarator" then
      (parent.field? "name").map (·.textString source)
    else none

def extent (source : Text) (classStart : Nat) (entries : List Entry) :
    Option Span × Option ClosingLine :=
  match entries.head?, entries.getLast? with
  | some first, some last =>
    let closing := closingLine? source last.stop classStart
    let gap := match closing with
      | some line => Text.byteSize line.gap
      | none => 0
    (some ⟨source.toLineStart first.start, last.stop + gap⟩, closing)
  | _, _ => (none, none)

/-- The declaration at a class node with a body, where `before` is what precedes it. -/
def ofNode? (source : Text) (parent : Node) (before : Option Node) (node : Node) :
    Option ClassDecl :=
  (node.field? "body").map fun body =>
    let entries := body.bodyEntries source (parent.kind = "ambient_declaration")
    let (span, closing) := extent source node.span.start entries
    { name := nameOf? source parent node
      line := node.line
      doc := (before.filter Node.isComment).map (·.text source)
      members := groupOverloads source entries
      span := span
      closing := closing
      lineEnding := .ofText source }

end ClassDecl

mutual

/-- The outermost classes below a node, in source order. What precedes the node, or the
declaration that wraps it, is `outer`. -/
def Node.classesBelow (source : Text) (outer : Option Node) : Node → List ClassDecl
  | .mk info children => classesAmong source (.mk info children) outer none children

def classesAmong (source : Text) (parent : Node) (outer previous : Option Node) :
    List Node → List ClassDecl
  | [] => []
  | child :: rest =>
    let before := if parent.wrapsDeclaration then outer else previous
    (if child.isClass then (ClassDecl.ofNode? source parent before child).toList
      else child.classesBelow source before) ++
      classesAmong source parent outer (some child) rest

end

def collectClasses (source : Text) (root : Node) : List ClassDecl :=
  root.classesBelow source none

end MemberOrder
