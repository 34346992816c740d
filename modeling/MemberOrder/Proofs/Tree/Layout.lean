import MemberOrder.Class.Collect
import MemberOrder.Proofs.Text.Tiling

/-! Well-formed trees of a source.

A parser promises that the children of a node stand in order inside it and that every node begins
and ends between characters. A class body opens and closes with a brace of its own. A body is
moreover well spaced when its children hold everything in it but blanks.
-/

set_option autoImplicit false

namespace MemberOrder

mutual

def Node.preorder : Node → List Node
  | .mk info children => .mk info children :: preorderAmong children

def preorderAmong : List Node → List Node
  | [] => []
  | child :: rest => child.preorder ++ preorderAmong rest

end

namespace Node

theorem mem_preorder_self (n : Node) : n ∈ n.preorder := by
  cases n with | mk info children => simp [preorder]

theorem mem_preorderAmong {n child : Node} {children : List Node} (member : child ∈ children)
    (below : n ∈ child.preorder) : n ∈ preorderAmong children := by
  induction children with
  | nil => cases member
  | cons first rest ih =>
    rw [preorderAmong, List.mem_append]
    rcases List.mem_cons.mp member with same | later
    · exact Or.inl (same ▸ below)
    · exact Or.inr (ih later)

theorem mem_preorder_of_child {n child parent : Node} (member : child ∈ parent.children)
    (below : n ∈ child.preorder) : n ∈ parent.preorder := by
  cases parent with
  | mk info children =>
    rw [preorder]
    exact List.mem_cons_of_mem _ (mem_preorderAmong member below)

end Node

mutual

theorem Node.mem_preorder_trans {inner middle : Node} (below : inner ∈ middle.preorder) :
    {outer : Node} → middle ∈ outer.preorder → inner ∈ outer.preorder
  | .mk info children, member => by
    rw [Node.preorder, List.mem_cons] at member
    rcases member with same | among
    · rwa [same] at below
    · rw [Node.preorder]
      exact List.mem_cons_of_mem _ (mem_preorderAmong_trans below among)

theorem mem_preorderAmong_trans {inner middle : Node} (below : inner ∈ middle.preorder) :
    {children : List Node} → middle ∈ preorderAmong children → inner ∈ preorderAmong children
  | [], member => by cases member
  | child :: rest, member => by
    rw [preorderAmong, List.mem_append] at member ⊢
    exact member.imp (Node.mem_preorder_trans below) (mem_preorderAmong_trans below)

end

namespace Node

/-! ## Layout -/

/-- The node begins and ends between characters, with its children in order inside it. -/
structure Placed (source : Text) (n : Node) : Prop where
  startCut : source.IsCut n.span.start
  stopCut : source.IsCut n.span.stop
  children : Span.InOrder n.span.start (n.children.map span) n.span.stop

instance (source : Text) (n : Node) : Decidable (n.Placed source) :=
  decidable_of_iff (source.IsCut n.span.start ∧ source.IsCut n.span.stop ∧
    Span.InOrder n.span.start (n.children.map span) n.span.stop)
    ⟨fun ⟨start, stop, children⟩ => ⟨start, stop, children⟩,
      fun placed => ⟨placed.startCut, placed.stopCut, placed.children⟩⟩

/-! ## Class bodies -/

def classBody? (n : Node) : Option Node := if n.isClass then n.field? "body" else none

theorem classBody?_eq_some_iff {n body : Node} :
    n.classBody? = some body ↔ n.isClass = true ∧ n.field? "body" = some body := by
  simp [classBody?]

theorem mem_of_classBody? {n body : Node} (found : n.classBody? = some body) :
    body ∈ n.children :=
  List.mem_of_find?_eq_some (classBody?_eq_some_iff.mp found).2

/-- The first and the last child are the braces over those very characters. -/
structure Braced (source : Text) (body : Node) : Prop where
  opening : ∃ first ∈ body.children.head?, first.kind = "\x7b" ∧ first.text source = ['\x7b']
  closing : ∃ last ∈ body.children.getLast?, last.kind = "\x7d" ∧ last.text source = ['\x7d']

instance (source : Text) (body : Node) : Decidable (body.Braced source) :=
  decidable_of_iff
    ((∃ first ∈ body.children.head?, first.kind = "\x7b" ∧ first.text source = ['\x7b']) ∧
      ∃ last ∈ body.children.getLast?, last.kind = "\x7d" ∧ last.text source = ['\x7d'])
    ⟨fun ⟨opening, closing⟩ => ⟨opening, closing⟩, fun braced => ⟨braced.opening, braced.closing⟩⟩

/-- The whole tree is laid out over the source as a parser promises. -/
structure WellFormed (source : Text) (root : Node) : Prop where
  placed : ∀ n ∈ root.preorder, n.Placed source
  braced : ∀ n ∈ root.preorder, ∀ body ∈ n.classBody?, body.Braced source

instance (source : Text) (root : Node) : Decidable (root.WellFormed source) :=
  decidable_of_iff ((∀ n ∈ root.preorder, n.Placed source) ∧
    ∀ n ∈ root.preorder, ∀ body ∈ n.classBody?, body.Braced source)
    ⟨fun ⟨placed, braced⟩ => ⟨placed, braced⟩, fun formed => ⟨formed.placed, formed.braced⟩⟩

theorem WellFormed.below {source : Text} {root node : Node} (formed : root.WellFormed source)
    (member : node ∈ root.preorder) : node.WellFormed source where
  placed := fun n below => formed.placed n (mem_preorder_trans below member)
  braced := fun n below => formed.braced n (mem_preorder_trans below member)

theorem WellFormed.child {source : Text} {parent child : Node} (formed : parent.WellFormed source)
    (member : child ∈ parent.children) : child.WellFormed source where
  placed := fun n below => formed.placed n (mem_preorder_of_child member below)
  braced := fun n below => formed.braced n (mem_preorder_of_child member below)

theorem WellFormed.self {source : Text} {n : Node} (formed : n.WellFormed source) :
    n.Placed source :=
  formed.placed n n.mem_preorder_self

theorem Braced.split {source : Text} {body : Node} (braced : body.Braced source) :
    ∃ opening middle closing, body.children = opening :: (middle ++ [closing]) ∧
      opening.kind = "\x7b" ∧ opening.text source = ['\x7b'] ∧
      closing.kind = "\x7d" ∧ closing.text source = ['\x7d'] := by
  obtain ⟨opening, first, openingKind, openingText⟩ := braced.opening
  obtain ⟨closing, last, closingKind, closingText⟩ := braced.closing
  obtain ⟨rest, split⟩ := List.head?_eq_some_iff.mp first
  rw [Option.mem_def, split] at last
  rcases List.eq_nil_or_concat rest with empty | ⟨middle, other, snoc⟩
  · -- A single child cannot be both braces.
    rw [empty] at last
    have same : opening = closing := by simpa using last
    rw [← same, openingKind] at closingKind
    exact absurd closingKind (by decide)
  · rw [List.concat_eq_append] at snoc
    rw [snoc, ← List.cons_append, List.getLast?_concat] at last
    have same : other = closing := by simpa using last
    exact ⟨opening, middle, closing, by rw [split, snoc, same], openingKind, openingText,
      closingKind, closingText⟩

/-! ## Spacing -/

/-- The last line of the node's text holds more than indentation. -/
def EndsInCode (source : Text) (n : Node) : Prop :=
  (Text.lastLine (n.text source)).all Text.isIndent = false

instance (source : Text) (n : Node) : Decidable (n.EndsInCode source) :=
  inferInstanceAs (Decidable (_ = _))

/-- The children of a class body hold everything in it but blanks, and the braces among them only
open and close it. The grammar of a body has no other braces, and its scan would drop them. -/
structure Spaced (source : Text) (body : Node) : Prop where
  blank : source.BlankOutside body.span.start (body.children.map span) body.span.stop
  code : ∀ child ∈ body.children, child.EndsInCode source
  delimited : ∀ child ∈ body.children.tail.dropLast, BodyScan.isBrace child = false

instance (source : Text) (body : Node) : Decidable (body.Spaced source) :=
  decidable_of_iff (source.BlankOutside body.span.start (body.children.map span) body.span.stop ∧
    (∀ child ∈ body.children, child.EndsInCode source) ∧
    ∀ child ∈ body.children.tail.dropLast, BodyScan.isBrace child = false)
    ⟨fun ⟨blank, code, delimited⟩ => ⟨blank, code, delimited⟩,
      fun spaced => ⟨spaced.blank, spaced.code, spaced.delimited⟩⟩

def WellSpaced (source : Text) (root : Node) : Prop :=
  ∀ n ∈ root.preorder, ∀ body ∈ n.classBody?, body.Spaced source

instance (source : Text) (root : Node) : Decidable (root.WellSpaced source) :=
  inferInstanceAs (Decidable (∀ n ∈ root.preorder, ∀ body ∈ n.classBody?, _))

def StartsInCode (source : Text) (n : Node) : Prop :=
  ∃ c ∈ (n.text source).head?, Text.isBlank c = false

instance (source : Text) (n : Node) : Decidable (n.StartsInCode source) :=
  Option.decidableExistsMem _

def WellBegun (source : Text) (root : Node) : Prop :=
  ∀ n ∈ root.preorder, ∀ body ∈ n.classBody?, ∀ child ∈ body.children, child.StartsInCode source

instance (source : Text) (root : Node) : Decidable (root.WellBegun source) :=
  inferInstanceAs (Decidable (∀ n ∈ root.preorder, ∀ body ∈ n.classBody?, _))

/-! ## Trees written out -/

def named (kind field : String) (span : Span) (startRow endRow : Nat) (children : List Node) :
    Node :=
  .mk ⟨kind, true, false, false, false, field, span, startRow, endRow⟩ children

def token (kind : String) (span : Span) (row : Nat) : Node :=
  .mk ⟨kind, false, false, false, false, "", span, row, row⟩ []

end Node

end MemberOrder
