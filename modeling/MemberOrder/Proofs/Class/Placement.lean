import MemberOrder.Proofs.Class.Tiling

/-! Where the children of a class body end up.

The texts of the members and the blanks between them make up the member list. A comment, decorator
or separator moves as a whole with the one text that holds it, or it stays where it is, before the
list or behind it.
-/

set_option autoImplicit false

namespace MemberOrder

/-! ## Children that begin with code -/

theorem Node.StartsInCode.start_lt_stop {source : Text} {n : Node}
    (begins : n.StartsInCode source) : n.span.start < n.span.stop := by
  obtain ⟨c, head, -⟩ := begins
  have nonempty : n.text source ≠ [] := List.ne_nil_of_mem (List.mem_of_head? head)
  exact Text.lt_of_slice_ne_nil nonempty

theorem Node.StartsInCode.at_start {source : Text} {n : Node} (begins : n.StartsInCode source)
    (placed : n.Placed source) : ∃ c, source.At n.span.start c ∧ Text.isIndent c = false := by
  obtain ⟨c, head, solid⟩ := begins
  have nonempty : n.text source ≠ [] := List.ne_nil_of_mem (List.mem_of_head? head)
  have same := Text.head?_slice placed.startCut placed.stopCut placed.children.le nonempty
  obtain ⟨rest, follows⟩ := List.head?_eq_some_iff.mp (same.symm.trans head)
  refine ⟨c, ⟨placed.startCut, rest, follows⟩, Bool.eq_false_iff.mpr fun indented => ?_⟩
  have blank : Text.AllBlank [c] := Text.allBlank_of_isIndent (by simp [indented])
  rw [blank c List.mem_cons_self] at solid
  cases solid

/-! ## Before, inside and behind -/

/-- Spans in order hold a proper span at most once. -/
theorem Span.InOrder.existsUnique {low high : Nat} {ranges : List Span} {r s : Span}
    (ordered : Span.InOrder low ranges high) (member : r ∈ ranges) (proper : s.start < s.stop)
    (inside : r.start ≤ s.start ∧ s.stop ≤ r.stop) :
    ∃! i : Nat, ∃ t ∈ ranges[i]?, t.start ≤ s.start ∧ s.stop ≤ t.stop := by
  obtain ⟨i, found⟩ := List.getElem?_of_mem member
  refine ⟨i, ⟨r, found, inside⟩, ?_⟩
  rintro j ⟨t, found', inside'⟩
  obtain ⟨short, rfl⟩ := List.getElem?_eq_some_iff.mp found
  obtain ⟨short', rfl⟩ := List.getElem?_eq_some_iff.mp found'
  have apart := List.pairwise_iff_getElem.mp ordered.pairwise
  rcases Nat.lt_trichotomy i j with before | same | behind
  · have := apart i j short short' before
    omega
  · exact same.symm
  · have := apart j i short' short behind
    omega

/-- A child stands before all entries, inside one of them or behind all of them. -/
theorem Node.content_cases {source : Text} {ambient : Bool} {body child : Node} {low high : Nat}
    (ordered : Span.InOrder low (body.content.map Node.span) high) (member : child ∈ body.content) :
    (∀ e ∈ body.bodyEntries source ambient, child.span.stop ≤ e.start) ∨
      (∃ e ∈ body.bodyEntries source ambient,
        e.start ≤ child.span.start ∧ child.span.stop ≤ e.stop) ∨
      ∀ e ∈ body.bodyEntries source ambient, e.stop ≤ child.span.start := by
  obtain ⟨header, blocks, rest, blocked⟩ := body.blocked source ambient
  have whole := ordered
  rw [blocked.split, List.map_append, List.map_append] at whole
  obtain ⟨middle, first, later⟩ := Span.inOrder_append.mp whole
  obtain ⟨middle', inside, beyond⟩ := Span.inOrder_append.mp later
  have entries := Block.inOrder_spans inside
  rw [← Block.spans_eq blocked.entries] at entries
  have reach (e : Entry) (listed : e ∈ body.bodyEntries source ambient) :
      middle ≤ e.start ∧ e.start ≤ e.stop ∧ e.stop ≤ middle' :=
    entries.bounds (List.mem_map_of_mem listed)
  rw [blocked.split, List.mem_append, List.mem_append] at member
  -- What stays with the header, the block of some entry and what waits in vain at the end.
  rcases member with inHeader | inBlock | inRest
  · left
    intro e listed
    exact Nat.le_trans (first.bounds (List.mem_map_of_mem inHeader)).2.2 (reach e listed).1
  · right; left
    obtain ⟨b, listed, part⟩ := List.mem_flatMap.mp inBlock
    obtain ⟨e, entry, yields⟩ := exists_related blocked.entries.flip listed
    have nodes := ordered.sublist ((blocked.adjacent listed).sublist.map Node.span)
    have between := nodes.between b.head?_spans b.getLast?_spans (List.mem_map_of_mem part)
    obtain ⟨row, rfl⟩ := yields
    exact ⟨_, entry, between⟩
  · right; right
    intro e listed
    exact Nat.le_trans (reach e listed).2.2 (beyond.bounds (List.mem_map_of_mem inRest)).1

/-- The child lies in exactly one of the ranges, or before the whole span or behind it. -/
def Node.Settled (span : Span) (ranges : List Span) (child : Node) : Prop :=
  (∃! i : Nat, ∃ r ∈ ranges[i]?, r.start ≤ child.span.start ∧ child.span.stop ≤ r.stop) ∨
    child.span.stop ≤ span.start ∨ span.stop ≤ child.span.start

namespace ClassDecl

variable {source : Text} {node body : Node} {ambient : Bool} {c : ClassDecl}

/-- A class with a body is always read. -/
theorem exists_readFrom (hasBody : node.classBody? = some body) (source : Text) (parent : Node)
    (before : Option Node) :
    ∃ c ambient, ofNode? source parent before node = some c ∧
      c.ReadFrom source node body ambient := by
  obtain ⟨c, built⟩ : ∃ c, ofNode? source parent before node = some c := by
    rw [ofNode?, (Node.classBody?_eq_some_iff.mp hasBody).2]
    exact ⟨_, rfl⟩
  exact ⟨c, _, built, readFrom_of_classBody? hasBody built⟩

theorem ReadFrom.parts_eq_nil (read : c.ReadFrom source node body ambient)
    (none : c.span = none) : c.parts = [] := by
  rcases read.extent_cases with ⟨empty, -⟩ | ⟨first, last, -, -, span, -⟩
  · rw [read.parts_eq, empty, List.map_nil]
  · rw [none] at span
    cases span

theorem ReadFrom.settled {span : Span} {child : Node} (read : c.ReadFrom source node body ambient)
    (formed : node.WellFormed source) (spaced : body.Spaced source)
    (begins : child.StartsInCode source) (member : child ∈ body.children)
    (plain : BodyScan.isBrace child = false) (found : c.span = some span) :
    child.Settled span ((body.bodyEntries source ambient).map (Entry.range source)) := by
  have bodyFormed := formed.child (Node.mem_of_classBody? read.hasBody)
  have placed := (bodyFormed.child member).self
  have content : child ∈ body.content := List.mem_filter.mpr ⟨member, by simp [plain]⟩
  rcases Node.content_cases bodyFormed.content_inOrder content with before | inside | behind
  · -- The first text begins on a line that the child does not reach, as it ends in code.
    obtain ⟨first, last, head, -, rfl, -⟩ := read.span_eq found
    have firstListed := List.mem_of_head? head
    have code := Text.afterCode_of_slice placed.startCut placed.stopCut placed.children.le
      (spaced.code child member)
    exact Or.inr (Or.inl (code.le_toLineStart placed.stopCut
      (bodyFormed.bodyEntries_cut firstListed).1 (before first firstListed)))
  · obtain ⟨e, listed, start, stop⟩ := inside
    have ranges := (read.cutUp formed spaced found).ordered
    have line := source.toLineStart_le e.start
    exact Or.inl (ranges.existsUnique (List.mem_map_of_mem listed)
      (begins.start_lt_stop) ⟨Nat.le_trans line start, stop⟩)
  · -- The gap behind the last text ends before the code that the child begins with.
    obtain ⟨first, last, -, tail, rfl, -⟩ := read.span_eq found
    have lastListed := List.mem_of_getLast? tail
    obtain ⟨char, charAt, solid⟩ := begins.at_start placed
    exact Or.inr (Or.inr (gapOf_stop (bodyFormed.bodyEntries_cut lastListed).2 charAt solid
      (behind last lastListed) node.span.start).2)

end ClassDecl

/-- The texts of the members, in order and with blanks behind each, make up the member list of a
class, and no child of the body is torn apart by them. -/
theorem memberTexts_tile {source : Text} {root node body : Node} (formed : root.WellFormed source)
    (spaced : root.WellSpaced source) (begun : root.WellBegun source) (below : node ∈ root.preorder)
    (hasBody : node.classBody? = some body) (parent : Node) (before : Option Node) :
    ∃ c, ClassDecl.ofNode? source parent before node = some c ∧
      (c.span = none → c.parts = []) ∧
      ∀ span, c.span = some span → ∃ ranges, c.CutUp source span ranges ∧
        ∀ child ∈ body.children, BodyScan.isBrace child = false → child.Settled span ranges := by
  obtain ⟨c, ambient, built, read⟩ := ClassDecl.exists_readFrom hasBody source parent before
  have nodeFormed := formed.below below
  have bodySpaced := spaced node below body hasBody
  refine ⟨c, built, read.parts_eq_nil, fun span found => ?_⟩
  refine ⟨_, read.cutUp nodeFormed bodySpaced found, ?_⟩
  intro child member plain
  have begins := begun node below body hasBody child member
  exact read.settled nodeFormed bodySpaced begins member plain found

namespace Crowded

/-- Members that share lines with each other, with comments and with the braces. -/
def source : Text :=
  "class C \x7b // h\n  b; a; // t\n  m(): void;\n  @d m() \x7b \x7d\n  z; /* e */ \x7d".toList

def body : Node :=
  .named "class_body" "body" ⟨8, 68⟩ 0 4 [
    .token "\x7b" ⟨8, 9⟩ 0,
    .named "comment" "" ⟨10, 14⟩ 0 0 [],
    .named "public_field_definition" "" ⟨17, 18⟩ 1 1
      [.named "property_identifier" "name" ⟨17, 18⟩ 1 1 []],
    .token ";" ⟨18, 19⟩ 1,
    .named "public_field_definition" "" ⟨20, 21⟩ 1 1
      [.named "property_identifier" "name" ⟨20, 21⟩ 1 1 []],
    .token ";" ⟨21, 22⟩ 1,
    .named "comment" "" ⟨23, 27⟩ 1 1 [],
    .named "method_signature" "" ⟨30, 39⟩ 2 2
      [.named "property_identifier" "name" ⟨30, 31⟩ 2 2 []],
    .token ";" ⟨39, 40⟩ 2,
    .named "decorator" "" ⟨43, 45⟩ 3 3 [],
    .named "method_definition" "" ⟨46, 53⟩ 3 3
      [.named "property_identifier" "name" ⟨46, 47⟩ 3 3 []],
    .named "public_field_definition" "" ⟨56, 57⟩ 4 4
      [.named "property_identifier" "name" ⟨56, 57⟩ 4 4 []],
    .token ";" ⟨57, 58⟩ 4,
    .named "comment" "" ⟨59, 66⟩ 4 4 [],
    .token "\x7d" ⟨67, 68⟩ 4]

def node : Node :=
  .named "class_declaration" "" ⟨0, 68⟩ 0 4 [
    .token "class" ⟨0, 5⟩ 0,
    .named "type_identifier" "name" ⟨6, 7⟩ 0 0 [],
    body]

def tree : Node := .named "program" "" ⟨0, 68⟩ 0 4 [node]

/-- The comment of the header stays outside, and the list ends with a gap of one blank. -/
theorem ofNode?_eq :
    (ClassDecl.ofNode? source tree none node).map (fun c => (c.span, c.parts)) =
      some (some ⟨15, 67⟩, ["  b;".toList, "a; // t".toList, "  m(): void;".toList,
        "  @d m() \x7b \x7d".toList, "  z; /* e */".toList]) := by
  decide +kernel

end Crowded

theorem memberTexts_tile_crowded :
    Crowded.tree.WellFormed Crowded.source ∧ Crowded.tree.WellSpaced Crowded.source ∧
      Crowded.tree.WellBegun Crowded.source ∧ Crowded.node ∈ Crowded.tree.preorder ∧
      Crowded.node.classBody? = some Crowded.body ∧
      (ClassDecl.ofNode? Crowded.source Crowded.tree none Crowded.node).map
        (fun c => (c.span, c.parts)) =
          some (some ⟨15, 67⟩, ["  b;".toList, "a; // t".toList, "  m(): void;".toList,
            "  @d m() \x7b \x7d".toList, "  z; /* e */".toList]) ∧
      ∃ c, ClassDecl.ofNode? Crowded.source Crowded.tree none Crowded.node = some c ∧
        (c.span = none → c.parts = []) ∧
        ∀ span, c.span = some span → ∃ ranges, c.CutUp Crowded.source span ranges ∧
          ∀ child ∈ Crowded.body.children, BodyScan.isBrace child = false →
            child.Settled span ranges := by
  have formed : Crowded.tree.WellFormed Crowded.source := by decide
  have spaced : Crowded.tree.WellSpaced Crowded.source := by decide
  have begun : Crowded.tree.WellBegun Crowded.source := by decide
  have below : Crowded.node ∈ Crowded.tree.preorder :=
    Node.mem_preorder_of_child List.mem_cons_self (Node.mem_preorder_self _)
  have hasBody : Crowded.node.classBody? = some Crowded.body := rfl
  exact ⟨formed, spaced, begun, below, hasBody, Crowded.ofNode?_eq,
    memberTexts_tile formed spaced begun below hasBody Crowded.tree none⟩

end MemberOrder
