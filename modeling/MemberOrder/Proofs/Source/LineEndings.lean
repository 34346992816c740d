import MemberOrder.Proofs.Class.Tiling
import MemberOrder.Proofs.Source.Frame
import MemberOrder.Proofs.Text.LineBreak

/-! Sorting a source keeps its line endings.

Every piece that moves begins with indentation or with a child of the class body and ends with one,
so it is cut out between breaks. What goes between the pieces is made of indentation and of the
line ending that the source has.
-/

set_option autoImplicit false

namespace MemberOrder

/-! ## Trimmed children -/

/-- The node begins with a character that is not blank and does not end in a line break. -/
structure Node.Trimmed (source : Text) (n : Node) : Prop where
  head : ∃ c ∈ (n.text source).head?, Text.isBlank c = false
  last : ∀ c ∈ (n.text source).getLast?, c ≠ '\r' ∧ c ≠ '\n'

-- The instances look at the one character that there is; others go through all characters.
instance (source : Text) (n : Node) : Decidable (n.Trimmed source) :=
  haveI : Decidable (∃ c ∈ (n.text source).head?, Text.isBlank c = false) :=
    Option.decidableExistsMem _
  haveI : Decidable (∀ c ∈ (n.text source).getLast?, c ≠ '\r' ∧ c ≠ '\n') :=
    Option.decidableForallMem _
  decidable_of_iff ((∃ c ∈ (n.text source).head?, Text.isBlank c = false) ∧
    ∀ c ∈ (n.text source).getLast?, c ≠ '\r' ∧ c ≠ '\n')
    ⟨fun ⟨head, last⟩ => ⟨head, last⟩, fun trimmed => ⟨trimmed.head, trimmed.last⟩⟩

def Node.WellTrimmed (source : Text) (root : Node) : Prop :=
  ∀ n ∈ root.preorder, ∀ body ∈ n.classBody?, ∀ child ∈ body.children, child.Trimmed source

instance (source : Text) (root : Node) : Decidable (root.WellTrimmed source) :=
  inferInstanceAs (Decidable (∀ n ∈ root.preorder, ∀ body ∈ n.classBody?, _))

theorem Node.Trimmed.detachable {source : Text} {n : Node} (trimmed : n.Trimmed source) :
    (n.text source).Detachable := by
  obtain ⟨c, head, solid⟩ := trimmed.head
  constructor
  · refine ⟨c, head, ?_⟩
    rintro rfl
    exact absurd solid (by decide)
  · intro last
    exact (trimmed.last '\r' last).1 rfl

/-- From the line of one child to the end of another the text begins with indentation or with the
first child, and it ends with the other. -/
theorem Node.Trimmed.detachable_between {source : Text} {first last : Node}
    (firstTrimmed : first.Trimmed source) (lastTrimmed : last.Trimmed source)
    (firstPlaced : first.Placed source) (lastPlaced : last.Placed source)
    (le : first.span.start ≤ last.span.start) :
    (source.slice ⟨source.toLineStart first.span.start, last.span.stop⟩).Detachable := by
  have width := lastPlaced.children.le
  have ends : source.slice ⟨first.span.start, last.span.start⟩ ++ last.text source =
      source.slice ⟨first.span.start, last.span.stop⟩ :=
    Text.slice_append_slice firstPlaced.startCut lastPlaced.startCut lastPlaced.stopCut le width
  have lineCut := Text.isCut_toLineStart firstPlaced.startCut
  rw [← Text.slice_append_slice lineCut firstPlaced.startCut lastPlaced.stopCut
    (source.toLineStart_le _) (Nat.le_trans le width)]
  apply Text.Detachable.indented (Text.slice_toLineStart firstPlaced.startCut)
  obtain ⟨c, head, solid⟩ := firstTrimmed.detachable.head
  obtain ⟨d, head', -⟩ := lastTrimmed.detachable.head
  have nonempty := List.ne_nil_of_mem (List.mem_of_head? head)
  have nonempty' := List.ne_nil_of_mem (List.mem_of_head? head')
  constructor
  · -- Both the piece and the first child begin with what follows the start of that child.
    have same := Text.head?_slice firstPlaced.startCut firstPlaced.stopCut firstPlaced.children.le
      nonempty
    rw [Text.head?_slice firstPlaced.startCut lastPlaced.stopCut (Nat.le_trans le width), ← same]
    · exact ⟨c, head, solid⟩
    · rw [← ends]
      exact List.append_ne_nil_of_right_ne_nil _ nonempty'
  · rw [← ends, List.getLast?_append_of_ne_nil _ nonempty']
    exact lastTrimmed.detachable.last

/-! ## Entries -/

/-- An entry begins with a child of the body and ends with the same or a later one. -/
theorem Node.bodyEntries_reach {source : Text} {ambient : Bool} {body : Node} {e : Entry}
    {low high : Nat} (ordered : Span.InOrder low (body.content.map Node.span) high)
    (member : e ∈ body.bodyEntries source ambient) :
    ∃ first ∈ body.children, ∃ last ∈ body.children, e.start = first.span.start ∧
      e.stop = last.span.stop ∧ first.span.start ≤ last.span.start := by
  obtain ⟨b, adjacent, -, row, rfl⟩ := Node.exists_block member
  obtain ⟨first, last⟩ := Block.ends_mem adjacent
  have inside := ordered.sublist (adjacent.sublist.map Node.span)
  have starts : b.first.span.start ≤ b.last.span.start :=
    inside.head_le_getLast (by simp [b.head?_nodes]) (by simp [b.getLast?_nodes])
  exact ⟨b.first, first, b.last, last, rfl, rfl, starts⟩

theorem Node.bodyEntries_portable {source : Text} {ambient : Bool} {body : Node} {e e' : Entry}
    {ending : LineEnding} (formed : body.WellFormed source) (braced : body.Braced source)
    (trimmed : ∀ child ∈ body.children, child.Trimmed source) (breaks : source.BreaksWith ending)
    (member : e ∈ body.bodyEntries source ambient)
    (member' : e' ∈ body.bodyEntries source ambient) (le : e.start ≤ e'.start) :
    (source.slice ⟨source.toLineStart e.start, e'.stop⟩).Portable ending := by
  obtain ⟨opening, closing, -, -, -, -, ordered⟩ := braced.interior formed
  obtain ⟨first, firstChild, -, -, start, -, -⟩ := Node.bodyEntries_reach ordered member
  obtain ⟨first', -, last, lastChild, start', stop', le'⟩ := Node.bodyEntries_reach ordered member'
  have firstPlaced := (formed.child firstChild).self
  have lastPlaced := (formed.child lastChild).self
  have before := source.toLineStart_le e.start
  have width := lastPlaced.children.le
  have detachable := (trimmed first firstChild).detachable_between (trimmed last lastChild)
    firstPlaced lastPlaced (by omega)
  rw [← start, ← stop'] at detachable
  have startCut : source.IsCut e.start := start ▸ firstPlaced.startCut
  have stopCut : source.IsCut e'.stop := stop' ▸ lastPlaced.stopCut
  exact detachable.portable_slice (Text.isCut_toLineStart startCut) stopCut (by omega) breaks

namespace ClassDecl

variable {source : Text} {node body : Node} {ambient : Bool} {c : ClassDecl} {ending : LineEnding}

theorem ReadFrom.portable_parts (read : c.ReadFrom source node body ambient)
    (formed : node.WellFormed source) (trimmed : ∀ child ∈ body.children, child.Trimmed source)
    (breaks : source.BreaksWith ending) : ∀ part ∈ c.parts, part.Portable ending := by
  intro part member
  rw [read.parts_eq] at member
  obtain ⟨e, entry, rfl⟩ := List.mem_map.mp member
  exact Node.bodyEntries_portable (formed.child (Node.mem_of_classBody? read.hasBody))
    (formed.braced node node.mem_preorder_self body read.hasBody) trimmed breaks entry entry
    (Nat.le_refl _)

theorem ReadFrom.portable_span {span : Span} (read : c.ReadFrom source node body ambient)
    (formed : node.WellFormed source) (trimmed : ∀ child ∈ body.children, child.Trimmed source)
    (breaks : source.BreaksWith ending) (found : c.span = some span) :
    (source.slice span).Portable ending := by
  have bodyFormed := formed.child (Node.mem_of_classBody? read.hasBody)
  have braced := formed.braced node node.mem_preorder_self body read.hasBody
  obtain ⟨opening, closing, -, -, -, -, content⟩ := braced.interior bodyFormed
  have ordered : Span.InOrder (opening + 1)
      ((body.bodyEntries source ambient).map Entry.span) closing :=
    Node.bodyEntries_inOrder content
  obtain ⟨first, last, head, tail, rfl, -⟩ := read.span_eq found
  have starts : first.span.start ≤ last.span.start :=
    ordered.head_le_getLast (by simp [head]) (by simp [tail])
  have firstMember := List.mem_of_head? head
  have lastMember := List.mem_of_getLast? tail
  have list := Node.bodyEntries_portable bodyFormed braced trimmed breaks firstMember lastMember
    starts
  -- The gap behind the last entry is indentation.
  obtain ⟨rest, follows⟩ := gapOf_follows source last.stop node.span.start
  have indented := gapOf_indented source last.stop node.span.start
  have startCut := Text.isCut_toLineStart (bodyFormed.bodyEntries_cut firstMember).1
  have stopCut := (bodyFormed.bodyEntries_cut lastMember).2
  have before := source.toLineStart_le first.start
  have reach := Entry.bounds ordered head tail
  rw [← Text.slice_append_slice startCut stopCut (stopCut.add follows) (by omega)
    (Nat.le_add_right _ _), Text.slice_of_dropBytes follows]
  exact list.append (Text.closed_of_isIndent indented)

/-! ## New member lists -/

theorem ReadFrom.closed_separator {span : Span} (read : c.ReadFrom source node body ambient)
    (spanned : c.span = some span) (last : Option Member) :
    (c.separator last).Closed c.lineEnding := by
  obtain ⟨first, final, -, -, -, closing⟩ := read.span_eq spanned
  unfold separator
  split
  case h_1 line found =>
    obtain ⟨gap, indent⟩ := closingLine?_indented (closing.symm.trans found)
    split
    · exact (Text.closed_lineEnding _).append (Text.closed_of_isIndent indent)
    · exact Text.closed_of_isIndent gap
  case h_2 => exact Text.closed_of_isIndent rfl

theorem portable_render {m : Member} (each : ∀ part ∈ m.parts, part.Portable ending) :
    (m.render ending.text).Portable ending :=
  Text.portable_join (Text.closed_lineEnding ending) (by simp) each

/-- The new member list is made of the texts of the entries, of line endings and of a separator. -/
theorem ReadFrom.portable_rebuild {span : Span} {policy : OverloadPolicy} {members : List Member}
    (read : c.ReadFrom source node body ambient) (spanned : c.span = some span)
    (extracted : c.extract policy = .ok members) (nonempty : members ≠ [])
    (each : ∀ part ∈ c.parts, part.Portable c.lineEnding) :
    (c.rebuild (Buckets.ofMembers members).sorted).Portable c.lineEnding := by
  have newline := Text.closed_lineEnding c.lineEnding
  rw [rebuild_eq]
  apply Text.Portable.append _ (read.closed_separator spanned _)
  apply Text.portable_join (newline.append newline)
  · simpa using canonicalOrder_ne_nil nonempty
  · intro t rendered
    obtain ⟨m, inside, rfl⟩ := List.mem_map.mp rendered
    apply portable_render
    intro part own
    apply each
    rw [← extract_parts extracted]
    exact List.mem_flatMap.mpr ⟨m, (canonicalOrder_perm members).mem_iff.mp inside, own⟩

end ClassDecl

/-! ## Whole sources -/

/-- Patches that put portable texts in the place of portable ones keep the line breaks. -/
theorem Text.Patched.breaksWith_iff {source t out : Text} {cursor : Nat} {ending : LineEnding}
    {replacements : List Replacement} (patched : Text.Patched cursor t replacements out)
    (cut : source.IsCut cursor) (here : source.dropBytes cursor = t)
    (each : ∀ r ∈ replacements,
      (source.slice r.span).Portable ending ∧ r.text.Portable ending) :
    out.BreaksWith ending ↔ t.BreaksWith ending := by
  induction patched with
  | rest cursor kept => exact Iff.rfl
  | @replace cursor kept old later out r more start stop patched ih =>
    obtain ⟨⟨oldPortable, newPortable⟩, others⟩ := List.forall_mem_cons.mp each
    obtain ⟨piece, stopCut, fromStop⟩ := cut.replaced here start stop
    rw [piece] at oldPortable
    rw [newPortable.breaksWith_iff, oldPortable.breaksWith_iff, ih stopCut fromStop others]
    simp [newPortable.breaks, oldPortable.breaks]

theorem ClassDecl.Rewrites.portable {source : Text} {root : Node} {policy : OverloadPolicy}
    {skip : ClassFilter} {c : ClassDecl} {r : Replacement} {ending : LineEnding}
    (formed : root.WellFormed source) (trimmed : root.WellTrimmed source)
    (breaks : source.BreaksWith ending) (same : LineEnding.ofText source = ending)
    (member : c ∈ collectClasses source root) (rewrites : c.Rewrites policy skip r) :
    (source.slice r.span).Portable ending ∧ r.text.Portable ending := by
  obtain ⟨span, newText⟩ := rewrites
  obtain ⟨node, below, body, ambient, read⟩ := readFrom_of_mem_collectClasses member
  obtain ⟨members, extracted, nonempty, rebuilt⟩ := newText?_eq_some newText
  have nodeFormed := formed.below below
  have childTrimmed := trimmed node below body read.hasBody
  have parts := read.portable_parts nodeFormed childTrimmed breaks
  refine ⟨read.portable_span nodeFormed childTrimmed breaks span, ?_⟩
  rw [← same, ← read.lineEnding] at parts ⊢
  rw [rebuilt]
  exact read.portable_rebuild span extracted nonempty parts

theorem breaksWith_of_sortSource {path : Path} {source contents : Text} {root : Node}
    {policy : OverloadPolicy} {skip : ClassFilter} {outcome : SourceOutcome} {ending : LineEnding}
    (formed : root.WellFormed source) (trimmed : root.WellTrimmed source)
    (sorted : sortSource path source root policy skip = .ok outcome)
    (changed : outcome.contents = some contents) (breaks : source.BreaksWith ending)
    (broken : ending = .crlf → '\n' ∈ source) : contents.BreaksWith ending := by
  obtain ⟨replacements, framed, -⟩ := framed_of_sortSource formed sorted
  have same := Text.ofText_eq breaks broken
  rw [(framed.patched contents changed).breaksWith_iff source.isCut_zero
    (Text.dropBytes_zero source)]
  · exact breaks
  · intro r member
    obtain ⟨c, reordered, rewrites⟩ := exists_related framed.rewrites member
    exact rewrites.portable formed trimmed breaks same (List.mem_of_mem_filter reordered)

/-- A source in which every line feed has a carriage return before it gets a text of that kind, and
a source in which none has one gets a text in which none has. -/
theorem sortSource_keeps_lineEndings {path : Path} {source contents : Text} {root : Node}
    {policy : OverloadPolicy} {skip : ClassFilter} {outcome : SourceOutcome}
    (formed : root.WellFormed source) (trimmed : root.WellTrimmed source)
    (sorted : sortSource path source root policy skip = .ok outcome)
    (changed : outcome.contents = some contents) :
    (source.BreaksWith .crlf → '\n' ∈ source → contents.BreaksWith .crlf) ∧
      (source.BreaksWith .lf → contents.BreaksWith .lf) := by
  constructor
  · intro breaks broken
    exact breaksWith_of_sortSource formed trimmed sorted changed breaks fun _ => broken
  · intro breaks
    exact breaksWith_of_sortSource formed trimmed sorted changed breaks fun same => by cases same

namespace Paired

/-- A comment ends the member that goes last, so the closing brace moves to a line of its own. -/
def source : Text := "class A \x7b\r\n  #b = 2; // x\r\n  a = 1; \x7d\r\n".toList

def tree : Node :=
  .named "program" "" ⟨0, 39⟩ 0 3 [
    .named "class_declaration" "" ⟨0, 37⟩ 0 2 [
      .token "class" ⟨0, 5⟩ 0,
      .named "type_identifier" "name" ⟨6, 7⟩ 0 0 [],
      .named "class_body" "body" ⟨8, 37⟩ 0 2 [
        .token "\x7b" ⟨8, 9⟩ 0,
        .named "public_field_definition" "" ⟨13, 19⟩ 1 1 [
          .named "private_property_identifier" "name" ⟨13, 15⟩ 1 1 [],
          .token "=" ⟨16, 17⟩ 1,
          .named "number" "value" ⟨18, 19⟩ 1 1 []],
        .token ";" ⟨19, 20⟩ 1,
        .named "comment" "" ⟨21, 25⟩ 1 1 [],
        .named "public_field_definition" "" ⟨29, 34⟩ 2 2 [
          .named "property_identifier" "name" ⟨29, 30⟩ 2 2 [],
          .token "=" ⟨31, 32⟩ 2,
          .named "number" "value" ⟨33, 34⟩ 2 2 []],
        .token ";" ⟨34, 35⟩ 2,
        .token "\x7d" ⟨36, 37⟩ 2]]]

def hidden : Member := ⟨.field, "#b", false, true, "  #b = 2; // x".toList, [], true⟩

def shown : Member := ⟨.field, "a", false, false, "  a = 1;".toList, [], false⟩

def declaration : ClassDecl where
  name := some "A"
  line := 1
  doc := none
  members := [
    ⟨.member .field, "#b", false, true, "  #b = 2; // x".toList, [], 2, true⟩,
    ⟨.member .field, "a", false, false, "  a = 1;".toList, [], 3, false⟩]
  span := some ⟨11, 36⟩
  closing := some ⟨[' '], []⟩
  lineEnding := .crlf

theorem collectClasses_eq : collectClasses source tree = [declaration] := by decide +kernel

theorem canonicalOrder_eq : canonicalOrder [hidden, shown] = [shown, hidden] :=
  canonicalOrder_eq_of_perm (by decide) (by decide)

def sorted : Text :=
  "class A \x7b\r\n  a = 1;\r\n\r\n  #b = 2; // x\r\n\x7d\r\n".toList

theorem sortSource_eq : sortSource ⟨"a.ts"⟩ source tree .group (fun _ => false) =
    .ok ⟨some sorted, [.reordered "A" 1]⟩ := by
  have extracted : declaration.extract .group = .ok [hidden, shown] := rfl
  rw [sortSource_singleton rfl collectClasses_eq rfl extracted rfl
    (by rw [canonicalOrder_eq]; decide), ClassDecl.rebuild_eq, canonicalOrder_eq]
  rfl

end Paired

theorem sortSource_keeps_lineEndings_paired :
    Paired.tree.WellFormed Paired.source ∧ Paired.tree.WellTrimmed Paired.source ∧
      sortSource ⟨"a.ts"⟩ Paired.source Paired.tree .group (fun _ => false) =
        .ok ⟨some Paired.sorted, [.reordered "A" 1]⟩ ∧
      Paired.source.BreaksWith .crlf ∧ '\n' ∈ Paired.source ∧
      Paired.sorted.BreaksWith .crlf := by
  have formed : Paired.tree.WellFormed Paired.source := by decide
  have trimmed : Paired.tree.WellTrimmed Paired.source := by decide
  have breaks : Paired.source.BreaksWith .crlf := by decide
  have broken : '\n' ∈ Paired.source := by decide
  exact ⟨formed, trimmed, Paired.sortSource_eq, breaks, broken,
    (sortSource_keeps_lineEndings formed trimmed Paired.sortSource_eq rfl).1 breaks broken⟩

end MemberOrder
