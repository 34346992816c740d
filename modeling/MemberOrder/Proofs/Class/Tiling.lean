import Mathlib.Data.List.Chain
import MemberOrder.Proofs.Class.Extent
import MemberOrder.Proofs.Class.Members

/-! Member lists as tilings.

The old member list of a class and the new one hold the same texts, those of the entries, in
different orders. Blanks stand between them and nothing else.
-/

set_option autoImplicit false

namespace MemberOrder

open Text (AllBlank Tiles)

/-! ## The old member list -/

theorem Block.isChain_spans {source : Text} {blocks : List Block}
    (chain : ((blocks.flatMap nodes).map Node.span).IsChain source.Adjacent) :
    (blocks.map span).IsChain source.Adjacent := by
  induction blocks with
  | nil => exact .nil
  | cons b rest ih =>
    rw [List.flatMap_cons, List.map_append, List.isChain_append] at chain
    obtain ⟨-, later, joint⟩ := chain
    cases rest with
    | nil => exact .singleton _
    | cons next rest =>
      -- The blocks meet where the last child of one meets the first of the other.
      have last : b.last.span ∈ (b.nodes.map Node.span).getLast? := by
        simp [b.getLast?_nodes]
      have first : next.first.span ∈ (((next :: rest).flatMap nodes).map Node.span).head? := by
        simp [List.head?_append, next.head?_nodes]
      have blank : source.Adjacent b.last.span next.first.span := joint _ last _ first
      exact .cons_cons blank (ih later)

theorem Node.Spaced.isChain_content {source : Text} {body : Node} (spaced : body.Spaced source)
    (braced : body.Braced source) : (body.content.map Node.span).IsChain source.Adjacent := by
  obtain ⟨opening, middle, closing, split, openingKind, -, closingKind, -⟩ := braced.split
  have content : body.content = middle := by
    rw [Node.content_eq split openingKind closingKind]
    apply List.filter_eq_self.mpr
    intro child member
    simp [spaced.delimited child (by simpa [split] using member)]
  have chain := spaced.blank.isChain
  rw [split, List.map_cons, List.map_append] at chain
  rw [content]
  exact chain.tail.left_of_append

theorem Node.Spaced.isChain_bodyEntries {source : Text} {body : Node}
    (spaced : body.Spaced source) (braced : body.Braced source) (ambient : Bool) :
    ((body.bodyEntries source ambient).map Entry.span).IsChain source.Adjacent := by
  obtain ⟨header, blocks, rest, blocked⟩ := body.blocked source ambient
  have chain := spaced.isChain_content braced
  rw [blocked.split, List.map_append, List.map_append] at chain
  rw [Block.spans_eq blocked.entries]
  exact Block.isChain_spans chain.right_of_append.left_of_append

/-- The entry begins and ends between characters, with code before its end. -/
structure Entry.Laid (source : Text) (e : Entry) : Prop where
  startCut : source.IsCut e.start
  stopCut : source.IsCut e.stop
  code : source.AfterCode e.stop

theorem Node.Spaced.laid {source : Text} {body : Node} (spaced : body.Spaced source)
    (formed : body.WellFormed source) {ambient : Bool} {e : Entry}
    (member : e ∈ body.bodyEntries source ambient) : e.Laid source := by
  obtain ⟨startCut, stopCut⟩ := formed.bodyEntries_cut member
  obtain ⟨first, firstChild, last, lastChild, start, stop⟩ := Node.bodyEntries_ends member
  have placed := (formed.child lastChild).self
  refine ⟨startCut, stopCut, ?_⟩
  rw [stop]
  exact Text.afterCode_of_slice placed.startCut placed.stopCut placed.children.le
    (spaced.code last lastChild)

namespace Entry

def range (source : Text) (e : Entry) : Span := ⟨source.toLineStart e.start, e.stop⟩

/-- A text begins at the start of its line, which the entry before it does not reach. -/
theorem inOrder_ranges {source : Text} {low high : Nat} {entries : List Entry}
    (laid : ∀ e ∈ entries, e.Laid source) (cut : source.IsCut low) (code : source.AfterCode low)
    (ordered : Span.InOrder low (entries.map span) high) :
    Span.InOrder low (entries.map (range source)) high := by
  induction entries generalizing low with
  | nil => exact ordered
  | cons e rest ih =>
    obtain ⟨start, width, later⟩ := ordered
    obtain ⟨⟨startCut, stopCut, stopCode⟩, others⟩ := List.forall_mem_cons.mp laid
    exact ⟨code.le_toLineStart cut startCut start,
      Nat.le_trans (source.toLineStart_le e.start) width, ih others stopCut stopCode later⟩

theorem isChain_ranges {source : Text} {low high : Nat} {entries : List Entry}
    (laid : ∀ e ∈ entries, e.Laid source) (ordered : Span.InOrder low (entries.map span) high)
    (chain : (entries.map span).IsChain source.Adjacent) :
    (entries.map (range source)).IsChain source.Adjacent := by
  induction entries generalizing low with
  | nil => exact .nil
  | cons e rest ih =>
    obtain ⟨-, -, later⟩ := ordered
    obtain ⟨eLaid, others⟩ := List.forall_mem_cons.mp laid
    cases rest with
    | nil => exact .singleton _
    | cons next rest =>
      have nextLaid := others next List.mem_cons_self
      obtain ⟨blank, chain⟩ := List.isChain_cons_cons.mp chain
      have between := eLaid.code.le_toLineStart eLaid.stopCut nextLaid.startCut later.1
      -- The blanks between the entries, up to the line on which the text of the next one begins.
      have initial := Text.slice_append_slice eLaid.stopCut
        (Text.isCut_toLineStart nextLaid.startCut) nextLaid.startCut between
        (source.toLineStart_le next.start)
      exact .cons_cons (Text.allBlank_of_isPrefix ⟨_, initial⟩ blank) (ih others later chain)

end Entry

theorem Node.WellFormed.ranges_cut {source : Text} {body : Node} (formed : body.WellFormed source)
    (ambient : Bool) : ∀ r ∈ (body.bodyEntries source ambient).map (Entry.range source),
      source.IsCut r.start ∧ source.IsCut r.stop := by
  refine List.forall_mem_map.mpr fun e member => ?_
  obtain ⟨startCut, stopCut⟩ := formed.bodyEntries_cut member
  exact ⟨Text.isCut_toLineStart startCut, stopCut⟩

namespace ClassDecl

theorem closingLine?_indented {source : Text} {stop classStart : Nat} {line : ClosingLine}
    (found : closingLine? source stop classStart = some line) :
    line.gap.all Text.isIndent = true ∧ line.indent.all Text.isIndent = true := by
  simp only [closingLine?] at found
  split at found
  · cases found
  · cases found
    exact ⟨List.all_takeWhile, List.all_takeWhile⟩

theorem gapOf_indented (source : Text) (stop classStart : Nat) :
    (gapOf (closingLine? source stop classStart)).all Text.isIndent = true := by
  cases found : closingLine? source stop classStart with
  | none => rfl
  | some line => exact (closingLine?_indented found).1

variable {source : Text} {node body : Node} {ambient : Bool} {c : ClassDecl}

theorem ReadFrom.parts_eq (read : c.ReadFrom source node body ambient) :
    c.parts = (body.bodyEntries source ambient).map (Entry.text source) := by
  rw [ClassDecl.parts, read.members, groupOverloads_parts]

theorem ReadFrom.parts_eq_slices (read : c.ReadFrom source node body ambient) :
    c.parts = ((body.bodyEntries source ambient).map (Entry.range source)).map source.slice := by
  rw [read.parts_eq, List.map_map]
  rfl

/-- The member list reaches from the first text to the gap behind the last. -/
theorem ReadFrom.ends_ranges {span : Span} (read : c.ReadFrom source node body ambient)
    (found : c.span = some span) :
    ∃ first last,
      ((body.bodyEntries source ambient).map (Entry.range source)).head? = some first ∧
      ((body.bodyEntries source ambient).map (Entry.range source)).getLast? = some last ∧
      span.start = first.start ∧ span.stop = last.stop + Text.byteSize (gapOf c.closing) ∧
      source.slice ⟨last.stop, span.stop⟩ = gapOf c.closing ∧
      (gapOf c.closing).all Text.isIndent = true := by
  obtain ⟨first, last, head, tail, rfl, closing⟩ := read.span_eq found
  obtain ⟨behind, follows⟩ := gapOf_follows source last.stop node.span.start
  refine ⟨first.range source, last.range source, by rw [List.head?_map, head, Option.map_some],
    by rw [List.getLast?_map, tail, Option.map_some], rfl, ?_⟩
  rw [closing]
  exact ⟨rfl, Text.slice_of_dropBytes follows, gapOf_indented source last.stop node.span.start⟩

/-- The ranges cut the member list into the texts of the handles, with only blanks behind each and
the closing gap behind the last. -/
structure CutUp (source : Text) (c : ClassDecl) (span : Span) (ranges : List Span) : Prop where
  texts : c.parts = ranges.map source.slice
  ordered : Span.InOrder span.start ranges span.stop
  whole : source.slice span =
    (List.zipWith (· ++ ·) c.parts (source.gaps span.stop ranges)).flatten
  blank : ∀ gap ∈ source.gaps span.stop ranges, AllBlank gap
  closing : (source.gaps span.stop ranges).getLast? = some (gapOf c.closing)

/-- The member list is cut into the texts of the entries. -/
theorem ReadFrom.cutUp {span : Span} (read : c.ReadFrom source node body ambient)
    (formed : node.WellFormed source) (spaced : body.Spaced source) (found : c.span = some span) :
    c.CutUp source span ((body.bodyEntries source ambient).map (Entry.range source)) := by
  have bodyFormed := formed.child (Node.mem_of_classBody? read.hasBody)
  have braced := formed.braced node node.mem_preorder_self body read.hasBody
  have laid (e : Entry) (member : e ∈ body.bodyEntries source ambient) : e.Laid source :=
    spaced.laid bodyFormed member
  obtain ⟨opening, closing, -, -, openingAt, -, content⟩ := braced.interior bodyFormed
  -- The opening brace is code before the first text, as every entry is before the next one.
  obtain ⟨openingCut, openingCode⟩ := openingAt.afterCode
  have spans : Span.InOrder (opening + 1)
      ((body.bodyEntries source ambient).map Entry.span) closing :=
    Node.bodyEntries_inOrder content
  have chain := Entry.isChain_ranges laid spans (spaced.isChain_bodyEntries braced ambient)
  have behind := Entry.inOrder_ranges laid openingCut openingCode spans
  obtain ⟨first, last, head, tail, start, stop, gap, indented⟩ := read.ends_ranges found
  have ordered : Span.InOrder span.start
      ((body.bodyEntries source ambient).map (Entry.range source)) span.stop := by
    rw [start]
    exact (behind.within tail (by omega)).fromHead head
  refine ⟨read.parts_eq_slices, ordered, ?_, Text.allBlank_gaps chain ?_, ?_⟩
  · rw [read.parts_eq_slices]
    exact Text.slice_eq_flatten head start ordered (bodyFormed.ranges_cut ambient)
      (read.fenced formed found).cuts.2
  · -- Entries are apart by blanks, and the gap behind the last one is indentation.
    intro last' tail'
    cases tail.symm.trans tail'
    rw [gap]
    exact Text.allBlank_of_isIndent indented
  · rw [Text.getLast?_gaps tail, gap]

/-- The bytes of a member list are tiled by the texts of the entries. -/
theorem ReadFrom.tiles {span : Span} (read : c.ReadFrom source node body ambient)
    (formed : node.WellFormed source) (spaced : body.Spaced source)
    (found : c.span = some span) : Tiles c.parts (source.slice span) := by
  have cutUp := read.cutUp formed spaced found
  rw [cutUp.whole]
  apply Text.tiles_zipWith _ cutUp.blank
  rw [Text.length_gaps, cutUp.texts, List.length_map source.slice]

/-! ## The new member list -/

theorem tiles_render {newline : Text} (blank : AllBlank newline) (m : Member) :
    m.parts ≠ [] ∧ Tiles m.parts (m.render newline) := by
  refine ⟨by simp [Member.parts], ?_⟩
  have tiles : Tiles (m.parts.flatMap fun t => [t]) (Text.join newline (m.parts.map id)) :=
    Text.tiles_join blank m.parts fun part _ => ⟨by simp, Text.tiles_singleton part⟩
  simpa [Member.render, Member.parts] using tiles

/-- What goes behind the new member list is blank, as it is taken from the source. -/
theorem ReadFrom.separator_blank {span : Span} (read : c.ReadFrom source node body ambient)
    (spanned : c.span = some span) (last : Option Member) : AllBlank (c.separator last) := by
  obtain ⟨first, final, -, -, -, closing⟩ := read.span_eq spanned
  unfold separator
  split
  case h_1 line found =>
    obtain ⟨gap, indent⟩ := closingLine?_indented (closing.symm.trans found)
    split
    · exact (Text.allBlank_lineEnding _).append (Text.allBlank_of_isIndent indent)
    · exact Text.allBlank_of_isIndent gap
  case h_2 => simp [AllBlank]

/-- The new member list is tiled by the same texts in the order of the members. -/
theorem ReadFrom.tiles_rebuild {span : Span} {members : List Member}
    (read : c.ReadFrom source node body ambient) (spanned : c.span = some span)
    (nonempty : members ≠ []) :
    Tiles ((canonicalOrder members).flatMap Member.parts)
      (c.rebuild (Buckets.ofMembers members).sorted) := by
  have newline := Text.allBlank_lineEnding c.lineEnding
  rw [rebuild_eq]
  apply Tiles.append_blank _ _ (read.separator_blank spanned _)
  · exact Text.tiles_join (newline.append newline) _ fun m _ => tiles_render newline m
  · intro empty
    obtain ⟨m, inside⟩ := List.exists_mem_of_ne_nil _ (canonicalOrder_ne_nil nonempty)
    exact (tiles_render newline m).1 (List.flatMap_eq_nil_iff.mp empty m inside)

end ClassDecl

end MemberOrder
