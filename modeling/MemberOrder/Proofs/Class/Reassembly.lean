import MemberOrder.Proofs.Class.Tiling

/-! Member lists that are put together as they were taken apart.

A class whose members stand in canonical order already, with an empty line between members and a
line break behind every overload signature, is laid out as the sorter lays classes out. Writing its
members anew gives back the bytes that they were read from.
-/

set_option autoImplicit false

namespace MemberOrder

namespace Text

/-! ## Texts between spans -/

def between (source : Text) (spans : List Span) : List Text :=
  List.zipWith (fun s t => source.slice ⟨s.stop, t.start⟩) spans spans.tail

theorem gaps_eq_between {source : Text} {stop : Nat} {spans : List Span} {last : Span}
    (tail : spans.getLast? = some last) :
    source.gaps stop spans = source.between spans ++ [source.slice ⟨last.stop, stop⟩] := by
  induction spans with
  | nil => cases tail
  | cons s rest ih =>
    cases rest with
    | nil =>
      cases tail
      rfl
    | cons t rest =>
      rw [gaps, ih tail]
      rfl

theorem inOrder_of_between {source : Text} {stop : Nat} {first last : Span} {rest : List Span}
    (widths : ∀ s ∈ first :: rest, s.start ≤ s.stop)
    (filled : ∀ gap ∈ source.between (first :: rest), gap ≠ [])
    (tail : (first :: rest).getLast? = some last) (le : last.stop ≤ stop) :
    Span.InOrder first.start (first :: rest) stop := by
  induction rest generalizing first with
  | nil =>
    cases tail
    exact ⟨Nat.le_refl _, widths first List.mem_cons_self, le⟩
  | cons next rest ih =>
    obtain ⟨width, widths⟩ := List.forall_mem_cons.mp widths
    obtain ⟨here, filled⟩ := List.forall_mem_cons.mp filled
    -- The slice from one end to the next start is empty unless the spans are apart.
    have apart := lt_of_slice_ne_nil here
    exact ⟨Nat.le_refl _, width, (ih widths filled tail).weaken (Nat.le_of_lt apart)⟩

end Text

/-! ## Texts behind the parts of members -/

def Member.breaks (newline : Text) (m : Member) : List Text :=
  m.overloads.map (fun _ => newline) ++ [newline ++ newline]

theorem Member.length_breaks (newline : Text) (m : Member) :
    (m.breaks newline).length = m.parts.length := by
  simp [breaks, parts]

theorem Member.ne_nil_of_mem_breaks {newline : Text} (nonempty : newline ≠ []) {m : Member}
    {gap : Text} (member : gap ∈ m.breaks newline) : gap ≠ [] := by
  rcases List.mem_append.mp member with signature | own
  · obtain ⟨-, -, rfl⟩ := List.mem_map.mp signature
    exact nonempty
  · rw [List.mem_singleton.mp own]
    simpa using nonempty

theorem Text.flatten_overloads (newline text behind : Text) (overloads : List Text) :
    (List.zipWith (· ++ ·) (overloads ++ [text])
        (overloads.map (fun _ => newline) ++ [behind])).flatten =
      Text.join newline (overloads ++ [text]) ++ behind := by
  induction overloads with
  | nil => simp
  | cons signature overloads ih =>
    cases overloads with
    | nil => simp
    | cons next overloads => simpa using ih

theorem flatten_parts_breaks (newline behind : Text) {members : List Member}
    (nonempty : members ≠ []) :
    (List.zipWith (· ++ ·) (members.flatMap Member.parts)
        ((members.flatMap (Member.breaks newline)).dropLast ++ [behind])).flatten =
      Text.join (newline ++ newline) (members.map (Member.render newline)) ++ behind := by
  induction members with
  | nil => exact absurd rfl nonempty
  | cons m rest ih =>
    cases rest with
    | nil =>
      simpa [Member.breaks, Member.parts, Member.render] using
        Text.flatten_overloads newline m.text behind m.overloads
    | cons next rest =>
      have more : (next :: rest).flatMap (Member.breaks newline) ≠ [] := by
        simp [Member.breaks]
      have breaks : ((m :: next :: rest).flatMap (Member.breaks newline)).dropLast =
          m.breaks newline ++ ((next :: rest).flatMap (Member.breaks newline)).dropLast := by
        rw [List.flatMap_cons, List.dropLast_append_of_ne_nil more]
      -- The first member ends in an empty line; the others are joined behind it.
      calc _ = (List.zipWith (· ++ ·) m.parts (m.breaks newline)).flatten ++
            (List.zipWith (· ++ ·) ((next :: rest).flatMap Member.parts)
              (((next :: rest).flatMap (Member.breaks newline)).dropLast ++ [behind])).flatten := by
            rw [breaks, List.flatMap_cons, List.append_assoc,
              List.zipWith_append (m.length_breaks newline).symm, List.flatten_append]
        _ = m.render newline ++ (newline ++ newline) ++
            (Text.join (newline ++ newline) ((next :: rest).map (Member.render newline)) ++
              behind) := by
            rw [ih (by simp)]
            exact congrArg (· ++ _)
              (Text.flatten_overloads newline m.text (newline ++ newline) m.overloads)
        _ = _ := by
            rw [← List.append_assoc]
            rfl

/-! ## Class bodies -/

/-- Between the entries stands what the sorter writes between the texts of the members. -/
def LaidOut (source newline : Text) (entries : List Entry) (members : List Member) : Prop :=
  source.between (entries.map (Entry.range source)) =
    (members.flatMap (Member.breaks newline)).dropLast

instance (source newline : Text) (entries : List Entry) (members : List Member) :
    Decidable (LaidOut source newline entries members) :=
  inferInstanceAs (Decidable (_ = _))

namespace ClassDecl

variable {source : Text} {node body : Node} {ambient : Bool} {c : ClassDecl} {span : Span}
  {members : List Member}

theorem separator_eq_gapOf {last : Option Member}
    (clear : ¬ (c.closing.isSome = true ∧ last.any (·.endsWithLineComment) = true)) :
    c.separator last = gapOf c.closing := by
  unfold separator gapOf
  cases closing : c.closing with
  | none => rfl
  | some line =>
    rw [closing] at clear
    exact if_neg fun commented => clear ⟨rfl, commented⟩

-- A text that begins at the start of its line might reach back into the one before. It does not if
-- something stands between the two.
theorem ReadFrom.inOrder_ranges (read : c.ReadFrom source node body ambient)
    (formed : node.WellFormed source) (found : c.span = some span)
    (filled : ∀ gap ∈ source.between ((body.bodyEntries source ambient).map (Entry.range source)),
      gap ≠ []) :
    Span.InOrder span.start ((body.bodyEntries source ambient).map (Entry.range source))
      span.stop := by
  have bodyFormed := formed.child (Node.mem_of_classBody? read.hasBody)
  have spans : Span.InOrder _ ((body.bodyEntries source ambient).map Entry.span) _ :=
    Node.bodyEntries_inOrder bodyFormed.content_inOrder
  have widths : ∀ r ∈ (body.bodyEntries source ambient).map (Entry.range source),
      r.start ≤ r.stop := by
    refine List.forall_mem_map.mpr fun e member => ?_
    exact Nat.le_trans (source.toLineStart_le e.start)
      (spans.bounds (List.mem_map_of_mem member)).2.1
  obtain ⟨first, last, head, tail, start, stop, -, -⟩ := read.ends_ranges found
  obtain ⟨rest, split⟩ := List.head?_eq_some_iff.mp head
  rw [split] at widths filled tail ⊢
  rw [start]
  exact Text.inOrder_of_between widths filled tail (by omega)

theorem ReadFrom.slice_eq_join (read : c.ReadFrom source node body ambient)
    (formed : node.WellFormed source) (found : c.span = some span)
    (extracted : c.extract .group = .ok members)
    (laidOut : LaidOut source c.lineEnding.text (body.bodyEntries source ambient) members) :
    source.slice span =
      Text.join (c.lineEnding.text ++ c.lineEnding.text)
        (members.map (Member.render c.lineEnding.text)) ++ gapOf c.closing := by
  have bodyFormed := formed.child (Node.mem_of_classBody? read.hasBody)
  obtain ⟨first, last, head, tail, start, -, gap, -⟩ := read.ends_ranges found
  have filled : ∀ gap ∈ source.between
      ((body.bodyEntries source ambient).map (Entry.range source)), gap ≠ [] := by
    intro gap member
    rw [laidOut] at member
    obtain ⟨m, -, inside⟩ := List.mem_flatMap.mp (List.dropLast_subset _ member)
    exact Member.ne_nil_of_mem_breaks (by cases c.lineEnding <;> decide) inside
  have whole := Text.slice_eq_flatten head start (read.inOrder_ranges formed found filled)
    (bodyFormed.ranges_cut ambient) (read.fenced formed found).cuts.2
  have texts : ((body.bodyEntries source ambient).map (Entry.range source)).map source.slice =
      members.flatMap Member.parts := by
    rw [extract_parts extracted, read.parts_eq_slices]
  have nonempty : members ≠ [] := by
    rintro rfl
    have none := List.map_eq_nil_iff.mp texts
    rw [none] at head
    cases head
  rw [whole, texts, Text.gaps_eq_between tail, laidOut, gap, flatten_parts_breaks _ _ nonempty]

end ClassDecl

/-- A class whose members stand in canonical order, laid out as the sorter lays them out, is written
as it was read. -/
theorem rebuild_restores {source : Text} {root node body parent : Node} {before : Option Node}
    {c : ClassDecl} {span : Span} {members : List Member} (formed : root.WellFormed source)
    (below : node ∈ root.preorder) (hasBody : node.classBody? = some body)
    (built : ClassDecl.ofNode? source parent before node = some c) (found : c.span = some span)
    (extracted : c.extract .group = .ok members) (ordered : InCanonicalOrder members)
    (laidOut : LaidOut source (LineEnding.ofText source).text
      (body.bodyEntries source (parent.kind = "ambient_declaration")) members)
    (clear : ¬ (c.closing.isSome = true ∧
      members.getLast?.any (·.endsWithLineComment) = true)) :
    c.rebuild (Buckets.ofMembers members).sorted = source.slice span := by
  have read := ClassDecl.readFrom_of_classBody? hasBody built
  rw [← read.lineEnding] at laidOut
  rw [ClassDecl.rebuild_eq, canonicalOrder_eq_self ordered, ClassDecl.separator_eq_gapOf clear,
    read.slice_eq_join (formed.below below) found extracted laidOut]

namespace Stacked

/-- Lines that end in two characters, an overload, and a brace behind the last member. -/
def source : Text :=
  "class C \x7b\r\n  a;\r\n\r\n  m(): void;\r\n  m() \x7b \x7d \x7d".toList

def body : Node :=
  .named "class_body" "body" ⟨8, 44⟩ 0 4 [
    .token "\x7b" ⟨8, 9⟩ 0,
    .named "public_field_definition" "" ⟨13, 14⟩ 1 1
      [.named "property_identifier" "name" ⟨13, 14⟩ 1 1 []],
    .token ";" ⟨14, 15⟩ 1,
    .named "method_signature" "" ⟨21, 30⟩ 3 3
      [.named "property_identifier" "name" ⟨21, 22⟩ 3 3 []],
    .token ";" ⟨30, 31⟩ 3,
    .named "method_definition" "" ⟨35, 42⟩ 4 4
      [.named "property_identifier" "name" ⟨35, 36⟩ 4 4 []],
    .token "\x7d" ⟨43, 44⟩ 4]

def node : Node :=
  .named "class_declaration" "" ⟨0, 44⟩ 0 4 [
    .token "class" ⟨0, 5⟩ 0,
    .named "type_identifier" "name" ⟨6, 7⟩ 0 0 [],
    body]

def tree : Node := .named "program" "" ⟨0, 44⟩ 0 4 [node]

def field : Member := ⟨.field, "a", false, false, "  a;".toList, [], false⟩

def method : Member :=
  ⟨.method, "m", false, false, "  m() \x7b \x7d".toList, ["  m(): void;".toList], false⟩

theorem exists_class : ∃ c, ClassDecl.ofNode? source tree none node = some c ∧
    c.span = some ⟨11, 43⟩ ∧ c.extract .group = .ok [field, method] ∧
    c.closing = some ⟨[' '], []⟩ := by
  refine ⟨_, rfl, ?_⟩
  decide +kernel

end Stacked

theorem rebuild_restores_stacked :
    Stacked.tree.WellFormed Stacked.source ∧ Stacked.node ∈ Stacked.tree.preorder ∧
      Stacked.node.classBody? = some Stacked.body ∧
      InCanonicalOrder [Stacked.field, Stacked.method] ∧
      LaidOut Stacked.source (LineEnding.ofText Stacked.source).text
        (Stacked.body.bodyEntries Stacked.source (Stacked.tree.kind = "ambient_declaration"))
        [Stacked.field, Stacked.method] ∧
      ∃ c, ClassDecl.ofNode? Stacked.source Stacked.tree none Stacked.node = some c ∧
        c.span = some ⟨11, 43⟩ ∧ c.extract .group = .ok [Stacked.field, Stacked.method] ∧
        c.closing = some ⟨[' '], []⟩ ∧
        c.rebuild (Buckets.ofMembers [Stacked.field, Stacked.method]).sorted =
          "  a;\r\n\r\n  m(): void;\r\n  m() \x7b \x7d ".toList := by
  have formed : Stacked.tree.WellFormed Stacked.source := by decide
  have below : Stacked.node ∈ Stacked.tree.preorder :=
    Node.mem_preorder_of_child List.mem_cons_self (Node.mem_preorder_self _)
  have ordered : InCanonicalOrder [Stacked.field, Stacked.method] := by decide
  have laidOut : LaidOut Stacked.source (LineEnding.ofText Stacked.source).text
      (Stacked.body.bodyEntries Stacked.source (Stacked.tree.kind = "ambient_declaration"))
      [Stacked.field, Stacked.method] := by
    decide +kernel
  obtain ⟨c, built, found, extracted, closing⟩ := Stacked.exists_class
  refine ⟨formed, below, rfl, ordered, laidOut, c, built, found, extracted, closing, ?_⟩
  rw [rebuild_restores formed below rfl built found extracted ordered laidOut
    fun commented => absurd commented.2 (by decide)]
  decide +kernel

end MemberOrder
