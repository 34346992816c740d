import MemberOrder.Proofs.Class.Guarded
import MemberOrder.Proofs.Source.Frame

/-! Member lists that can be cut out and put back.

Every member list stands inside the braces of its class, between characters, and apart from the
lists of the other classes. So no slice that sorting a source takes is out of range, be it to read
the classes or to put the new lists in.
-/

set_option autoImplicit false

namespace MemberOrder

namespace Guarded

def spliceFrom (source : Text) (cursor : Nat) : List Replacement → Option Text
  | [] => slice source ⟨cursor, Text.byteSize source⟩
  | r :: rest => do
    let kept ← slice source ⟨cursor, r.span.start⟩
    let later ← spliceFrom source r.span.stop rest
    return kept ++ r.text ++ later

def splice (source : Text) (replacements : List Replacement) : Option Text :=
  spliceFrom source 0 (replacements.mergeSort Text.startsBefore)

def ofVerdicts (source : Text) (verdicts : List ClassVerdict) : Option SourceOutcome :=
  let replacements := verdicts.filterMap (·.replacement)
  let classes := verdicts.map (·.outcome)
  if replacements.isEmpty then some { contents := none, classes := classes }
  else (splice source replacements).map fun text => { contents := some text, classes := classes }

/-- Sorting with slices that can fail: there is no answer if one does. -/
def sortSource (path : Path) (source : Text) (root : Node) (policy : OverloadPolicy)
    (skip : ClassFilter) : Option (Except SortError SourceOutcome) :=
  match root.fault? with
  | some fault => some (.error (.parse path fault))
  | none => do
    let classes ← collectClasses source root
    match classes.mapM (ClassDecl.verdict policy skip) with
    | .error error => return .error error
    | .ok verdicts =>
      let outcome ← ofVerdicts source verdicts
      return .ok outcome

theorem spliceFrom_eq {source : Text} {cursor high : Nat} {replacements : List Replacement}
    (cut : source.IsCut cursor)
    (ordered : Span.InOrder cursor (replacements.map (·.span)) high)
    (cuts : ∀ r ∈ replacements, source.IsCut r.span.start ∧ source.IsCut r.span.stop) :
    spliceFrom source cursor replacements = some (source.spliceFrom cursor replacements) := by
  induction replacements generalizing cursor with
  | nil => exact slice_behind cut
  | cons r more ih =>
    obtain ⟨before, -, later⟩ := ordered
    obtain ⟨⟨startCut, stopCut⟩, cuts⟩ := List.forall_mem_cons.mp cuts
    have kept : source.InRange ⟨cursor, r.span.start⟩ := ⟨cut, startCut, before⟩
    rw [spliceFrom, slice_of_inRange kept, ih stopCut later cuts]
    rfl

theorem ofVerdicts_eq {source : Text} {low high : Nat} {verdicts : List ClassVerdict}
    (fenced : ClassDecl.FencedInOrder source low
      ((verdicts.filterMap (·.replacement)).map (·.span)) high) :
    ofVerdicts source verdicts = some (.ofVerdicts source verdicts) := by
  have cuts : ∀ r ∈ verdicts.filterMap (·.replacement),
      source.IsCut r.span.start ∧ source.IsCut r.span.stop := by
    intro r member
    exact (fenced.fenced (List.mem_map_of_mem member)).cuts
  have ordered := fenced.inOrder
  have spliced : splice source (verdicts.filterMap (·.replacement)) =
      some (source.splice (verdicts.filterMap (·.replacement))) := by
    rw [splice, Text.mergeSort_of_inOrder ordered, Text.splice_of_inOrder ordered]
    exact spliceFrom_eq source.isCut_zero (ordered.weaken (Nat.zero_le low)) cuts
  cases none : (verdicts.filterMap (·.replacement)).isEmpty with
  | true => simp [ofVerdicts, SourceOutcome.ofVerdicts, none]
  | false => simp [ofVerdicts, SourceOutcome.ofVerdicts, none, spliced]

theorem sortSource_eq {source : Text} {root : Node} (formed : root.WellFormed source) (path : Path)
    (policy : OverloadPolicy) (skip : ClassFilter) :
    sortSource path source root policy skip =
      some (MemberOrder.sortSource path source root policy skip) := by
  unfold sortSource MemberOrder.sortSource parseClasses
  cases root.fault? with
  | some fault => rfl
  | none =>
    rw [collectClasses_eq formed]
    simp only [Option.bind_some, bind, Except.bind]
    cases judged : (MemberOrder.collectClasses source root).mapM
        (ClassDecl.verdict policy skip) with
    | error error => rfl
    | ok verdicts =>
      have fenced := fenced_of_verdicts formed (mapM_eq_ok_iff.mp judged)
      simp only [ofVerdicts_eq fenced]
      rfl

end Guarded

/-! ## Member lists -/

def Node.Filled (root : Node) : Prop :=
  ∀ n ∈ root.preorder, ∀ body ∈ n.classBody?, ∀ child ∈ body.children,
    child.span.start < child.span.stop

instance (root : Node) : Decidable root.Filled :=
  inferInstanceAs (Decidable (∀ n ∈ root.preorder, ∀ body ∈ n.classBody?, _))

theorem Node.WellFormed.start_lt_stop {source : Text} {body : Node}
    (formed : body.WellFormed source)
    (filled : ∀ child ∈ body.children, child.span.start < child.span.stop) {ambient : Bool}
    {e : Entry} (member : e ∈ body.bodyEntries source ambient) : e.start < e.stop := by
  obtain ⟨b, adjacent, -, row, rfl⟩ := Node.exists_block member
  have ordered := formed.content_inOrder.sublist (adjacent.sublist.map Node.span)
  calc b.first.span.start
      < b.first.span.stop := filled b.first (Block.ends_mem adjacent).1
    _ ≤ b.last.span.stop := ordered.stop_le_getLast b.head?_spans b.getLast?_spans

theorem ClassDecl.ReadFrom.span_nonempty {source : Text} {node body : Node} {ambient : Bool}
    {c : ClassDecl} {span : Span} (read : c.ReadFrom source node body ambient)
    (formed : body.WellFormed source)
    (filled : ∀ child ∈ body.children, child.span.start < child.span.stop)
    (found : c.span = some span) : span.start < span.stop := by
  obtain ⟨first, last, head, tail, rfl, -⟩ := read.span_eq found
  have ordered : Span.InOrder _ ((body.bodyEntries source ambient).map Entry.span) _ :=
    Node.bodyEntries_inOrder formed.content_inOrder
  have starts : first.start ≤ last.start :=
    ordered.head_le_getLast (Entry.head?_spans head) (Entry.getLast?_spans tail)
  have width := formed.start_lt_stop filled (List.mem_of_getLast? tail)
  have back := source.toLineStart_le first.start
  change source.toLineStart first.start < last.stop + _
  omega

/-- The member list of a class stands between the two braces of its body, between characters. -/
structure ClassDecl.Inside (source : Text) (body : Node) (span : Span) : Prop where
  opening : ∃ brace ∈ body.children.head?, brace.text source = ['\x7b'] ∧
    brace.span.stop ≤ span.start
  closing : ∃ brace ∈ body.children.getLast?, brace.text source = ['\x7d'] ∧
    span.stop ≤ brace.span.start
  cuts : source.IsCut span.start ∧ source.IsCut span.stop
  nonempty : span.start < span.stop

theorem ClassDecl.ReadFrom.inside {source : Text} {node body : Node} {ambient : Bool}
    {c : ClassDecl} {span : Span} (read : c.ReadFrom source node body ambient)
    (formed : node.WellFormed source)
    (filled : ∀ child ∈ body.children, child.span.start < child.span.stop)
    (found : c.span = some span) : Inside source body span := by
  have bodyFormed := formed.child (Node.mem_of_classBody? read.hasBody)
  have braced := formed.braced node node.mem_preorder_self body read.hasBody
  obtain ⟨opening, first, closing, last, -, openingEnd, -, -, openingAt, closingAt, content⟩ :=
    braced.between bodyFormed
  rw [openingEnd] at content
  obtain ⟨start, -, stop, cuts⟩ :=
    read.span_between bodyFormed openingAt closingAt content found
  obtain ⟨opening', first', -, openingText⟩ := braced.opening
  obtain ⟨closing', last', -, closingText⟩ := braced.closing
  cases first.symm.trans first'
  cases last.symm.trans last'
  exact ⟨⟨opening, first, openingText, by omega⟩, ⟨closing, last, closingText, stop⟩, cuts,
    read.span_nonempty bodyFormed filled found⟩

/-- The member lists of the collected classes lie inside the braces of their classes, one after the
other, so whatever is cut out of the source to read the classes or to put new lists in is in
range. -/
theorem memberLists_sliceable {source : Text} {root : Node} (formed : root.WellFormed source)
    (filled : root.Filled) :
    (∀ c ∈ collectClasses source root, ∀ span, c.span = some span →
      ∃ node ∈ root.preorder, ∃ body ambient, c.ReadFrom source node body ambient ∧
        ClassDecl.Inside source body span) ∧
      ((collectClasses source root).filterMap (·.span)).Pairwise (fun s t => s.stop < t.start) ∧
      Guarded.collectClasses source root = some (collectClasses source root) ∧
      ∀ path policy skip, Guarded.sortSource path source root policy skip =
        some (sortSource path source root policy skip) := by
  refine ⟨?_, (collectClasses_fenced formed).pairwise, Guarded.collectClasses_eq formed,
    Guarded.sortSource_eq formed⟩
  intro c member span found
  obtain ⟨node, below, body, ambient, read⟩ := readFrom_of_mem_collectClasses member
  exact ⟨node, below, body, ambient, read,
    read.inside (formed.below below) (filled node below body read.hasBody) found⟩

namespace Neighbours

/-- Two classes on one line, behind a character of two bytes. -/
def source : Text := "class É \x7bb;a\x7d class Z \x7by;\tx\x7d".toList

def tree : Node :=
  .named "program" "" ⟨0, 29⟩ 0 0 [
    .named "class_declaration" "" ⟨0, 14⟩ 0 0 [
      .token "class" ⟨0, 5⟩ 0,
      .named "type_identifier" "name" ⟨6, 8⟩ 0 0 [],
      .named "class_body" "body" ⟨9, 14⟩ 0 0 [
        .token "\x7b" ⟨9, 10⟩ 0,
        .named "public_field_definition" "" ⟨10, 11⟩ 0 0
          [.named "property_identifier" "name" ⟨10, 11⟩ 0 0 []],
        .token ";" ⟨11, 12⟩ 0,
        .named "public_field_definition" "" ⟨12, 13⟩ 0 0
          [.named "property_identifier" "name" ⟨12, 13⟩ 0 0 []],
        .token "\x7d" ⟨13, 14⟩ 0]],
    .named "class_declaration" "" ⟨15, 29⟩ 0 0 [
      .token "class" ⟨15, 20⟩ 0,
      .named "type_identifier" "name" ⟨21, 22⟩ 0 0 [],
      .named "class_body" "body" ⟨23, 29⟩ 0 0 [
        .token "\x7b" ⟨23, 24⟩ 0,
        .named "public_field_definition" "" ⟨24, 25⟩ 0 0
          [.named "property_identifier" "name" ⟨24, 25⟩ 0 0 []],
        .token ";" ⟨25, 26⟩ 0,
        .named "public_field_definition" "" ⟨27, 28⟩ 0 0
          [.named "property_identifier" "name" ⟨27, 28⟩ 0 0 []],
        .token "\x7d" ⟨28, 29⟩ 0]]]

theorem spans_eq : (collectClasses source tree).filterMap (·.span) = [⟨10, 13⟩, ⟨24, 28⟩] := by
  decide +kernel

end Neighbours

theorem memberLists_sliceable_neighbours :
    Neighbours.tree.WellFormed Neighbours.source ∧ Neighbours.tree.Filled ∧
      (collectClasses Neighbours.source Neighbours.tree).filterMap (·.span) =
        [⟨10, 13⟩, ⟨24, 28⟩] ∧
      (∀ c ∈ collectClasses Neighbours.source Neighbours.tree, ∀ span, c.span = some span →
        ∃ node ∈ Neighbours.tree.preorder, ∃ body ambient,
          c.ReadFrom Neighbours.source node body ambient ∧
            ClassDecl.Inside Neighbours.source body span) ∧
      Guarded.sortSource ⟨"a.ts"⟩ Neighbours.source Neighbours.tree .reject (fun _ => false) =
        some (sortSource ⟨"a.ts"⟩ Neighbours.source Neighbours.tree .reject (fun _ => false)) := by
  have formed : Neighbours.tree.WellFormed Neighbours.source := by decide
  have filled : Neighbours.tree.Filled := by decide
  obtain ⟨inside, -, -, guarded⟩ := memberLists_sliceable formed filled
  exact ⟨formed, filled, Neighbours.spans_eq, inside, guarded _ _ _⟩

end MemberOrder
