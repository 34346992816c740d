import MemberOrder.Proofs.Class.Extent
import MemberOrder.Proofs.Class.Members
import MemberOrder.Proofs.Source.Patch
import MemberOrder.Source.Sort

/-! What sorting a source does and what it leaves.

Every class has an outcome that depends on that class alone. The new text puts the new member
lists of the reordered classes in the place of the old ones and keeps everything else, so a class
that is skipped, fails or stands in order already comes out as it was.
-/

set_option autoImplicit false

namespace MemberOrder

namespace ClassDecl

/-- What becomes of a class, told from that class alone. -/
inductive HasOutcome (policy : OverloadPolicy) (skip : ClassFilter) (c : ClassDecl) :
    ClassOutcome → Prop where
  | skipped (skips : skip c = true) : HasOutcome policy skip c (.skipped c.displayName)
  | failed {error : SortError} (keeps : skip c = false) (fails : c.process policy = .error error) :
      HasOutcome policy skip c (.failed c.displayName error)
  | reordered {result : ClassResult} {text : Text} (keeps : skip c = false)
      (processed : c.process policy = .ok result) (changed : result.text = some text) :
      HasOutcome policy skip c (.reordered c.displayName c.line)
  | unchanged {result : ClassResult} (keeps : skip c = false)
      (processed : c.process policy = .ok result) (same : result.text = none) :
      HasOutcome policy skip c (.unchanged c.displayName)

def newText? (policy : OverloadPolicy) (skip : ClassFilter) (c : ClassDecl) : Option Text :=
  if skip c then none else (c.process policy).toOption.bind (·.text)

def isReordered (policy : OverloadPolicy) (skip : ClassFilter) (c : ClassDecl) : Bool :=
  (c.newText? policy skip).isSome

/-- The replacement puts the new member list of the class in the place of the old one. -/
def Rewrites (policy : OverloadPolicy) (skip : ClassFilter) (c : ClassDecl) (r : Replacement) :
    Prop :=
  c.span = some r.span ∧ c.newText? policy skip = some r.text

/-- A class with members has a member list to replace. -/
def Spanned (c : ClassDecl) : Prop := c.members ≠ [] → c.span.isSome = true

theorem ReadFrom.spanned {source : Text} {node body : Node} {ambient : Bool} {c : ClassDecl}
    (read : c.ReadFrom source node body ambient) : c.Spanned := by
  intro nonempty
  rcases read.extent_cases with ⟨empty, -⟩ | ⟨first, last, -, -, span, -⟩
  · have none : c.members = [] := by
      rw [read.members, empty]
      rfl
    exact absurd none nonempty
  · rw [span]
    rfl

theorem newText?_of_process {policy : OverloadPolicy} {skip : ClassFilter} {c : ClassDecl}
    {result : ClassResult} (keeps : skip c = false) (processed : c.process policy = .ok result) :
    c.newText? policy skip = result.text := by
  simp [newText?, keeps, processed, Except.toOption]

theorem newText?_eq_some {policy : OverloadPolicy} {skip : ClassFilter} {c : ClassDecl}
    {text : Text} (found : c.newText? policy skip = some text) :
    ∃ members, c.extract policy = .ok members ∧ members ≠ [] ∧
      text = c.rebuild (Buckets.ofMembers members).sorted := by
  unfold newText? at found
  split at found
  · cases found
  · cases processed : c.process policy with
    | error e =>
      rw [processed] at found
      cases found
    | ok result =>
      rw [processed] at found
      exact text_of_process processed found

/-- A verdict tells the outcome of its class, and replaces the member list exactly of a class that
is reordered. -/
theorem verdict_spec {policy : OverloadPolicy} {skip : ClassFilter} {c : ClassDecl}
    {v : ClassVerdict} (spanned : c.Spanned) (judged : c.verdict policy skip = .ok v) :
    c.HasOutcome policy skip v.outcome ∧
      v.outcome.reordered?.isSome = v.replacement.isSome ∧
      v.replacement.isSome = c.isReordered policy skip ∧
      ∀ r, v.replacement = some r → c.Rewrites policy skip r := by
  unfold verdict at judged
  split at judged
  case isTrue skips =>
    cases judged
    have none : c.newText? policy skip = none := by simp [newText?, skips]
    refine ⟨.skipped skips, rfl, ?_, fun r found => by cases found⟩
    rw [isReordered, none]
    rfl
  case isFalse kept =>
    have keeps : skip c = false := Bool.eq_false_iff.mpr kept
    split at judged
    case h_1 error fails =>
      split at judged
      · cases judged
      · cases judged
        have none : c.newText? policy skip = none := by
          simp [newText?, keeps, fails, Except.toOption]
        refine ⟨.failed keeps fails, rfl, ?_, fun r found => by cases found⟩
        rw [isReordered, none]
        rfl
    case h_2 result processed =>
      have text := newText?_of_process keeps processed
      split at judged
      case h_1 newText span changed found =>
        cases judged
        refine ⟨.reordered keeps processed changed, rfl, ?_, ?_⟩
        · rw [isReordered, text, changed]
          rfl
        · intro r same
          cases same
          exact ⟨found, text.trans changed⟩
      case h_2 missing =>
        cases judged
        -- A class whose order changes has members, so it has a span.
        have unchanged : result.text = none := by
          cases changed : result.text with
          | none => rfl
          | some newText =>
            obtain ⟨members, extracted, nonempty, -⟩ := text_of_process processed changed
            obtain ⟨span, found⟩ := Option.isSome_iff_exists.mp
              (spanned (members_ne_nil extracted nonempty))
            exact absurd found (missing newText span changed)
        refine ⟨.unchanged keeps processed unchanged, rfl, ?_, fun r found => by cases found⟩
        rw [isReordered, text, unchanged]
        rfl

theorem newText?_of_extract {policy : OverloadPolicy} {skip : ClassFilter} {c : ClassDecl}
    {members : List Member} (keeps : skip c = false) (extracted : c.extract policy = .ok members)
    (differs : members.map Member.signature ≠ (canonicalOrder members).map Member.signature) :
    c.newText? policy skip = some (c.rebuild (Buckets.ofMembers members).sorted) := by
  rw [newText?_of_process keeps (process_of_extract extracted)]
  exact if_neg differs

theorem verdict_group (skip : ClassFilter) (c : ClassDecl) :
    ∃ v, c.verdict .group skip = .ok v := by
  unfold verdict
  split
  · exact ⟨_, rfl⟩
  · split
    case h_1 error fails =>
      rw [if_neg (by simp [process_group_error fails])]
      exact ⟨_, rfl⟩
    case h_2 =>
      split
      · exact ⟨_, rfl⟩
      · exact ⟨_, rfl⟩

end ClassDecl

/-! ## Whole sources -/

theorem sortSource_eq_ok_iff {path : Path} {source : Text} {root : Node} {policy : OverloadPolicy}
    {skip : ClassFilter} {outcome : SourceOutcome} :
    sortSource path source root policy skip = .ok outcome ↔
      root.info.hasError = false ∧ ∃ verdicts,
        List.Forall₂ (fun c v => ClassDecl.verdict policy skip c = .ok v)
          (collectClasses source root) verdicts ∧
        outcome = .ofVerdicts source verdicts := by
  unfold sortSource parseClasses Node.fault?
  cases faulty : root.info.hasError with
  | true =>
    constructor
    · intro failed
      cases failed
    · rintro ⟨clean, -⟩
      cases clean
  | false =>
    cases judged : (collectClasses source root).mapM (ClassDecl.verdict policy skip) with
    | error e =>
      constructor
      · intro failed
        simp only [Bool.false_eq_true, if_false, bind, Except.bind, judged] at failed
        cases failed
      · rintro ⟨-, verdicts, all, -⟩
        rw [mapM_eq_ok_iff.mpr all] at judged
        cases judged
    | ok verdicts =>
      simp only [Bool.false_eq_true, if_false, bind, Except.bind, judged, pure, Except.pure,
        Except.ok.injEq, true_and]
      constructor
      · intro same
        exact ⟨verdicts, mapM_eq_ok_iff.mp judged, same.symm⟩
      · rintro ⟨verdicts', all, rfl⟩
        rw [mapM_eq_ok_iff.mpr all] at judged
        cases judged
        rfl

/-- The outcome tells class by class what was done. Its text, if some class was reordered, has the
new member lists in the place of the old ones and is otherwise the old one. -/
structure SourceOutcome.Framed (policy : OverloadPolicy) (skip : ClassFilter) (source : Text)
    (classes : List ClassDecl) (outcome : SourceOutcome) (replacements : List Replacement) :
    Prop where
  outcomes : List.Forall₂ (ClassDecl.HasOutcome policy skip) classes outcome.classes
  rewrites : List.Forall₂ (ClassDecl.Rewrites policy skip)
    (classes.filter (·.isReordered policy skip)) replacements
  changed : outcome.contents.isSome = true ↔ ∃ o ∈ outcome.classes, o.reordered?.isSome = true
  patched : ∀ text, outcome.contents = some text → source.Patched 0 replacements text
  apart : (classes.filterMap (·.span)).Pairwise fun s t => s.stop < t.start

theorem rewrites_of_verdicts {policy : OverloadPolicy} {skip : ClassFilter}
    {classes : List ClassDecl} {verdicts : List ClassVerdict}
    (spanned : ∀ c ∈ classes, c.Spanned)
    (judged : List.Forall₂ (fun c v => ClassDecl.verdict policy skip c = .ok v)
      classes verdicts) :
    List.Forall₂ (ClassDecl.HasOutcome policy skip) classes (verdicts.map (·.outcome)) ∧
      List.Forall₂ (ClassDecl.Rewrites policy skip) (classes.filter (·.isReordered policy skip))
        (verdicts.filterMap (·.replacement)) ∧
      ((∃ o ∈ verdicts.map (·.outcome), o.reordered?.isSome = true) ↔
        verdicts.filterMap (·.replacement) ≠ []) := by
  induction judged with
  | nil => exact ⟨.nil, .nil, by simp⟩
  | @cons c v classes verdicts here _ ih =>
    obtain ⟨first, others⟩ := List.forall_mem_cons.mp spanned
    obtain ⟨outcomes, rewrites, changed⟩ := ih others
    obtain ⟨outcome, reordered, replaced, rewritten⟩ := ClassDecl.verdict_spec first here
    refine ⟨.cons outcome outcomes, ?_, ?_⟩
    · cases found : v.replacement with
      | none =>
        rw [found] at replaced
        rw [List.filter_cons_of_neg (by simpa using replaced.symm),
          List.filterMap_cons_none found]
        exact rewrites
      | some r =>
        rw [found] at replaced
        rw [List.filter_cons_of_pos replaced.symm, List.filterMap_cons_some found]
        exact .cons (rewritten r found) rewrites
    · rw [List.map_cons, List.exists_mem_cons_iff, changed, reordered]
      cases found : v.replacement with
      | none => simp [List.filterMap_cons_none found]
      | some r => simp [List.filterMap_cons_some found]

theorem ClassDecl.Rewrites.spans_eq {policy : OverloadPolicy} {skip : ClassFilter}
    {classes : List ClassDecl} {replacements : List Replacement}
    (rewrites : List.Forall₂ (ClassDecl.Rewrites policy skip) classes replacements) :
    replacements.map (·.span) = classes.filterMap (·.span) := by
  induction rewrites with
  | nil => rfl
  | cons here _ ih => rw [List.map_cons, List.filterMap_cons_some here.1, ih]

theorem spanned_of_mem_collectClasses {source : Text} {root : Node} {c : ClassDecl}
    (member : c ∈ collectClasses source root) : c.Spanned := by
  obtain ⟨node, -, body, ambient, read⟩ := readFrom_of_mem_collectClasses member
  exact read.spanned

/-- The replaced member lists stand between braces. -/
theorem fenced_of_verdicts {source : Text} {root : Node} {policy : OverloadPolicy}
    {skip : ClassFilter} {verdicts : List ClassVerdict} (formed : root.WellFormed source)
    (judged : List.Forall₂ (fun c v => ClassDecl.verdict policy skip c = .ok v)
      (collectClasses source root) verdicts) :
    ClassDecl.FencedInOrder source root.span.start
      ((verdicts.filterMap (·.replacement)).map (·.span)) root.span.stop := by
  obtain ⟨-, rewrites, -⟩ :=
    rewrites_of_verdicts (fun c member => spanned_of_mem_collectClasses member) judged
  rw [ClassDecl.Rewrites.spans_eq rewrites]
  exact (collectClasses_fenced formed).sublist (List.Sublist.filterMap _ List.filter_sublist)

/-- Sorting a well-formed source gives a framed outcome. The replaced member lists stand between
braces. -/
theorem framed_of_sortSource {path : Path} {source : Text} {root : Node} {policy : OverloadPolicy}
    {skip : ClassFilter} {outcome : SourceOutcome} (formed : root.WellFormed source)
    (sorted : sortSource path source root policy skip = .ok outcome) :
    ∃ replacements,
      outcome.Framed policy skip source (collectClasses source root) replacements ∧
      ClassDecl.FencedInOrder source root.span.start (replacements.map (·.span))
        root.span.stop := by
  obtain ⟨-, verdicts, judged, rfl⟩ := sortSource_eq_ok_iff.mp sorted
  obtain ⟨outcomes, rewrites, changed⟩ :=
    rewrites_of_verdicts (fun c member => spanned_of_mem_collectClasses member) judged
  have fenced := fenced_of_verdicts formed judged
  refine ⟨verdicts.filterMap (·.replacement), ⟨outcomes, rewrites, ?_, ?_,
    (collectClasses_fenced formed).pairwise⟩, fenced⟩
  · refine Iff.trans ?_ changed.symm
    simp [SourceOutcome.ofVerdicts]
  · intro text found
    have same : text = source.splice (verdicts.filterMap (·.replacement)) := by
      simp only [SourceOutcome.ofVerdicts] at found
      split at found
      · cases found
      · exact (Option.some.inj found).symm
    rw [same]
    refine Text.patched_splice fenced.inOrder fun r member => ?_
    exact (fenced.fenced (List.mem_map_of_mem member)).cuts

/-- A source with one class whose order changes. -/
theorem sortSource_singleton {path : Path} {source : Text} {root : Node} {policy : OverloadPolicy}
    {skip : ClassFilter} {c : ClassDecl} {members : List Member} {span : Span}
    (clean : root.info.hasError = false) (collected : collectClasses source root = [c])
    (keeps : skip c = false) (extracted : c.extract policy = .ok members)
    (spanned : c.span = some span)
    (differs : members.map Member.signature ≠ (canonicalOrder members).map Member.signature) :
    sortSource path source root policy skip = .ok
      ⟨some (source.spliceFrom 0 [⟨span, c.rebuild (Buckets.ofMembers members).sorted⟩]),
        [.reordered c.displayName c.line]⟩ := by
  generalize text : c.rebuild (Buckets.ofMembers members).sorted = newText
  have judged : c.verdict policy skip =
      .ok ⟨.reordered c.displayName c.line, some ⟨span, newText⟩⟩ := by
    simp [ClassDecl.verdict, keeps, ClassDecl.process_of_extract extracted, differs, spanned, text]
  have spliced : source.spliceFrom 0 [⟨span, newText⟩] = source.splice [⟨span, newText⟩] := by
    rw [Text.splice, List.mergeSort_singleton]
  rw [spliced]
  refine sortSource_eq_ok_iff.mpr ⟨clean,
    [⟨.reordered c.displayName c.line, some ⟨span, newText⟩⟩], ?_, rfl⟩
  rw [collected]
  exact .cons judged .nil

/-- With overloads grouped, a source whose tree has no syntax error is always sorted, every class
has the outcome that it has by itself, and nothing outside the member lists of the reordered
classes changes. -/
theorem sortSource_group_framed (path : Path) {source : Text} {root : Node} (skip : ClassFilter)
    (formed : root.WellFormed source) (clean : root.info.hasError = false) :
    ∃ outcome replacements, sortSource path source root .group skip = .ok outcome ∧
      outcome.Framed .group skip source (collectClasses source root) replacements := by
  choose verdict judged using ClassDecl.verdict_group skip
  have sorted : sortSource path source root .group skip =
      .ok (.ofVerdicts source ((collectClasses source root).map verdict)) :=
    sortSource_eq_ok_iff.mpr ⟨clean, _, List.forall₂_map_right_iff.mpr
      (List.forall₂_same.mpr fun c _ => judged c), rfl⟩
  obtain ⟨replacements, framed, -⟩ := framed_of_sortSource formed sorted
  exact ⟨_, replacements, sorted, framed⟩

namespace Sample

/-- A class with a method before a field. -/
def source : Text := "class A \x7b b() \x7b\x7d a = 1; \x7d".toList

def tree : Node :=
  .named "program" "" ⟨0, 25⟩ 0 0 [
    .named "class_declaration" "" ⟨0, 25⟩ 0 0 [
      .token "class" ⟨0, 5⟩ 0,
      .named "type_identifier" "name" ⟨6, 7⟩ 0 0 [],
      .named "class_body" "body" ⟨8, 25⟩ 0 0 [
        .token "\x7b" ⟨8, 9⟩ 0,
        .named "method_definition" "" ⟨10, 16⟩ 0 0 [
          .named "property_identifier" "name" ⟨10, 11⟩ 0 0 [],
          .named "formal_parameters" "parameters" ⟨11, 13⟩ 0 0
            [.token "(" ⟨11, 12⟩ 0, .token ")" ⟨12, 13⟩ 0],
          .named "statement_block" "body" ⟨14, 16⟩ 0 0
            [.token "\x7b" ⟨14, 15⟩ 0, .token "\x7d" ⟨15, 16⟩ 0]],
        .named "public_field_definition" "" ⟨17, 22⟩ 0 0 [
          .named "property_identifier" "name" ⟨17, 18⟩ 0 0 [],
          .token "=" ⟨19, 20⟩ 0,
          .named "number" "value" ⟨21, 22⟩ 0 0 []],
        .token ";" ⟨22, 23⟩ 0,
        .token "\x7d" ⟨24, 25⟩ 0]]]

def method : Member := ⟨.method, "b", false, false, "b() \x7b\x7d".toList, [], false⟩

def field : Member := ⟨.field, "a", false, false, "a = 1;".toList, [], false⟩

def declaration : ClassDecl where
  name := some "A"
  line := 1
  doc := none
  members := [
    ⟨.member .method, "b", false, false, "b() \x7b\x7d".toList, [], 1, false⟩,
    ⟨.member .field, "a", false, false, "a = 1;".toList, [], 1, false⟩]
  span := some ⟨10, 24⟩
  closing := some ⟨[' '], []⟩
  lineEnding := .lf

theorem collectClasses_eq : collectClasses source tree = [declaration] := by decide +kernel

theorem canonicalOrder_eq : canonicalOrder [method, field] = [field, method] :=
  canonicalOrder_eq_of_perm (by decide) (by decide)

def sorted : Text := "class A \x7b a = 1;\n\nb() \x7b\x7d \x7d".toList

theorem sortSource_eq : sortSource ⟨"a.ts"⟩ source tree .group (fun _ => false) =
    .ok ⟨some sorted, [.reordered "A" 1]⟩ := by
  have extracted : declaration.extract .group = .ok [method, field] := rfl
  rw [sortSource_singleton rfl collectClasses_eq rfl extracted rfl
    (by rw [canonicalOrder_eq]; decide), ClassDecl.rebuild_eq, canonicalOrder_eq]
  rfl

end Sample

theorem sortSource_group_framed_sample :
    Sample.tree.WellFormed Sample.source ∧ Sample.tree.info.hasError = false ∧
      ∃ outcome replacements,
        sortSource ⟨"a.ts"⟩ Sample.source Sample.tree .group (fun _ => false) = .ok outcome ∧
        outcome.Framed .group (fun _ => false) Sample.source
          (collectClasses Sample.source Sample.tree) replacements :=
  have formed : Sample.tree.WellFormed Sample.source := by decide
  ⟨formed, rfl, sortSource_group_framed _ _ formed rfl⟩

end MemberOrder
