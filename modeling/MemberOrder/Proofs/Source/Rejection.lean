import MemberOrder.Proofs.Source.Frame

/-! Which sources are refused because of overloads.

Members are extracted in order, and the first handle that is no plain member decides what becomes
of the class. If that handle is overloaded the whole source is refused. If it is an orphan signature
or has no place in the canonical order, the class fails alone, and overloads behind it go unnoticed.
-/

set_option autoImplicit false

namespace MemberOrder

namespace Handle

def isOverloaded (h : Handle) : Bool :=
  (h.kind = .member .method || h.kind = .member .constructor) && h.overloads ≠ []

/-- The handle becomes a member whatever the policy. -/
def isPlain (h : Handle) : Bool :=
  match h.kind with
  | .member _ => h.overloads = []
  | _ => false

theorem toMember_reject_isOk (className : String) (h : Handle) :
    (h.toMember className .reject).isOk = h.isPlain := by
  cases shape : h.kind with
  | orphanSignature => simp [toMember, isPlain, shape, Except.isOk, Except.toBool]
  | unsupported nodeKind => simp [toMember, isPlain, shape, Except.isOk, Except.toBool]
  | member kind =>
    by_cases none : h.overloads = []
    · simp [toMember, isPlain, shape, none, Except.isOk, Except.toBool]
    · cases kind <;> simp [toMember, isPlain, shape, none, Except.isOk, Except.toBool]

theorem toMember_reject_of_isOverloaded (className : String) {h : Handle}
    (overloaded : h.isOverloaded = true) :
    h.toMember className .reject = .error (.overloadsRejected className) := by
  simp only [isOverloaded, Bool.and_eq_true, Bool.or_eq_true, decide_eq_true_eq] at overloaded
  obtain ⟨kind | kind, some⟩ := overloaded <;> simp [toMember, kind, some]

theorem toMember_reject_error {className : String} {h : Handle} {error : SortError}
    (failed : h.toMember className .reject = .error error) (single : h.isOverloaded = false) :
    error.isFileLevel = false := by
  cases shape : h.kind with
  | orphanSignature =>
    simp only [toMember, shape] at failed
    cases failed
    rfl
  | unsupported nodeKind =>
    simp only [toMember, shape] at failed
    cases failed
    rfl
  | member kind =>
    by_cases none : h.overloads = []
    · simp [toMember, shape, none] at failed
    · cases kind with
      | field =>
        simp only [toMember, shape, none, ne_eq, not_false_eq_true, and_self, if_true] at failed
        cases failed
        rfl
      | method => simp [isOverloaded, shape, none] at single
      | constructor => simp [isOverloaded, shape, none] at single

end Handle

namespace ClassDecl

variable {skip : ClassFilter} {c : ClassDecl}

/-- The first handle that is no plain member is overloaded. -/
def noticesOverloads (c : ClassDecl) : Bool :=
  (c.members.find? fun h => !h.isPlain).any Handle.isOverloaded

theorem extract_reject_eq_error_iff {error : SortError} :
    c.extract .reject = .error error ↔ ∃ h, c.members.find? (fun h => !h.isPlain) = some h ∧
      h.toMember c.displayName .reject = .error error := by
  simp only [extract, mapM_eq_error_iff, Handle.toMember_reject_isOk]

theorem extract_reject_of_notices (notices : c.noticesOverloads = true) :
    c.extract .reject = .error (.overloadsRejected c.displayName) := by
  obtain ⟨h, found, overloaded⟩ := (Option.any_eq_true _ _).mp notices
  exact extract_reject_eq_error_iff.mpr
    ⟨h, found, Handle.toMember_reject_of_isOverloaded _ overloaded⟩

theorem extract_reject_error {error : SortError} (failed : c.extract .reject = .error error)
    (overlooks : c.noticesOverloads = false) : error.isFileLevel = false := by
  obtain ⟨h, found, here⟩ := extract_reject_eq_error_iff.mp failed
  rw [noticesOverloads, found] at overlooks
  exact Handle.toMember_reject_error here overlooks

def refuses (skip : ClassFilter) (c : ClassDecl) : Bool := !skip c && c.noticesOverloads

theorem verdict_reject_of_refuses (refuses : c.refuses skip = true) :
    c.verdict .reject skip = .error (.overloadsRejected c.displayName) := by
  simp only [ClassDecl.refuses, Bool.and_eq_true, Bool.not_eq_true'] at refuses
  obtain ⟨keeps, notices⟩ := refuses
  simp [verdict, keeps, process, extract_reject_of_notices notices, Except.map,
    SortError.isFileLevel]

theorem verdict_reject_isOk (skip : ClassFilter) (c : ClassDecl) :
    (c.verdict .reject skip).isOk = !c.refuses skip := by
  cases refuses : c.refuses skip with
  | true => rw [verdict_reject_of_refuses refuses]; rfl
  | false =>
    unfold verdict
    split
    · rfl
    case isFalse keeps =>
      split
      case h_1 error failed =>
        have extracted : c.extract .reject = .error error := by
          cases found : c.extract .reject <;> simp_all [process, Except.map]
        have overlooks : c.noticesOverloads = false := by
          simpa [ClassDecl.refuses, keeps] using refuses
        rw [if_neg (by simp [extract_reject_error extracted overlooks])]
        rfl
      case h_2 => split <;> rfl

end ClassDecl

/-! ## Sources -/

/-- Without a syntax error, a source is refused for the error of its first refusing class. -/
theorem sortSource_eq_error_iff {path : Path} {source : Text} {root : Node}
    {policy : OverloadPolicy} {skip : ClassFilter} {error : SortError}
    (clean : root.info.hasError = false) :
    sortSource path source root policy skip = .error error ↔
      ∃ c, (collectClasses source root).find? (fun c => !(c.verdict policy skip).isOk) = some c ∧
        c.verdict policy skip = .error error := by
  rw [← mapM_eq_error_iff]
  unfold sortSource parseClasses Node.fault?
  rw [clean]
  cases judged : (collectClasses source root).mapM (ClassDecl.verdict policy skip) with
  | error e => simp [judged, bind, Except.bind]
  | ok verdicts => simp [judged, bind, Except.bind, pure, Except.pure]

theorem sortSource_reject_eq_error_iff {path : Path} {source : Text} {root : Node}
    {skip : ClassFilter} {error : SortError} (clean : root.info.hasError = false) :
    sortSource path source root .reject skip = .error error ↔
      ∃ c, (collectClasses source root).find? (·.refuses skip) = some c ∧
        error = .overloadsRejected c.displayName := by
  rw [sortSource_eq_error_iff clean]
  simp only [ClassDecl.verdict_reject_isOk, Bool.not_not]
  refine exists_congr fun c => and_congr_right fun found => ?_
  rw [ClassDecl.verdict_reject_of_refuses (List.find?_some found), Except.error.injEq, eq_comm]

def HasOverloads (classes : List ClassDecl) (skip : ClassFilter) : Prop :=
  ∃ c ∈ classes, skip c = false ∧ ∃ h ∈ c.members, h.isOverloaded = true

/-- A class that is not skipped has overloads, and they come before anything in it that cannot be
sorted. -/
def NoticesOverloads (classes : List ClassDecl) (skip : ClassFilter) : Prop :=
  ∃ c ∈ classes, skip c = false ∧ c.noticesOverloads = true

instance (classes : List ClassDecl) (skip : ClassFilter) : Decidable (HasOverloads classes skip) :=
  inferInstanceAs (Decidable (∃ c ∈ classes, _ ∧ _))

instance (classes : List ClassDecl) (skip : ClassFilter) :
    Decidable (NoticesOverloads classes skip) :=
  inferInstanceAs (Decidable (∃ c ∈ classes, _ ∧ _))

theorem NoticesOverloads.hasOverloads {classes : List ClassDecl} {skip : ClassFilter}
    (notices : NoticesOverloads classes skip) : HasOverloads classes skip := by
  obtain ⟨c, member, keeps, noticed⟩ := notices
  obtain ⟨h, found, overloaded⟩ := (Option.any_eq_true _ _).mp noticed
  exact ⟨c, member, keeps, h, List.mem_of_find?_eq_some found, overloaded⟩

theorem find?_refuses_eq_none_iff {classes : List ClassDecl} {skip : ClassFilter} :
    classes.find? (·.refuses skip) = none ↔ ¬ NoticesOverloads classes skip := by
  simp [NoticesOverloads, ClassDecl.refuses]

/-- A source is refused exactly if overloads are noticed in it, so overloads have it refused and
nothing else does, unless none of them is noticed. -/
theorem sortSource_reject_iff (path : Path) {source : Text} {root : Node} (skip : ClassFilter)
    (clean : root.info.hasError = false) :
    (((HasOverloads (collectClasses source root) skip →
          ∃ className, sortSource path source root .reject skip =
            .error (.overloadsRejected className)) ∧
        (¬ HasOverloads (collectClasses source root) skip →
          ∃ outcome, sortSource path source root .reject skip = .ok outcome)) ↔
      (HasOverloads (collectClasses source root) skip →
        NoticesOverloads (collectClasses source root) skip)) ∧
    (NoticesOverloads (collectClasses source root) skip →
      ∃ className, sortSource path source root .reject skip =
        .error (.overloadsRejected className)) ∧
    (¬ NoticesOverloads (collectClasses source root) skip →
      ∃ outcome, sortSource path source root .reject skip = .ok outcome) := by
  have refused (notices : NoticesOverloads (collectClasses source root) skip) :
      ∃ className, sortSource path source root .reject skip =
        .error (.overloadsRejected className) := by
    cases found : (collectClasses source root).find? (·.refuses skip) with
    | none => exact absurd notices (find?_refuses_eq_none_iff.mp found)
    | some c => exact ⟨_, (sortSource_reject_eq_error_iff clean).mpr ⟨c, found, rfl⟩⟩
  have sorted (overlooks : ¬ NoticesOverloads (collectClasses source root) skip) :
      ∃ outcome, sortSource path source root .reject skip = .ok outcome := by
    cases result : sortSource path source root .reject skip with
    | ok outcome => exact ⟨outcome, rfl⟩
    | error error =>
      obtain ⟨c, found, -⟩ := (sortSource_reject_eq_error_iff clean).mp result
      rw [find?_refuses_eq_none_iff.mpr overlooks] at found
      cases found
  refine ⟨⟨?_, ?_⟩, refused, sorted⟩
  · rintro ⟨refuses, -⟩ overloaded
    by_contra overlooks
    obtain ⟨className, failed⟩ := refuses overloaded
    obtain ⟨outcome, done⟩ := sorted overlooks
    rw [failed] at done
    cases done
  · intro notices
    exact ⟨fun overloaded => refused (notices overloaded),
      fun single => sorted fun noticed => single noticed.hasOverloads⟩

namespace Unnoticed

/-- A class with an index signature before an overloaded method. -/
def source : Text := "class X \x7b [k: string]: any; f(): void; f() \x7b\x7d \x7d\n".toList

def tree : Node :=
  .named "program" "" ⟨0, 48⟩ 0 1 [
    .named "class_declaration" "" ⟨0, 47⟩ 0 0 [
      .token "class" ⟨0, 5⟩ 0,
      .named "type_identifier" "name" ⟨6, 7⟩ 0 0 [],
      .named "class_body" "body" ⟨8, 47⟩ 0 0 [
        .token "\x7b" ⟨8, 9⟩ 0,
        .named "index_signature" "" ⟨10, 26⟩ 0 0 [
          .token "[" ⟨10, 11⟩ 0,
          .named "identifier" "name" ⟨11, 12⟩ 0 0 [],
          .token ":" ⟨12, 13⟩ 0,
          .named "predefined_type" "index_type" ⟨14, 20⟩ 0 0 [.token "string" ⟨14, 20⟩ 0],
          .token "]" ⟨20, 21⟩ 0,
          .named "type_annotation" "type" ⟨21, 26⟩ 0 0 [
            .token ":" ⟨21, 22⟩ 0,
            .named "predefined_type" "" ⟨23, 26⟩ 0 0 [.token "any" ⟨23, 26⟩ 0]]],
        .token ";" ⟨26, 27⟩ 0,
        .named "method_signature" "" ⟨28, 37⟩ 0 0 [
          .named "property_identifier" "name" ⟨28, 29⟩ 0 0 [],
          .named "formal_parameters" "parameters" ⟨29, 31⟩ 0 0
            [.token "(" ⟨29, 30⟩ 0, .token ")" ⟨30, 31⟩ 0],
          .named "type_annotation" "return_type" ⟨31, 37⟩ 0 0 [
            .token ":" ⟨31, 32⟩ 0,
            .named "predefined_type" "" ⟨33, 37⟩ 0 0 [.token "void" ⟨33, 37⟩ 0]]],
        .token ";" ⟨37, 38⟩ 0,
        .named "method_definition" "" ⟨39, 45⟩ 0 0 [
          .named "property_identifier" "name" ⟨39, 40⟩ 0 0 [],
          .named "formal_parameters" "parameters" ⟨40, 42⟩ 0 0
            [.token "(" ⟨40, 41⟩ 0, .token ")" ⟨41, 42⟩ 0],
          .named "statement_block" "body" ⟨43, 45⟩ 0 0
            [.token "\x7b" ⟨43, 44⟩ 0, .token "\x7d" ⟨44, 45⟩ 0]],
        .token "\x7d" ⟨46, 47⟩ 0]]]

end Unnoticed

theorem sortSource_reject_iff_unnoticed :
    Unnoticed.tree.info.hasError = false ∧
      (((HasOverloads (collectClasses Unnoticed.source Unnoticed.tree) .none →
            ∃ className, sortSource ⟨"test.ts"⟩ Unnoticed.source Unnoticed.tree .reject .none =
              .error (.overloadsRejected className)) ∧
          (¬ HasOverloads (collectClasses Unnoticed.source Unnoticed.tree) .none →
            ∃ outcome, sortSource ⟨"test.ts"⟩ Unnoticed.source Unnoticed.tree .reject .none =
              .ok outcome)) ↔
        (HasOverloads (collectClasses Unnoticed.source Unnoticed.tree) .none →
          NoticesOverloads (collectClasses Unnoticed.source Unnoticed.tree) .none)) ∧
      (NoticesOverloads (collectClasses Unnoticed.source Unnoticed.tree) .none →
        ∃ className, sortSource ⟨"test.ts"⟩ Unnoticed.source Unnoticed.tree .reject .none =
          .error (.overloadsRejected className)) ∧
      (¬ NoticesOverloads (collectClasses Unnoticed.source Unnoticed.tree) .none →
        ∃ outcome, sortSource ⟨"test.ts"⟩ Unnoticed.source Unnoticed.tree .reject .none =
          .ok outcome) :=
  ⟨rfl, sortSource_reject_iff _ _ rfl⟩

/-- Overloads behind an index signature do not have the source refused. -/
theorem sortSource_reject_overlooks :
    Unnoticed.tree.info.hasError = false ∧
      HasOverloads (collectClasses Unnoticed.source Unnoticed.tree) .none ∧
      sortSource ⟨"test.ts"⟩ Unnoticed.source Unnoticed.tree .reject .none =
        .ok ⟨none, [.failed "X" (.unsupported "X" (.unplaced "index_signature" 1))]⟩ := by
  refine ⟨rfl, by decide +kernel, by decide +kernel⟩

end MemberOrder
