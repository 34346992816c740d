import MemberOrder.Proofs.Class.Members

/-! When a class counts as unchanged.

A class is left alone if its members have the same kinds and names in the same sequence as in
canonical order. Kinds and names do not tell the bucket, so members that share both can stand in
the wrong order unnoticed. That is the only way in which an unchanged class fails to be in canonical
order.
-/

set_option autoImplicit false

namespace MemberOrder

def ClassResult.orderAfter (r : ClassResult) (members : List Member) : List Member :=
  if r.text.isSome then canonicalOrder members else members

theorem InCanonicalOrder.signaturesInOrder {members : List Member}
    (ordered : InCanonicalOrder members) : SignaturesInOrder members :=
  ordered.imp fun precedes _ => precedes.1

/-- The same kinds and names in the same sequence mean the same members, as long as members that
share both stand in the order of their buckets. -/
theorem inCanonicalOrder_iff_signatures (members : List Member) :
    InCanonicalOrder members ↔
      members.map Member.signature = (canonicalOrder members).map Member.signature ∧
        SignaturesInOrder members := by
  constructor
  · intro ordered
    rw [canonicalOrder_eq_self ordered]
    exact ⟨rfl, ordered.signaturesInOrder⟩
  · rintro ⟨same, inOrder⟩
    -- Neither the sequence of signatures changes nor the members under one signature.
    have fixed : members = canonicalOrder members := by
      apply eq_of_filter_eq Member.signature same
      intro s
      exact (filter_signature_canonicalOrder inOrder s).symm
    rw [fixed]
    exact canonicalOrder_inCanonicalOrder members

namespace ClassDecl

variable {policy : OverloadPolicy} {c : ClassDecl} {members : List Member}

theorem text_eq_none_iff {result : ClassResult} (extracted : c.extract policy = .ok members)
    (processed : c.process policy = .ok result) :
    result.text = none ↔
      members.map Member.signature = (canonicalOrder members).map Member.signature := by
  rw [process_of_extract extracted] at processed
  cases processed
  simp

/-- A class without a new text is in canonical order, and so are the members of every class after
processing, unless members of one kind and name stand against the order of their buckets in a class
left alone. -/
theorem process_detects_iff (extracted : c.extract policy = .ok members) :
    ∃ result, c.process policy = .ok result ∧
      ((result.text = none ↔ InCanonicalOrder members) ↔
        (result.text = none → SignaturesInOrder members)) ∧
      (InCanonicalOrder (result.orderAfter members) ↔
        (result.text = none → SignaturesInOrder members)) ∧
      ∀ text, result.text = some text → text = c.rebuild (Buckets.ofMembers members).sorted := by
  obtain ⟨result, processed⟩ : ∃ result, c.process policy = .ok result :=
    ⟨_, process_of_extract extracted⟩
  have ordered := inCanonicalOrder_iff_signatures members
  rw [← text_eq_none_iff extracted processed] at ordered
  refine ⟨result, processed, ?_, ?_, ?_⟩
  · rw [ordered]
    tauto
  · unfold ClassResult.orderAfter
    split
    case isTrue changed =>
      have differs := Option.isSome_iff_ne_none.mp changed
      exact iff_of_true (canonicalOrder_inCanonicalOrder members) fun same => absurd same differs
    case isFalse unchanged =>
      have same := Option.not_isSome_iff_eq_none.mp unchanged
      rw [ordered]
      tauto
  · intro text changed
    obtain ⟨members', extracted', -, rebuilt⟩ := text_of_process processed changed
    cases extracted.symm.trans extracted'
    exact rebuilt

end ClassDecl

namespace Homonyms

def instanceMethod : Member := ⟨.method, "a", false, false, "  a();".toList, [], false⟩

def staticMethod : Member := ⟨.method, "a", true, false, "  static a();".toList, [], false⟩

/-- A class with a method and a static method of the same name. -/
def declaration : ClassDecl where
  name := some "C"
  line := 1
  doc := none
  members := [
    ⟨.member .method, "a", false, false, "  a();".toList, [], 2, false⟩,
    ⟨.member .method, "a", true, false, "  static a();".toList, [], 3, false⟩]
  span := some ⟨10, 31⟩
  closing := none
  lineEnding := .lf

theorem extract_eq : declaration.extract .group = .ok [instanceMethod, staticMethod] := rfl

end Homonyms

theorem process_detects_iff_homonyms :
    Homonyms.declaration.extract .group =
        .ok [Homonyms.instanceMethod, Homonyms.staticMethod] ∧
      ∃ result, Homonyms.declaration.process .group = .ok result ∧
        ((result.text = none ↔ InCanonicalOrder [Homonyms.instanceMethod, Homonyms.staticMethod]) ↔
          (result.text = none →
            SignaturesInOrder [Homonyms.instanceMethod, Homonyms.staticMethod])) ∧
        (InCanonicalOrder (result.orderAfter [Homonyms.instanceMethod, Homonyms.staticMethod]) ↔
          (result.text = none →
            SignaturesInOrder [Homonyms.instanceMethod, Homonyms.staticMethod])) ∧
        ∀ text, result.text = some text →
          text = Homonyms.declaration.rebuild
            (Buckets.ofMembers [Homonyms.instanceMethod, Homonyms.staticMethod]).sorted :=
  ⟨Homonyms.extract_eq, ClassDecl.process_detects_iff Homonyms.extract_eq⟩

/-- A static method behind a method of its name is left there, though its bucket comes first. -/
theorem process_misses_homonyms :
    ∃ result, Homonyms.declaration.extract .group =
        .ok [Homonyms.instanceMethod, Homonyms.staticMethod] ∧
      Homonyms.declaration.process .group = .ok result ∧ result.text = none ∧
      ¬ InCanonicalOrder [Homonyms.instanceMethod, Homonyms.staticMethod] := by
  have ordered : canonicalOrder [Homonyms.instanceMethod, Homonyms.staticMethod] =
      [Homonyms.staticMethod, Homonyms.instanceMethod] :=
    canonicalOrder_eq_of_perm (by decide) (by decide)
  have processed := ClassDecl.process_of_extract Homonyms.extract_eq
  refine ⟨_, Homonyms.extract_eq, processed, ?_, by decide⟩
  rw [ClassDecl.text_eq_none_iff Homonyms.extract_eq processed, ordered]
  rfl

end MemberOrder
