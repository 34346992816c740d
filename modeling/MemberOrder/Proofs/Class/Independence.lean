import Mathlib.Data.List.Pairwise
import Mathlib.Data.List.Perm.Basic
import MemberOrder.Proofs.Class.Members

/-! The new member list does not depend on the old order.

Where names tell the members of a bucket apart and there is one constructor at most, the canonical
order leaves no choice, so rearranged members come to the same buckets and the same text. Only
members that the order ties keep the places they had.
-/

set_option autoImplicit false

namespace MemberOrder

structure Unambiguous (members : List Member) : Prop where
  names : members.Pairwise fun a b =>
    a.bucket = b.bucket → a.bucket.sortedByName = true → a.name ≠ b.name
  constructors : members.countP (·.kind = .constructor) ≤ 1

instance (members : List Member) : Decidable (Unambiguous members) :=
  decidable_of_iff
    (members.Pairwise (fun a b =>
      a.bucket = b.bucket → a.bucket.sortedByName = true → a.name ≠ b.name) ∧
      members.countP (·.kind = .constructor) ≤ 1)
    ⟨fun ⟨names, constructors⟩ => ⟨names, constructors⟩,
      fun unambiguous => ⟨unambiguous.names, unambiguous.constructors⟩⟩

theorem Member.kind_of_not_sortedByName {m : Member} (unsorted : ¬ m.bucket.sortedByName = true) :
    m.kind = .constructor := by
  unfold Member.bucket at unsorted
  split at unsorted
  case h_1 => assumption
  all_goals exact absurd rfl unsorted

namespace Unambiguous

variable {members : List Member}

theorem eq_of_name (unambiguous : Unambiguous members) {a b : Member} (first : a ∈ members)
    (second : b ∈ members) (bucket : a.bucket = b.bucket)
    (byName : a.bucket.sortedByName = true) (name : a.name = b.name) : a = b := by
  have : Std.Symm fun a b : Member =>
      a.bucket = b.bucket → a.bucket.sortedByName = true → a.name ≠ b.name :=
    ⟨fun a b apart bucket byName => (apart bucket.symm (bucket ▸ byName)).symm⟩
  by_contra differs
  exact unambiguous.names.forall first second differs bucket byName name

theorem eq_of_constructor (unambiguous : Unambiguous members) {a b : Member} (first : a ∈ members)
    (second : b ∈ members) (isFirst : a.kind = .constructor) (isSecond : b.kind = .constructor) :
    a = b := by
  have short := unambiguous.constructors
  rw [List.countP_eq_length_filter] at short
  have first' : a ∈ members.filter (·.kind = .constructor) := by simp [first, isFirst]
  have second' : b ∈ members.filter (·.kind = .constructor) := by simp [second, isSecond]
  obtain ⟨c, only⟩ := List.length_eq_one_iff.mp
    (Nat.le_antisymm short (List.length_pos_of_mem first'))
  rw [only, List.mem_singleton] at first' second'
  rw [first', second']

/-- The canonical order ties no two members. -/
theorem eq_of_precedes (unambiguous : Unambiguous members) {a b : Member} (first : a ∈ members)
    (second : b ∈ members) (precedes : a.Precedes b) (follows : b.Precedes a) : a = b := by
  obtain ⟨bucket, name⟩ := precedes.antisymm follows
  by_cases byName : a.bucket.sortedByName = true
  · exact unambiguous.eq_of_name first second bucket byName (name byName)
  · exact unambiguous.eq_of_constructor first second (Member.kind_of_not_sortedByName byName)
      (Member.kind_of_not_sortedByName (bucket ▸ byName))

theorem canonicalOrder_eq (unambiguous : Unambiguous members) {others : List Member}
    (perm : members.Perm others) : canonicalOrder members = canonicalOrder others := by
  have rearranged : (canonicalOrder members).Perm (canonicalOrder others) :=
    (canonicalOrder_perm members).trans (perm.trans (canonicalOrder_perm others).symm)
  refine rearranged.eq_of_pairwise ?_ (canonicalOrder_inCanonicalOrder members)
    (canonicalOrder_inCanonicalOrder others)
  intro a b first second precedes follows
  have first' := (canonicalOrder_perm members).mem_iff.mp first
  have second' := perm.mem_iff.mpr ((canonicalOrder_perm others).mem_iff.mp second)
  exact unambiguous.eq_of_precedes first' second' precedes follows

theorem sorted_eq (unambiguous : Unambiguous members) {others : List Member}
    (perm : members.Perm others) :
    (Buckets.ofMembers members).sorted = (Buckets.ofMembers others).sorted := by
  funext b
  -- A sound bucket is what the whole list has of it.
  rw [← (Buckets.sound_ofMembers members).sorted.filter_toList b,
    ← (Buckets.sound_ofMembers others).sorted.filter_toList b]
  exact congrArg (List.filter _) (unambiguous.canonicalOrder_eq perm)

end Unambiguous

/-! ## Classes -/

namespace ClassDecl

variable {policy : OverloadPolicy} {c : ClassDecl} {members : List Member}

/-- Rearranged handles are extracted to rearranged members. -/
theorem extract_of_perm (extracted : c.extract policy = .ok members) {handles : List Handle}
    (perm : c.members.Perm handles) :
    ∃ others, extract policy { c with members := handles } = .ok others ∧
      members.Perm others := by
  obtain ⟨others, made, rearranged⟩ := List.perm_comp_forall₂ perm.symm (extract_eq_ok extracted)
  exact ⟨others, mapM_eq_ok_iff.mpr made, rearranged.symm⟩

end ClassDecl

/-- Rearranging the members changes neither the buckets nor anything that is written from them, and
a class whose members are rearranged comes to the same new order and the same new text. -/
theorem canonicalForm_of_perm {members : List Member} (unambiguous : Unambiguous members) :
    (∀ others, members.Perm others →
      (Buckets.ofMembers members).sorted = (Buckets.ofMembers others).sorted ∧
      (Buckets.ofMembers members).sorted.toList.map Member.signature =
        (Buckets.ofMembers others).sorted.toList.map Member.signature ∧
      (∀ newline, (Buckets.ofMembers members).sorted.recompose newline =
        (Buckets.ofMembers others).sorted.recompose newline) ∧
      ∀ newline closing, (Buckets.ofMembers members).sorted.closingSeparator newline closing =
        (Buckets.ofMembers others).sorted.closingSeparator newline closing) ∧
    ∀ policy (c : ClassDecl) handles, c.extract policy = .ok members → c.members.Perm handles →
      ∃ result result', c.process policy = .ok result ∧
        ClassDecl.process policy { c with members := handles } = .ok result' ∧
        result.newOrder = result'.newOrder ∧
        ∀ text text', result.text = some text → result'.text = some text' → text = text' := by
  constructor
  · intro others perm
    rw [unambiguous.sorted_eq perm]
    exact ⟨rfl, rfl, fun _ => rfl, fun _ _ => rfl⟩
  · intro policy c handles extracted perm
    obtain ⟨others, extracted', rearranged⟩ := ClassDecl.extract_of_perm extracted perm
    refine ⟨_, _, ClassDecl.process_of_extract extracted,
      ClassDecl.process_of_extract extracted', ?_, ?_⟩
    · exact congrArg (List.map Member.signature) (unambiguous.canonicalOrder_eq rearranged)
    · intro text text' changed changed'
      obtain ⟨_, found, -, rebuilt⟩ :=
        ClassDecl.text_of_process (ClassDecl.process_of_extract extracted) changed
      obtain ⟨_, found', -, rebuilt'⟩ :=
        ClassDecl.text_of_process (ClassDecl.process_of_extract extracted') changed'
      cases extracted.symm.trans found
      cases extracted'.symm.trans found'
      rw [rebuilt, rebuilt', unambiguous.sorted_eq rearranged]
      rfl

namespace Rotated

def method : Member := ⟨.method, "b", false, false, "  b() \x7b\x7d".toList, [], false⟩

def builder : Member :=
  ⟨.constructor, Member.constructorName, false, false, "  constructor() \x7b\x7d".toList, [],
    false⟩

def field : Member := ⟨.field, "a", false, false, "  a = 1;".toList, [], false⟩

def methodHandle : Handle :=
  ⟨.member .method, "b", false, false, "  b() \x7b\x7d".toList, [], 2, false⟩

def builderHandle : Handle :=
  ⟨.member .constructor, "constructor", false, false, "  constructor() \x7b\x7d".toList, [], 3,
    false⟩

def fieldHandle : Handle := ⟨.member .field, "a", false, false, "  a = 1;".toList, [], 4, false⟩

/-- A class whose three members are in the wrong order, however they are rotated. -/
def declaration : ClassDecl where
  name := some "A"
  line := 1
  doc := none
  members := [methodHandle, builderHandle, fieldHandle]
  span := some ⟨10, 49⟩
  closing := none
  lineEnding := .lf

theorem canonicalOrder_rotated {members : List Member}
    (perm : [field, builder, method].Perm members) :
    canonicalOrder members = [field, builder, method] :=
  canonicalOrder_eq_of_perm perm (by decide)

end Rotated

theorem canonicalForm_of_perm_rotated :
    Unambiguous [Rotated.method, Rotated.builder, Rotated.field] ∧
      (Buckets.ofMembers [Rotated.method, Rotated.builder, Rotated.field]).sorted =
        (Buckets.ofMembers [Rotated.builder, Rotated.method, Rotated.field]).sorted ∧
      ∃ result result', Rotated.declaration.process .group = .ok result ∧
        ClassDecl.process .group { Rotated.declaration with
          members := [Rotated.builderHandle, Rotated.methodHandle, Rotated.fieldHandle] } =
          .ok result' ∧
        result.newOrder = result'.newOrder ∧
        result.text.isSome = true ∧ result'.text.isSome = true ∧
        ∀ text text', result.text = some text → result'.text = some text' → text = text' := by
  have unambiguous : Unambiguous [Rotated.method, Rotated.builder, Rotated.field] := by decide
  have extracted : Rotated.declaration.extract .group =
      .ok [Rotated.method, Rotated.builder, Rotated.field] := rfl
  have extracted' : ClassDecl.extract .group { Rotated.declaration with
      members := [Rotated.builderHandle, Rotated.methodHandle, Rotated.fieldHandle] } =
      .ok [Rotated.builder, Rotated.method, Rotated.field] := rfl
  obtain ⟨result, result', processed, processed', order, texts⟩ :=
    (canonicalForm_of_perm unambiguous).2 .group Rotated.declaration
      [Rotated.builderHandle, Rotated.methodHandle, Rotated.fieldHandle] extracted (by decide)
  refine ⟨unambiguous, ((canonicalForm_of_perm unambiguous).1 _ (by decide)).1,
    result, result', processed, processed', order, ?_, ?_, texts⟩
  · rw [ClassDecl.process_of_extract extracted, Rotated.canonicalOrder_rotated (by decide)]
      at processed
    cases processed
    rfl
  · rw [ClassDecl.process_of_extract extracted', Rotated.canonicalOrder_rotated (by decide)]
      at processed'
    cases processed'
    rfl

end MemberOrder
