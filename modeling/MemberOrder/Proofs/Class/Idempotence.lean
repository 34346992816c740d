import MemberOrder.Proofs.Bucket.StableSort
import MemberOrder.Proofs.Class.Members

/-! A class that has been put into canonical order stays as it is.

Handles are rearranged together with the members behind them. Each handle still gives its own
member, wherever it stands, so the rearranged class extracts to the members in canonical order, and
these are sorted already.
-/

set_option autoImplicit false

namespace MemberOrder

theorem canonicalOrder_idem (members : List Member) :
    canonicalOrder (canonicalOrder members) = canonicalOrder members :=
  canonicalOrder_eq_self (canonicalOrder_inCanonicalOrder members)

namespace ClassDecl

/-- The handles of the class in the order in which the sorted buckets list the members behind them.
Handles of equal members may stand either way. -/
def Arranged (members : List Member) (c : ClassDecl) (handles : List Handle) : Prop :=
  ∃ pairs : List (Handle × Member), pairs.Perm (c.members.zip members) ∧
    pairs.map Prod.fst = handles ∧
    pairs.map Prod.snd = (Buckets.ofMembers members).sorted.toList

variable {policy : OverloadPolicy} {c : ClassDecl} {members : List Member}

theorem exists_arranged (extracted : c.extract policy = .ok members) :
    ∃ handles, c.Arranged members handles := by
  have sameLength := (extract_eq_ok extracted).length_eq
  -- The pairs are sorted as the members alone would be.
  let before (a b : Handle × Member) : Bool := a.2.canonicalLe b.2
  refine ⟨_, (c.members.zip members).mergeSort before, List.mergeSort_perm _ _, rfl, ?_⟩
  calc ((c.members.zip members).mergeSort before).map Prod.snd
      = ((c.members.zip members).map Prod.snd).mergeSort Member.canonicalLe :=
        List.map_mergeSort fun _ _ _ _ => rfl
    _ = members.mergeSort Member.canonicalLe := by
        rw [List.map_snd_zip (Nat.le_of_eq sameLength.symm)]
    _ = canonicalOrder members := (canonicalOrder_eq_mergeSort members).symm

/-- A handle gives its member wherever it stands. -/
theorem extract_arranged {handles : List Handle} (extracted : c.extract policy = .ok members)
    (arranged : c.Arranged members handles) :
    extract policy { c with members := handles } = .ok (canonicalOrder members) := by
  obtain ⟨pairs, perm, rfl, listed⟩ := arranged
  obtain ⟨-, made⟩ := List.forall₂_iff_zip.mp (extract_eq_ok extracted)
  refine mapM_eq_ok_iff.mpr ?_
  change List.Forall₂ _ (pairs.map Prod.fst) (Buckets.ofMembers members).sorted.toList
  rw [← listed, List.forall₂_map_left_iff, List.forall₂_map_right_iff, List.forall₂_same]
  intro pair inside
  exact made (perm.mem_iff.mp inside)

/-- Once its handles stand in canonical order, a class is processed to the order it has, and
nothing is written anew. -/
theorem process_arranged {result : ClassResult} (processed : c.process policy = .ok result) :
    ∃ members, c.extract policy = .ok members ∧ (∃ handles, c.Arranged members handles) ∧
      ∀ handles, c.Arranged members handles →
        process policy { c with members := handles } =
          .ok ⟨result.className, result.newOrder, result.newOrder, none⟩ := by
  obtain ⟨members, extracted⟩ := process_eq_ok processed
  refine ⟨members, extracted, exists_arranged extracted, fun handles arranged => ?_⟩
  rw [process_of_extract extracted] at processed
  cases processed
  rw [process_of_extract (extract_arranged extracted arranged), canonicalOrder_idem, if_pos rfl]
  rfl

end ClassDecl

namespace Twins

def methodHandle : Handle :=
  ⟨.member .method, "m", false, false, "m(x) \x7b\x7d".toList, ["m(): void;".toList], 3, false⟩

def firstHandle : Handle :=
  ⟨.member .constructor, "constructor", false, false, "constructor();".toList, [], 4, false⟩

def secondHandle : Handle :=
  ⟨.member .constructor, "constructor", false, false, "constructor(x);".toList, [], 5, false⟩

def fieldHandle : Handle := ⟨.member .field, "f", true, false, "static f;".toList, [], 6, false⟩

/-- A method with an overload and two constructors stand before a static field. -/
def declaration : ClassDecl where
  name := some "T"
  line := 1
  doc := none
  members := [methodHandle, firstHandle, secondHandle, fieldHandle]
  span := some ⟨10, 61⟩
  closing := none
  lineEnding := .lf

def method : Member :=
  ⟨.method, "m", false, false, "m(x) \x7b\x7d".toList, ["m(): void;".toList], false⟩

def first : Member :=
  ⟨.constructor, Member.constructorName, false, false, "constructor();".toList, [], false⟩

def second : Member :=
  ⟨.constructor, Member.constructorName, false, false, "constructor(x);".toList, [], false⟩

def field : Member := ⟨.field, "f", true, false, "static f;".toList, [], false⟩

theorem extract_eq : declaration.extract .group = .ok [method, first, second, field] := rfl

theorem canonicalOrder_eq :
    canonicalOrder [method, first, second, field] = [field, first, second, method] := by
  decide +kernel

theorem arranged : declaration.Arranged [method, first, second, field]
    [fieldHandle, firstHandle, secondHandle, methodHandle] :=
  ⟨[(fieldHandle, field), (firstHandle, first), (secondHandle, second), (methodHandle, method)],
    by decide, rfl, canonicalOrder_eq.symm⟩

end Twins

theorem process_arranged_twins :
    ∃ result, Twins.declaration.process .group = .ok result ∧ result.text.isSome = true ∧
      Twins.declaration.Arranged [Twins.method, Twins.first, Twins.second, Twins.field]
        [Twins.fieldHandle, Twins.firstHandle, Twins.secondHandle, Twins.methodHandle] ∧
      ClassDecl.process .group { Twins.declaration with
        members := [Twins.fieldHandle, Twins.firstHandle, Twins.secondHandle,
          Twins.methodHandle] } =
        .ok ⟨result.className, result.newOrder, result.newOrder, none⟩ := by
  have processed := ClassDecl.process_of_extract Twins.extract_eq
  obtain ⟨members, extracted, -, again⟩ := ClassDecl.process_arranged processed
  cases extracted.symm.trans Twins.extract_eq
  refine ⟨_, processed, ?_, Twins.arranged, again _ Twins.arranged⟩
  rw [Twins.canonicalOrder_eq]
  rfl

end MemberOrder
