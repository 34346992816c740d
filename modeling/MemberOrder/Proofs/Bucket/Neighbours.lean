import Mathlib.Data.List.Chain
import MemberOrder.Class.Canonical
import MemberOrder.Proofs.Bucket.StableSort
import MemberOrder.Proofs.Text.Words

/-! Members that become neighbours.

A field that ends without a semicolon is ended by the line break behind it, unless the text that
follows continues its initializer. Which members follow each other is settled by the canonical order
alone: two members are neighbours when no third one belongs between them. The texts are joined as
they are, so such a field runs into the member behind it wherever the order brings the two together.
-/

set_option autoImplicit false

namespace MemberOrder

namespace Member

/-- A field with no semicolon anywhere. -/
def IsOpen (m : Member) : Prop := m.kind = .field ∧ ';' ∉ m.text

/-- The first character that shows would continue an expression on the line before. -/
def Continues (newline : Text) (m : Member) : Prop :=
  ((m.render newline).find? fun c => !Text.isBlank c).any (· ∈ ['[', '(', '*']) = true

def RunsInto (newline : Text) (a b : Member) : Prop := a.IsOpen ∧ b.Continues newline

instance (newline : Text) (a b : Member) : Decidable (a.RunsInto newline b) :=
  inferInstanceAs (Decidable ((_ ∧ _) ∧ _ = _))

end Member

/-- No member runs into the next. -/
def KeptApart (newline : Text) (members : List Member) : Prop :=
  members.IsChain fun a b => ¬ a.RunsInto newline b

instance (newline : Text) (members : List Member) : Decidable (KeptApart newline members) :=
  inferInstanceAs (Decidable (members.IsChain _))

/-! ## Neighbours in a sorted list -/

theorem adjacent_iff {α : Type} {lt : α → α → Prop} {xs : List α} (irrefl : ∀ a, ¬ lt a a)
    (trans : ∀ {a b c}, lt a b → lt b c → lt a c) (ascending : xs.Pairwise lt) (a b : α) :
    (∃ before after, xs = before ++ a :: b :: after) ↔
      a ∈ xs ∧ b ∈ xs ∧ lt a b ∧ ¬ ∃ c ∈ xs, lt a c ∧ lt c b := by
  constructor
  · -- Whatever stands before the two is less than `a`, and whatever stands behind more than `b`.
    rintro ⟨before, after, rfl⟩
    obtain ⟨-, tail, ahead⟩ := List.pairwise_append.mp ascending
    obtain ⟨behindA, tail⟩ := List.pairwise_cons.mp tail
    obtain ⟨behindB, -⟩ := List.pairwise_cons.mp tail
    refine ⟨by simp, by simp, behindA b List.mem_cons_self, ?_⟩
    rintro ⟨c, member, afterA, beforeB⟩
    rcases List.mem_append.mp member with early | late
    · exact irrefl c (trans (ahead c early a List.mem_cons_self) afterA)
    · rcases List.mem_cons.mp late with rfl | late
      · exact irrefl c afterA
      · rcases List.mem_cons.mp late with rfl | late
        · exact irrefl c beforeB
        · exact irrefl c (trans beforeB (behindB c late))
  · rintro ⟨first, second, less, nothing⟩
    obtain ⟨before, rest, rfl⟩ := List.append_of_mem first
    obtain ⟨-, tail, ahead⟩ := List.pairwise_append.mp ascending
    obtain ⟨behindA, tail⟩ := List.pairwise_cons.mp tail
    -- `b` can only stand behind `a`, and whatever stood between the two is excluded.
    have later : b ∈ rest := by
      rcases List.mem_append.mp second with early | late
      · exact absurd (trans (ahead b early a List.mem_cons_self) less) (irrefl b)
      · rcases List.mem_cons.mp late with rfl | late
        · exact absurd less (irrefl b)
        · exact late
    cases rest with
    | nil => cases later
    | cons next after =>
      rcases List.mem_cons.mp later with rfl | beyond
      · exact ⟨before, after, rfl⟩
      · exact absurd ⟨next, by simp, behindA next List.mem_cons_self,
          (List.pairwise_cons.mp tail).1 b beyond⟩ nothing

/-- Whether the first member comes before the second once they are sorted, each with the place it
had before. -/
def ComesBefore (a b : Member × Nat) : Prop :=
  a.1.Precedes b.1 ∧ (b.1.Precedes a.1 → a.2 < b.2)

instance (a b : Member × Nat) : Decidable (ComesBefore a b) :=
  inferInstanceAs (Decidable (_ ∧ _))

theorem comesBefore_irrefl (a : Member × Nat) : ¬ ComesBefore a a :=
  fun before => Nat.lt_irrefl _ (before.2 before.1)

theorem ComesBefore.trans {a b c : Member × Nat} (first : ComesBefore a b)
    (second : ComesBefore b c) : ComesBefore a c := by
  refine ⟨first.1.trans second.1, fun back => ?_⟩
  -- If the ends are tied, so is the member between them, and the places decide both times.
  have early := first.2 (second.1.trans back)
  have late := second.2 (back.trans first.1)
  omega

def sortedPlaces (members : List Member) : List (Member × Nat) :=
  members.zipIdx.mergeSort (List.zipIdxLE Member.canonicalLe)

theorem sortedPlaces_map_fst (members : List Member) :
    (sortedPlaces members).map (·.1) = canonicalOrder members := by
  rw [sortedPlaces, List.mergeSort_zipIdx, canonicalOrder_eq_mergeSort]

theorem mem_sortedPlaces {members : List Member} {a : Member × Nat} :
    a ∈ sortedPlaces members ↔ a ∈ members.zipIdx :=
  (List.mergeSort_perm _ _).mem_iff

theorem sortedPlaces_pairwise (members : List Member) :
    (sortedPlaces members).Pairwise ComesBefore := by
  have sorted := List.pairwise_mergeSort (List.zipIdxLE_trans Member.canonicalLe_trans)
    (List.zipIdxLE_total Member.canonicalLe_total) members.zipIdx
  have distinct : (sortedPlaces members).Pairwise fun a b => a.2 ≠ b.2 := by
    rw [sortedPlaces, (List.mergeSort_perm _ _).pairwise_iff Ne.symm, ← List.pairwise_map,
      List.zipIdx_map_snd]
    exact List.nodup_range'
  refine (sorted.and distinct).imp ?_
  rintro a b ⟨le, differ⟩
  simp only [List.zipIdxLE, Member.canonicalLe_iff] at le
  split at le
  case isFalse => cases le
  case isTrue ahead =>
    refine ⟨ahead, fun back => ?_⟩
    rw [if_pos back, decide_eq_true_eq] at le
    omega

theorem keptApart_canonicalOrder_iff (newline : Text) (members : List Member) :
    KeptApart newline (canonicalOrder members) ↔
      ∀ a ∈ members.zipIdx, ∀ b ∈ members.zipIdx, a.1.RunsInto newline b.1 → ComesBefore a b →
        ∃ c ∈ members.zipIdx, ComesBefore a c ∧ ComesBefore c b := by
  have adjacent := adjacent_iff comesBefore_irrefl ComesBefore.trans (sortedPlaces_pairwise members)
  rw [KeptApart, ← sortedPlaces_map_fst, List.isChain_map,
    List.isChain_iff_forall_rel_of_append_cons_cons]
  simp only [mem_sortedPlaces] at adjacent
  constructor
  · intro apart a first b second runs before
    by_contra nothing
    obtain ⟨front, back, split⟩ := (adjacent a b).mpr ⟨first, second, before, nothing⟩
    exact apart split runs
  · intro between a b front back split runs
    obtain ⟨first, second, before, nothing⟩ := (adjacent a b).mp ⟨front, back, split⟩
    exact nothing (between a first b second runs before)

/-! ## In the text -/

theorem Text.pair_isInfix_join (separator s t : Text) (front back : List Text) :
    s ++ separator ++ t <:+: join separator (front ++ s :: t :: back) := by
  have behind : join separator (t :: back) = t ++ join separator ([] :: back) := by
    simpa using join_append_cons separator t [] [] back
  refine ⟨join separator (front ++ [[]]), join separator ([] :: back), ?_⟩
  have ahead := join_append_cons separator [] s front (t :: back)
  rw [List.nil_append] at ahead
  rw [ahead, join_cons_cons, behind]
  simp only [List.append_assoc]

theorem exists_isInfix_recompose {newline : Text} {buckets : Buckets}
    (mixed : ¬ KeptApart newline buckets.toList) :
    ∃ a b : Member, a.RunsInto newline b ∧
      a.render newline ++ (newline ++ newline) ++ b.render newline <:+:
        buckets.recompose newline := by
  rw [KeptApart, List.isChain_iff_forall_rel_of_append_cons_cons] at mixed
  push Not at mixed
  obtain ⟨a, b, front, back, split, runs⟩ := mixed
  refine ⟨a, b, runs, ?_⟩
  rw [Buckets.recompose, split, List.map_append, List.map_cons, List.map_cons]
  exact Text.pair_isInfix_join _ _ _ _ _

/-- In the new member list no field runs into the member behind it exactly if a third member comes
between any two that would. Otherwise some open field stands in the text with nothing but an empty
line before a member that continues it. -/
theorem recompose_keptApart_iff (newline : Text) (members : List Member) :
    (KeptApart newline (Buckets.ofMembers members).sorted.toList ↔
        ∀ a ∈ members.zipIdx, ∀ b ∈ members.zipIdx, a.1.RunsInto newline b.1 → ComesBefore a b →
          ∃ c ∈ members.zipIdx, ComesBefore a c ∧ ComesBefore c b) ∧
      (¬ KeptApart newline (Buckets.ofMembers members).sorted.toList →
        ∃ a b : Member, a.RunsInto newline b ∧
          a.render newline ++ (newline ++ newline) ++ b.render newline <:+:
            (Buckets.ofMembers members).sorted.recompose newline) :=
  ⟨keptApart_canonicalOrder_iff newline members, exists_isInfix_recompose⟩

namespace Computed

def method : Member := ⟨.method, "[k]", false, false, "  [k]() \x7b\x7d".toList, [], false⟩

def field : Member := ⟨.field, "a", false, false, "  a = 1".toList, [], false⟩

theorem canonicalOrder_eq : canonicalOrder [method, field] = [field, method] :=
  canonicalOrder_eq_of_perm (by decide) (by decide)

end Computed

/-- A method with a computed name moves behind a field without a semicolon: `1` is then read as the
object of which `[k]()` calls a method. -/
theorem keptApart_not_kept :
    KeptApart ['\n'] [Computed.method, Computed.field] ∧
      ¬ KeptApart ['\n'] (Buckets.ofMembers [Computed.method, Computed.field]).sorted.toList ∧
      (Buckets.ofMembers [Computed.method, Computed.field]).sorted.recompose ['\n'] =
        "  a = 1\n\n  [k]() \x7b\x7d".toList := by
  have order : (Buckets.ofMembers [Computed.method, Computed.field]).sorted.toList =
      [Computed.field, Computed.method] := Computed.canonicalOrder_eq
  rw [Buckets.recompose, order]
  exact ⟨by decide, by decide, by decide⟩

end MemberOrder
