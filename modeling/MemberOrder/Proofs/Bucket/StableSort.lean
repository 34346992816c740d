import MemberOrder.Proofs.Bucket.CanonicalOrder

/-! Sorting by buckets is one stable sort.

A total preorder leaves no choice to a stable sort: of the sorted rearrangements of a list only one
keeps the places of tied elements. Sorting every bucket by name and laying the buckets end to end
comes to that one for the order that compares buckets first and then, except for constructors,
names.
-/

set_option autoImplicit false

namespace MemberOrder

section Stable

variable {α : Type} {le : α → α → Bool}

def tied (le : α → α → Bool) (x y : α) : Bool := le x y && le y x

theorem tied_iff {x y : α} : tied le x y = true ↔ le x y = true ∧ le y x = true := by
  simp [tied]

/-- Sorted lists of the same elements are equal if they agree on every class of tied elements. -/
theorem eq_of_filter_tied_eq (total : ∀ a b, (le a b || le b a) = true) {xs ys : List α}
    (perm : xs.Perm ys) (sorted : xs.Pairwise (le · · = true))
    (sorted' : ys.Pairwise (le · · = true))
    (under : ∀ x, xs.filter (tied le x) = ys.filter (tied le x)) : xs = ys := by
  have refl (a : α) : le a a = true := by simpa using total a a
  induction xs generalizing ys with
  | nil => exact perm.nil_eq
  | cons x xs ih =>
    cases ys with
    | nil => exact absurd perm.symm.nil_eq (by simp)
    | cons y ys =>
      obtain ⟨before, tail⟩ := List.pairwise_cons.mp sorted
      obtain ⟨before', tail'⟩ := List.pairwise_cons.mp sorted'
      have here : le x y = true := by
        rcases List.mem_cons.mp (perm.mem_iff.mpr List.mem_cons_self) with same | later
        · rw [same]
          exact refl x
        · exact before y later
      have back : le y x = true := by
        rcases List.mem_cons.mp (perm.mem_iff.mp List.mem_cons_self) with same | later
        · rw [same]
          exact refl y
        · exact before' x later
      -- Both lists begin with the first element of the class of `x`.
      have heads := under x
      rw [List.filter_cons_of_pos (tied_iff.mpr ⟨refl x, refl x⟩),
        List.filter_cons_of_pos (tied_iff.mpr ⟨here, back⟩)] at heads
      obtain ⟨rfl, -⟩ := List.cons.inj heads
      have rest : xs = ys := by
        apply ih perm.cons_inv tail tail'
        intro z
        have tails := under z
        by_cases inside : tied le z x = true
        · rw [List.filter_cons_of_pos inside, List.filter_cons_of_pos inside] at tails
          exact (List.cons.inj tails).2
        · rwa [List.filter_cons_of_neg inside, List.filter_cons_of_neg inside] at tails
      rw [rest]

/-- A sorted rearrangement that keeps the places of tied elements is the stable sort. -/
theorem eq_mergeSort_of_filter_tied
    (trans : ∀ a b c, le a b = true → le b c = true → le a c = true)
    (total : ∀ a b, (le a b || le b a) = true) {xs ys : List α} (perm : ys.Perm xs)
    (sorted : ys.Pairwise (le · · = true))
    (stable : ∀ x, ys.filter (tied le x) = xs.filter (tied le x)) : ys = xs.mergeSort le := by
  apply eq_of_filter_tied_eq total (perm.trans (List.mergeSort_perm xs le).symm) sorted
    (List.pairwise_mergeSort trans total xs)
  intro x
  rw [stable, filter_mergeSort trans total]
  refine List.pairwise_of_forall_mem_list fun y first z second => ?_
  have behind := (tied_iff.mp (List.mem_filter.mp first).2).2
  have ahead := (tied_iff.mp (List.mem_filter.mp second).2).1
  exact trans y x z behind ahead

end Stable

namespace Member

/-- The canonical order as one comparison: buckets, then names. Constructors are all tied. -/
def compareCanonical (a b : Member) : Ordering :=
  (Ord.compare a.bucket.rank b.bucket.rank).then
    (if a.bucket.sortedByName then Collation.compareNames a.name b.name else .eq)

def canonicalLe (a b : Member) : Bool := (a.compareCanonical b).isLE

theorem canonicalLe_iff (a b : Member) : a.canonicalLe b = true ↔ a.Precedes b := by
  unfold canonicalLe compareCanonical Precedes
  rcases Nat.lt_trichotomy a.bucket.rank b.bucket.rank with less | same | greater
  · have differs : a.bucket ≠ b.bucket := fun same => by simp [same] at less
    simp [Nat.compare_eq_lt.mpr less, Nat.le_of_lt less, differs]
  · have bucket := Bucket.rank_injective same
    rw [Nat.compare_eq_eq.mpr same, ← bucket]
    by_cases byName : a.bucket.sortedByName = true
    · simp only [byName, if_true, Ordering.eq_then]
      simpa [Collation.nameLe] using Collation.nameLe_iff a.name b.name
    · simp [byName]
  · simp [Nat.compare_eq_gt.mpr greater, Nat.not_le_of_lt greater]

theorem Precedes.trans {a b c : Member} (first : a.Precedes b) (second : b.Precedes c) :
    a.Precedes c := by
  refine ⟨Nat.le_trans first.1 second.1, fun same byName => ?_⟩
  -- The bucket between two equal ones is the same.
  have low := first.1
  have high := second.1
  rw [← same] at high
  have between : a.bucket = b.bucket := Bucket.rank_injective (Nat.le_antisymm low high)
  rw [← Collation.nameLe_iff]
  apply Collation.nameLe_trans (b := b.name)
  · exact (Collation.nameLe_iff _ _).mpr (first.2 between byName)
  · exact (Collation.nameLe_iff _ _).mpr (second.2 (between.symm.trans same) (between ▸ byName))

theorem precedes_total (a b : Member) : a.Precedes b ∨ b.Precedes a := by
  rcases Nat.lt_trichotomy a.bucket.rank b.bucket.rank with less | same | greater
  · exact Or.inl ⟨Nat.le_of_lt less, fun same => by simp [same] at less⟩
  · have names := Collation.nameLe_total a.name b.name
    rw [Bool.or_eq_true, Collation.nameLe_iff, Collation.nameLe_iff] at names
    exact names.imp (fun le => ⟨Nat.le_of_eq same, fun _ _ => le⟩)
      fun le => ⟨Nat.le_of_eq same.symm, fun _ _ => le⟩
  · exact Or.inr ⟨Nat.le_of_lt greater, fun same => by simp [same] at greater⟩

theorem canonicalLe_trans (a b c : Member) (first : a.canonicalLe b = true)
    (second : b.canonicalLe c = true) : a.canonicalLe c = true := by
  rw [canonicalLe_iff] at first second ⊢
  exact first.trans second

theorem canonicalLe_total (a b : Member) : (a.canonicalLe b || b.canonicalLe a) = true := by
  rw [Bool.or_eq_true, canonicalLe_iff, canonicalLe_iff]
  exact precedes_total a b

theorem tied_canonicalLe_iff (a b : Member) :
    tied canonicalLe a b = true ↔
      a.bucket = b.bucket ∧ (a.bucket.sortedByName = true → a.name = b.name) := by
  rw [tied_iff, canonicalLe_iff, canonicalLe_iff]
  constructor
  · rintro ⟨first, second⟩
    exact first.antisymm second
  · rintro ⟨bucket, name⟩
    have level (m m' : Member) (same : m.bucket = m'.bucket)
        (name : m.bucket.sortedByName = true → m.name = m'.name) : m.Precedes m' := by
      refine ⟨Nat.le_of_eq (congrArg Bucket.rank same), fun _ byName => ?_⟩
      rw [name byName, ← Collation.nameLe_iff]
      exact Collation.nameLe_refl _
    exact ⟨level a b bucket name, level b a bucket.symm fun byName => (name (bucket ▸ byName)).symm⟩

end Member

/-- The members tied with one member keep their places: they share its bucket, where only names are
compared. -/
theorem filter_tied_canonicalOrder (members : List Member) (m : Member) :
    (canonicalOrder members).filter (tied Member.canonicalLe m) =
      members.filter (tied Member.canonicalLe m) := by
  have inBucket (xs : List Member) : xs.filter (tied Member.canonicalLe m) =
      (xs.filter (·.bucket = m.bucket)).filter (tied Member.canonicalLe m) := by
    rw [List.filter_filter]
    refine List.filter_congr fun x _ => ?_
    cases inside : tied Member.canonicalLe m x with
    | false => rfl
    | true => simp [((Member.tied_canonicalLe_iff m x).mp inside).1]
  rw [inBucket (canonicalOrder members), inBucket members, canonicalOrder,
    (Buckets.sound_ofMembers members).sorted.filter_toList]
  unfold Buckets.sorted
  split
  case isTrue byName =>
    apply filter_mergeSort Buckets.memberLe_trans Buckets.memberLe_total
    refine List.pairwise_of_forall_mem_list fun x first y second => ?_
    have name := ((Member.tied_canonicalLe_iff m x).mp (List.mem_filter.mp first).2).2 byName
    have name' := ((Member.tied_canonicalLe_iff m y).mp (List.mem_filter.mp second).2).2 byName
    rw [Buckets.memberLe, ← name, ← name']
    exact Collation.nameLe_refl _
  case isFalse => rfl

theorem canonicalOrder_eq_mergeSort (members : List Member) :
    canonicalOrder members = members.mergeSort Member.canonicalLe := by
  apply eq_mergeSort_of_filter_tied Member.canonicalLe_trans Member.canonicalLe_total
    (canonicalOrder_perm members)
  · exact (canonicalOrder_inCanonicalOrder members).imp fun {a b} precedes =>
      (Member.canonicalLe_iff a b).mpr precedes
  · exact filter_tied_canonicalOrder members

/-- Chosen members that are tied with one another keep their places. -/
theorem filter_canonicalOrder_of_tied {members : List Member} {chosen : Member → Bool}
    (level : ∀ a b, chosen a = true → chosen b = true →
      a.bucket = b.bucket ∧ (a.bucket.sortedByName = true → a.name = b.name)) :
    (canonicalOrder members).filter chosen = members.filter chosen := by
  rw [canonicalOrder_eq_mergeSort]
  apply filter_mergeSort Member.canonicalLe_trans Member.canonicalLe_total
  refine List.pairwise_of_forall_mem_list fun a first b second => ?_
  have same := level a b (List.mem_filter.mp first).2 (List.mem_filter.mp second).2
  exact (tied_iff.mp ((Member.tied_canonicalLe_iff a b).mpr same)).1

/-- Dividing members into buckets, sorting the buckets and laying them end to end is the stable sort
of all members in the canonical order. So no member is lost or changed, buckets and the names inside
them ascend, and members of one bucket and name, like all constructors, keep their places. -/
theorem bucketSort_eq_stableSort (members : List Member) :
    (Buckets.ofMembers members).sorted.toList = members.mergeSort Member.canonicalLe ∧
      (canonicalOrder members).Perm members ∧
      (canonicalOrder members).Pairwise (·.bucket.rank ≤ ·.bucket.rank) ∧
      (∀ b : Bucket, b.sortedByName = true →
        ((canonicalOrder members).filter (·.bucket = b)).Pairwise
          fun m m' => Collation.compareNames m.name m'.name ≠ .gt) ∧
      (∀ (b : Bucket) (name : String),
        (canonicalOrder members).filter (fun m => m.bucket = b ∧ m.name = name) =
          members.filter (fun m => m.bucket = b ∧ m.name = name)) ∧
      (canonicalOrder members).filter (·.bucket = .constructor) =
        members.filter (·.bucket = .constructor) := by
  have ordered := canonicalOrder_inCanonicalOrder members
  refine ⟨canonicalOrder_eq_mergeSort members, canonicalOrder_perm members,
    ordered.imp fun precedes => precedes.1, ?_, ?_, ?_⟩
  · intro b byName
    refine List.Pairwise.imp_of_mem (fun {m m'} first second precedes => ?_) (ordered.filter _)
    have here : m.bucket = b := by simpa using (List.mem_filter.mp first).2
    have there : m'.bucket = b := by simpa using (List.mem_filter.mp second).2
    exact precedes.2 (here.trans there.symm) (here ▸ byName)
  · intro b name
    apply filter_canonicalOrder_of_tied
    intro m m' first second
    simp only [decide_eq_true_eq] at first second
    exact ⟨first.1.trans second.1.symm, fun _ => first.2.trans second.2.symm⟩
  · apply filter_canonicalOrder_of_tied
    intro m m' first second
    simp only [decide_eq_true_eq] at first second
    refine ⟨first.trans second.symm, fun byName => ?_⟩
    rw [first] at byName
    cases byName

end MemberOrder
