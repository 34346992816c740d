import Mathlib.Data.List.Nodup
import MemberOrder.Bucket
import MemberOrder.Proofs.Collation.Order

/-! The canonical order as a relation between members.

Sorting by buckets rearranges the members, puts them into canonical order, and leaves alone what
already stands in it. Members of one signature keep their places unless their buckets tell
otherwise.
-/

set_option autoImplicit false

namespace MemberOrder

def Member.Precedes (a b : Member) : Prop :=
  a.bucket.rank ≤ b.bucket.rank ∧
    (a.bucket = b.bucket → a.bucket.sortedByName = true →
      Collation.compareNames a.name b.name ≠ .gt)

instance (a b : Member) : Decidable (a.Precedes b) := inferInstanceAs (Decidable (_ ∧ _))

def InCanonicalOrder (members : List Member) : Prop := members.Pairwise Member.Precedes

instance (members : List Member) : Decidable (InCanonicalOrder members) :=
  inferInstanceAs (Decidable (members.Pairwise _))

theorem Bucket.rank_injective {a b : Bucket} (same : a.rank = b.rank) : a = b := by
  cases a <;> cases b <;> first | rfl | cases same

/-- Members that precede each other share the bucket and, unless they are constructors, the name. -/
theorem Member.Precedes.antisymm {a b : Member} (first : a.Precedes b) (second : b.Precedes a) :
    a.bucket = b.bucket ∧ (a.bucket.sortedByName = true → a.name = b.name) := by
  have bucket := Bucket.rank_injective (Nat.le_antisymm first.1 second.1)
  refine ⟨bucket, fun byName => Collation.nameLe_antisymm ?_ ?_⟩
  · exact (Collation.nameLe_iff _ _).mpr (first.2 bucket byName)
  · exact (Collation.nameLe_iff _ _).mpr (second.2 bucket.symm (bucket ▸ byName))

theorem Bucket.all_pairwise : Bucket.all.Pairwise (·.rank < ·.rank) := by decide

/-- A list is known by the keys of its elements and by the elements under each key. -/
theorem eq_of_filter_eq {α κ : Type} [DecidableEq κ] (key : α → κ) {xs ys : List α}
    (keys : xs.map key = ys.map key)
    (under : ∀ k, xs.filter (key · = k) = ys.filter (key · = k)) : xs = ys := by
  induction xs generalizing ys with
  | nil => exact (List.map_eq_nil_iff.mp keys.symm).symm
  | cons x xs ih =>
    cases ys with
    | nil => cases keys
    | cons y ys =>
      obtain ⟨same, later⟩ := List.cons.inj keys
      -- The elements under the first key begin with the first elements.
      have heads := under (key x)
      rw [List.filter_cons_of_pos (by simp), List.filter_cons_of_pos (by simp [same])] at heads
      obtain ⟨rfl, -⟩ := List.cons.inj heads
      have rest : xs = ys := by
        apply ih later
        intro k
        have tails := under k
        by_cases here : key x = k
        · rw [List.filter_cons_of_pos (by simpa using here),
            List.filter_cons_of_pos (by simpa using here)] at tails
          exact (List.cons.inj tails).2
        · rwa [List.filter_cons_of_neg (by simpa using here),
            List.filter_cons_of_neg (by simpa using here)] at tails
      rw [rest]

/-- Sorting keeps the places of chosen elements that are already sorted. -/
theorem filter_mergeSort {α : Type} {le : α → α → Bool}
    (trans : ∀ a b c, le a b = true → le b c = true → le a c = true)
    (total : ∀ a b, (le a b || le b a) = true) {xs : List α} {chosen : α → Bool}
    (ordered : (xs.filter chosen).Pairwise (le · · = true)) :
    (xs.mergeSort le).filter chosen = xs.filter chosen := by
  -- Stability: a sorted part of the list stays a part of it, and no longer part is chosen.
  have kept : (xs.filter chosen).Sublist (xs.mergeSort le) :=
    List.sublist_mergeSort trans total ordered List.filter_sublist
  have within : (xs.filter chosen).Sublist ((xs.mergeSort le).filter chosen) := by
    simpa using kept.filter chosen
  have size := ((List.mergeSort_perm xs le).filter chosen).length_eq
  exact (within.eq_of_length size.symm).symm

namespace Buckets

/-- Every list holds only members of its bucket. -/
def Sound (buckets : Buckets) : Prop := ∀ b, ∀ m ∈ buckets b, m.bucket = b

theorem sound_ofMembers (members : List Member) : (ofMembers members).Sound := by
  intro b m member
  simpa [ofMembers] using (List.mem_filter.mp member).2

theorem Sound.sorted {buckets : Buckets} (sound : buckets.Sound) : buckets.sorted.Sound := by
  intro b m member
  unfold Buckets.sorted at member
  split at member
  · exact sound b m ((List.mergeSort_perm _ _).mem_iff.mp member)
  · exact sound b m member

theorem filter_flatMap {lists : Bucket → List Member} (sound : ∀ b, ∀ m ∈ lists b, m.bucket = b)
    {bs : List Bucket} (distinct : bs.Nodup) (k : Bucket) :
    (bs.flatMap lists).filter (·.bucket = k) = if k ∈ bs then lists k else [] := by
  induction bs with
  | nil => rfl
  | cons b bs ih =>
    obtain ⟨fresh, distinct⟩ := List.nodup_cons.mp distinct
    rw [List.flatMap_cons, List.filter_append, ih distinct]
    by_cases same : b = k
    · subst same
      have whole : (lists b).filter (·.bucket = b) = lists b :=
        List.filter_eq_self.mpr fun m member => by simpa using sound b m member
      simp [whole, fresh]
    · have none : (lists b).filter (·.bucket = k) = [] :=
        List.filter_eq_nil_iff.mpr fun m member => by simpa [sound b m member] using same
      have differs : ¬ k = b := fun eq => same eq.symm
      simp [none, differs]

/-- The members of one bucket are found in it. -/
theorem Sound.filter_toList {buckets : Buckets} (sound : buckets.Sound) (k : Bucket) :
    buckets.toList.filter (·.bucket = k) = buckets k :=
  (filter_flatMap sound (by decide) k).trans (if_pos (Bucket.mem_all k))

/-- Two sound groupings with rearranged buckets list rearranged members. -/
theorem Sound.perm {buckets : Buckets} (sound : buckets.Sound) {members : List Member}
    (each : ∀ k, (buckets k).Perm (members.filter (·.bucket = k))) :
    buckets.toList.Perm members := by
  rw [List.perm_iff_count]
  intro m
  calc buckets.toList.count m
      = (buckets.toList.filter (·.bucket = m.bucket)).count m :=
        (List.count_filter (by simp)).symm
    _ = (buckets m.bucket).count m := by rw [sound.filter_toList]
    _ = (members.filter (·.bucket = m.bucket)).count m := (each m.bucket).count_eq m
    _ = members.count m := List.count_filter (by simp)

theorem Sound.pairwise_rank {buckets : Buckets} (sound : buckets.Sound) :
    buckets.toList.Pairwise (·.bucket.rank ≤ ·.bucket.rank) := by
  refine List.pairwise_flatMap.mpr ⟨fun b _ => ?_, Bucket.all_pairwise.imp fun {a b} less => ?_⟩
  · refine List.pairwise_of_forall_mem_list fun m first m' second => ?_
    exact Nat.le_of_eq (by rw [sound b m first, sound b m' second])
  · intro m first m' second
    rw [sound a m first, sound b m' second]
    exact Nat.le_of_lt less

/-- Members whose buckets ascend are their own buckets laid end to end. -/
theorem toList_ofMembers {members : List Member}
    (ascending : members.Pairwise (·.bucket.rank ≤ ·.bucket.rank)) :
    (ofMembers members).toList = members := by
  have sound := sound_ofMembers members
  have under (k : Bucket) :
      (ofMembers members).toList.filter (·.bucket = k) = members.filter (·.bucket = k) :=
    sound.filter_toList k
  have perm := sound.perm fun k => List.Perm.refl _
  -- Both lists have ascending buckets, and the same ones, so bucket by bucket they agree.
  refine eq_of_filter_eq Member.bucket ?_ under
  exact (perm.map Member.bucket).eq_of_pairwise
    (fun a b _ _ le ge => Bucket.rank_injective (Nat.le_antisymm le ge))
    (List.pairwise_map.mpr sound.pairwise_rank) (List.pairwise_map.mpr ascending)

theorem memberLe_trans (a b c : Member) (first : memberLe a b = true)
    (second : memberLe b c = true) : memberLe a c = true :=
  Collation.nameLe_trans first second

theorem memberLe_total (a b : Member) : (memberLe a b || memberLe b a) = true :=
  Collation.nameLe_total a.name b.name

end Buckets

/-! ## The canonical order -/

theorem canonicalOrder_perm (members : List Member) : (canonicalOrder members).Perm members := by
  refine (Buckets.sound_ofMembers members).sorted.perm fun k => ?_
  unfold Buckets.sorted
  split
  · exact List.mergeSort_perm _ _
  · exact List.Perm.refl _

theorem canonicalOrder_ne_nil {members : List Member} (nonempty : members ≠ []) :
    canonicalOrder members ≠ [] := by
  intro none
  have perm := canonicalOrder_perm members
  rw [none] at perm
  exact nonempty perm.nil_eq.symm

theorem canonicalOrder_inCanonicalOrder (members : List Member) :
    InCanonicalOrder (canonicalOrder members) := by
  have sound := (Buckets.sound_ofMembers members).sorted
  refine List.pairwise_flatMap.mpr ⟨fun b _ => ?_, Bucket.all_pairwise.imp fun {a b} less => ?_⟩
  · have within : ((Buckets.ofMembers members).sorted b).Pairwise
        fun m m' => b.sortedByName = true → Collation.compareNames m.name m'.name ≠ .gt := by
      unfold Buckets.sorted
      split
      · have sorted := List.pairwise_mergeSort Buckets.memberLe_trans Buckets.memberLe_total
          (Buckets.ofMembers members b)
        exact sorted.imp fun le _ => (Collation.nameLe_iff _ _).mp le
      case isFalse unsorted =>
        exact List.pairwise_of_forall fun _ _ byName => absurd byName unsorted
    refine List.Pairwise.imp_of_mem (fun {m m'} first second byName => ?_) within
    rw [Member.Precedes, sound b m first, sound b m' second]
    exact ⟨Nat.le_refl _, fun _ => byName⟩
  · intro m first m' second
    rw [Member.Precedes, sound a m first, sound b m' second]
    refine ⟨Nat.le_of_lt less, fun same => ?_⟩
    rw [same] at less
    exact absurd less (Nat.lt_irrefl _)

/-- Members in canonical order are left alone. -/
theorem canonicalOrder_eq_self {members : List Member} (ordered : InCanonicalOrder members) :
    canonicalOrder members = members := by
  have same : (Buckets.ofMembers members).sorted = Buckets.ofMembers members := by
    funext b
    unfold Buckets.sorted
    split
    case isTrue byName =>
      refine List.mergeSort_of_pairwise ?_
      refine List.Pairwise.imp_of_mem (fun {m m'} first second precedes => ?_)
        (List.Pairwise.filter _ ordered)
      have bucket := Buckets.sound_ofMembers members b m first
      have bucket' := Buckets.sound_ofMembers members b m' second
      exact (Collation.nameLe_iff _ _).mpr
        (precedes.2 (bucket.trans bucket'.symm) (bucket.symm ▸ byName))
    case isFalse => rfl
  rw [canonicalOrder, same]
  exact Buckets.toList_ofMembers (ordered.imp fun precedes => precedes.1)

/-- Members of different buckets have no choice of order. -/
theorem canonicalOrder_eq_of_perm {members ordered : List Member}
    (perm : ordered.Perm members)
    (ascending : ordered.Pairwise (·.bucket.rank < ·.bucket.rank)) :
    canonicalOrder members = ordered := by
  have perm' := (canonicalOrder_perm members).trans perm.symm
  have distinct : (ordered.map (·.bucket.rank)).Nodup :=
    List.pairwise_map.mpr (ascending.imp fun less => Nat.ne_of_lt less)
  refine perm'.eq_of_pairwise ?_
    ((canonicalOrder_inCanonicalOrder members).imp fun precedes => precedes.1)
    (ascending.imp fun less => Nat.le_of_lt less)
  intro a b first second le ge
  exact List.inj_on_of_nodup_map distinct (perm'.mem_iff.mp first) second (Nat.le_antisymm le ge)

/-- Members of one kind and name stand in the order of their buckets. -/
def SignaturesInOrder (members : List Member) : Prop :=
  members.Pairwise fun a b => a.signature = b.signature → a.bucket.rank ≤ b.bucket.rank

instance (members : List Member) : Decidable (SignaturesInOrder members) :=
  inferInstanceAs (Decidable (members.Pairwise _))

/-- Members of one signature keep their places where their buckets do not tell them apart. -/
theorem filter_signature_canonicalOrder {members : List Member}
    (inOrder : SignaturesInOrder members) (s : Signature) :
    (canonicalOrder members).filter (·.signature = s) = members.filter (·.signature = s) := by
  have ascending : (members.filter (·.signature = s)).Pairwise
      (·.bucket.rank ≤ ·.bucket.rank) := by
    refine List.Pairwise.imp_of_mem (fun {m m'} first second le => le ?_)
      (List.Pairwise.filter _ inOrder)
    have here : m.signature = s := by simpa using (List.mem_filter.mp first).2
    have there : m'.signature = s := by simpa using (List.mem_filter.mp second).2
    rw [here, there]
  have bucketwise (b : Bucket) : ((Buckets.ofMembers members).sorted b).filter (·.signature = s) =
      (members.filter (·.signature = s)).filter (·.bucket = b) := by
    have unsorted : (Buckets.ofMembers members b).filter (·.signature = s) =
        (members.filter (·.signature = s)).filter (·.bucket = b) := by
      rw [Buckets.ofMembers, List.filter_comm]
    unfold Buckets.sorted
    split
    case isTrue =>
      rw [← unsorted]
      refine filter_mergeSort Buckets.memberLe_trans Buckets.memberLe_total
        (List.pairwise_of_forall_mem_list fun m first m' second => ?_)
      have here : m.signature = s := by simpa using (List.mem_filter.mp first).2
      have there : m'.signature = s := by simpa using (List.mem_filter.mp second).2
      have name : m.name = m'.name := congrArg Signature.name (here.trans there.symm)
      rw [Buckets.memberLe, name]
      exact Collation.nameLe_refl _
    case isFalse => exact unsorted
  calc (canonicalOrder members).filter (·.signature = s)
      = Bucket.all.flatMap fun b =>
          ((Buckets.ofMembers members).sorted b).filter (·.signature = s) := List.filter_flatMap
    _ = Bucket.all.flatMap fun b => (members.filter (·.signature = s)).filter (·.bucket = b) := by
        simp only [bucketwise]
    _ = members.filter (·.signature = s) := Buckets.toList_ofMembers ascending

end MemberOrder
