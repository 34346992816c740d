import MemberOrder.Collation

/-! The order of names is total and transitive, level by level, and ties no two names.
-/

set_option autoImplicit false

namespace MemberOrder.Collation

open Std (OrientedCmp TransCmp ReflCmp LawfulEqCmp)

instance : TransCmp PrimaryKey.compare :=
  inferInstanceAs (TransCmp
    (compareLex (compareOn fun key : PrimaryKey => key.charClass.rank)
      (compareOn PrimaryKey.weight)))

section Level

variable {κ : Type} {compareKeys : κ → κ → Ordering} {key : Char → κ}

/-- What the lists have in common at their front decides nothing. -/
theorem compareLex_append_left [ReflCmp compareKeys] (front s t : List κ) :
    List.compareLex compareKeys (front ++ s) (front ++ t) = List.compareLex compareKeys s t := by
  induction front with
  | nil => rfl
  | cons x front ih =>
    have same : compareKeys x x = .eq := ReflCmp.compare_self
    rw [List.cons_append, List.cons_append, List.compareLex_cons_cons, same, ih]
    rfl

instance [OrientedCmp compareKeys] : OrientedCmp (compareBy compareKeys key) where
  eq_swap := by
    intro a b
    exact @OrientedCmp.eq_swap _ (List.compareLex compareKeys) _ _ _

instance [TransCmp compareKeys] : TransCmp (compareBy compareKeys key) where
  isLE_trans := by
    intro a b c
    exact @TransCmp.isLE_trans _ (List.compareLex compareKeys) _ _ _ _

/-- Names are tied on a level if they have the same keys on it. -/
theorem compareBy_eq_iff [LawfulEqCmp compareKeys] {a b : String} :
    compareBy compareKeys key a b = .eq ↔ a.toList.map key = b.toList.map key :=
  @LawfulEqCmp.compare_eq_iff_eq _ (List.compareLex compareKeys) _ _ _

end Level

instance : TransCmp compareBytes where
  eq_swap := by
    intro a b
    exact @OrientedCmp.eq_swap _ (List.compareLex Ord.compare) _ _ _
  isLE_trans := by
    intro a b c
    exact @TransCmp.isLE_trans _ (List.compareLex Ord.compare) _ _ _ _

theorem eq_of_compareBytes_eq {a b : String} (tied : compareBytes a b = .eq) : a = b := by
  have bytes : a.toUTF8.data.toList = b.toUTF8.data.toList :=
    @LawfulEqCmp.eq_of_compare _ (List.compareLex Ord.compare) _ _ _ tied
  exact String.toByteArray_inj.mp (ByteArray.ext (Array.toList_inj.mp bytes))

instance : TransCmp compareNames :=
  inferInstanceAs (TransCmp
    (compareLex (compareBy PrimaryKey.compare primaryKey)
      (compareLex (compareBy Ord.compare accentWeight)
        (compareLex (compareBy Ord.compare caseRank) compareBytes))))

theorem nameLe_refl (a : String) : nameLe a a = true :=
  ReflCmp.isLE_rfl

theorem nameLe_trans {a b c : String} (first : nameLe a b = true) (second : nameLe b c = true) :
    nameLe a c = true :=
  TransCmp.isLE_trans first second

theorem nameLe_total (a b : String) : (nameLe a b || nameLe b a) = true := by
  have swapped : compareNames b a = (compareNames a b).swap := OrientedCmp.eq_swap
  rw [nameLe, nameLe, swapped]
  cases compareNames a b <;> rfl

theorem nameLe_iff (a b : String) : nameLe a b = true ↔ compareNames a b ≠ .gt := by
  unfold nameLe
  cases compareNames a b <;> simp

theorem eq_of_compareNames_eq {a b : String} (tied : compareNames a b = .eq) : a = b := by
  simp only [compareNames, Ordering.then_eq_eq] at tied
  -- Only the last level sees the names themselves.
  exact eq_of_compareBytes_eq tied.2.2.2

theorem nameLe_antisymm {a b : String} (first : nameLe a b = true) (second : nameLe b a = true) :
    a = b :=
  eq_of_compareNames_eq (OrientedCmp.isLE_antisymm first second)

/-- Exchanging two names turns their comparison around, only a name and itself are tied, and what
comes no later than a name comes no later than anything behind it. -/
theorem compareNames_total_order (a b c : String) :
    compareNames a b = (compareNames b a).swap ∧
      (compareNames a b = .eq ↔ a = b) ∧
      (compareNames a b ≠ .gt → compareNames b c ≠ .gt → compareNames a c ≠ .gt) := by
  refine ⟨OrientedCmp.eq_swap, ⟨eq_of_compareNames_eq, ?_⟩, ?_⟩
  · rintro rfl
    exact ReflCmp.compare_self
  · simp only [← nameLe_iff]
    exact nameLe_trans

end MemberOrder.Collation
