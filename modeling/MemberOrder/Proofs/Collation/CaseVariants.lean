import MemberOrder.Proofs.Collation.Bytes
import MemberOrder.Proofs.Text.CaseFolding

/-! Names that differ in case alone.

Case is meant to decide only between names that letters and accents leave tied. Two names that fold
to the same characters are left tied exactly if the Angstrom sign stands at the same places in both.
The sign folds to `å`, but it is looked up in the accent table before it is folded, and there it has
no base letter: it counts as a letter of its own, behind all that have one.
-/

set_option autoImplicit false

namespace MemberOrder.Collation

open Std (LawfulEqCmp TransCmp OrientedCmp)
open Text (foldCase baseLetter? isAlphabetic isUppercase angstromSign)

/-- The names have the same length and fold to the same characters. -/
def CaseVariants (a b : String) : Prop := a.toList.map foldCase = b.toList.map foldCase

instance (a b : String) : Decidable (CaseVariants a b) := inferInstanceAs (Decidable (_ = _))

def SignsAligned (a b : String) : Prop :=
  a.toList.map (· == angstromSign) = b.toList.map (· == angstromSign)

instance (a b : String) : Decidable (SignsAligned a b) := inferInstanceAs (Decidable (_ = _))

/-! ## Keys of characters -/

theorem primaryKey_of_isAlphabetic {c : Char} (letter : isAlphabetic c = true) :
    primaryKey c = ⟨.letter, ((baseLetter? c).getD (foldCase c)).toNat⟩ := by
  have charClass : classOf c = .letter := by
    simp [classOf, Text.isBlank_of_isAlphabetic letter, letter]
  rw [primaryKey, charClass]

/-- The Angstrom sign apart, the first two levels look at what a character folds to. -/
theorem keys_eq_of_foldCase_eq {c d : Char} (same : foldCase c = foldCase d)
    (ordinary : c ≠ angstromSign) (ordinary' : d ≠ angstromSign) :
    primaryKey c = primaryKey d ∧ accentWeight c = accentWeight d := by
  have base : baseLetter? c = baseLetter? d := by
    rw [← Text.baseLetter?_foldCase ordinary, same, Text.baseLetter?_foldCase ordinary']
  constructor
  · by_cases letter : isAlphabetic c = true
    · have letter' : isAlphabetic d = true := by
        rwa [← Text.isAlphabetic_foldCase, ← same, Text.isAlphabetic_foldCase]
      rw [primaryKey_of_isAlphabetic letter, primaryKey_of_isAlphabetic letter', base, same]
    · -- What is no letter folds to itself, so the characters are the same.
      have fixed (e : Char) (other : ¬ isAlphabetic e = true) : foldCase e = e := by
        by_contra moved
        exact other (Text.isAlphabetic_of_foldCase_ne moved).1
      have other : ¬ isAlphabetic d = true := by
        rwa [← Text.isAlphabetic_foldCase, ← same, Text.isAlphabetic_foldCase]
      rw [← fixed c letter, same, fixed d other]
  · rw [accentWeight, accentWeight, base, same]

theorem keys_ne_angstromSign {c : Char} (same : foldCase c = foldCase angstromSign)
    (ordinary : c ≠ angstromSign) :
    primaryKey c ≠ primaryKey angstromSign ∧ accentWeight c ≠ accentWeight angstromSign := by
  have folded : foldCase 'å' = 'å' := by decide +kernel
  rw [Text.foldCase_angstromSign, ← folded] at same
  obtain ⟨primary, accent⟩ := keys_eq_of_foldCase_eq same ordinary (by decide)
  rw [primary, accent]
  exact ⟨by decide +kernel, by decide +kernel⟩

theorem keys_eq_iff {c d : Char} (same : foldCase c = foldCase d) :
    (primaryKey c = primaryKey d ↔ (c == angstromSign) = (d == angstromSign)) ∧
      (accentWeight c = accentWeight d ↔ (c == angstromSign) = (d == angstromSign)) := by
  by_cases sign : c = angstromSign
  · subst sign
    by_cases sign' : d = angstromSign
    · simp [sign']
    · obtain ⟨primary, accent⟩ := keys_ne_angstromSign same.symm sign'
      simp [primary.symm, accent.symm, sign']
  · by_cases sign' : d = angstromSign
    · subst sign'
      obtain ⟨primary, accent⟩ := keys_ne_angstromSign same sign
      simp [primary, accent, sign]
    · obtain ⟨primary, accent⟩ := keys_eq_of_foldCase_eq same sign sign'
      simp [primary, accent, sign, sign']

/-! ## Levels -/

instance : LawfulEqCmp PrimaryKey.compare where
  compare_self := by
    intro key
    simp [PrimaryKey.compare]
  eq_of_compare := by
    intro key key' tied
    obtain ⟨rank, weight⟩ := Ordering.then_eq_eq.mp tied
    obtain ⟨charClass, w⟩ := key
    obtain ⟨charClass', w'⟩ := key'
    have sameClass : charClass = charClass' := by
      cases charClass <;> cases charClass' <;> first | rfl | cases rank
    have sameWeight : w = w' := Nat.compare_eq_eq.mp weight
    rw [sameClass, sameWeight]

/-- Keys that tell apart what marks tell apart, character by character, do so in whole lists. -/
theorem map_eq_map_iff {α β γ δ : Type} {fold : α → β} {key : α → γ} {mark : α → δ}
    (each : ∀ {c d}, fold c = fold d → (key c = key d ↔ mark c = mark d)) {xs ys : List α}
    (same : xs.map fold = ys.map fold) :
    xs.map key = ys.map key ↔ xs.map mark = ys.map mark := by
  induction xs generalizing ys with
  | nil =>
    rw [List.map_eq_nil_iff.mp same.symm]
    simp
  | cons c xs ih =>
    cases ys with
    | nil => cases same
    | cons d ys =>
      obtain ⟨first, rest⟩ := List.cons.inj same
      simp only [List.map_cons, List.cons.injEq, each first, ih rest]

theorem CaseVariants.primary_eq_iff {a b : String} (variants : CaseVariants a b) :
    compareBy PrimaryKey.compare primaryKey a b = .eq ↔ SignsAligned a b :=
  compareBy_eq_iff.trans (map_eq_map_iff (fun same => (keys_eq_iff same).1) variants)

theorem CaseVariants.accent_eq_iff {a b : String} (variants : CaseVariants a b) :
    compareBy Ord.compare accentWeight a b = .eq ↔ SignsAligned a b :=
  compareBy_eq_iff.trans (map_eq_map_iff (fun same => (keys_eq_iff same).2) variants)

/-- The first difference decides a level. -/
theorem compareLex_of_first_difference {κ : Type} {compareKeys : κ → κ → Ordering}
    [LawfulEqCmp compareKeys] {front s t : List κ} {x y : κ} (less : compareKeys x y = .lt) :
    List.compareLex compareKeys (front ++ x :: s) (front ++ y :: t) = .lt := by
  rw [compareLex_append_left, List.compareLex_cons_cons, less]
  rfl

theorem primary_isLE_of_compareNames {a b : String} (le : compareNames a b ≠ .gt) :
    (compareBy PrimaryKey.compare primaryKey a b).isLE = true := by
  rw [compareNames, Ne, Ordering.then_eq_gt, not_or] at le
  exact Ordering.ne_gt_iff_isLE.mp le.1

/-- Neither letters nor accents separate the names, so case decides between them, lower case first,
and then code points. No name with other letters stands between them. -/
structure DecidedByCase (a b : String) : Prop where
  primary : compareBy PrimaryKey.compare primaryKey a b = .eq
  accent : compareBy Ord.compare accentWeight a b = .eq
  decided : compareNames a b =
    (compareBy Ord.compare caseRank a b).then (compareBy Ord.compare Char.toNat a b)
  lowerFirst : ∀ {front front' rest rest' : List Char} {c d : Char},
    a.toList = front ++ c :: rest → b.toList = front' ++ d :: rest' →
    front.map caseRank = front'.map caseRank → isUppercase c = false → isUppercase d = true →
    compareNames a b = .lt
  together : ∀ x, compareNames a x ≠ .gt ∧ compareNames x b ≠ .gt ∨
      compareNames b x ≠ .gt ∧ compareNames x a ≠ .gt →
    x.toList.map primaryKey = a.toList.map primaryKey

theorem decidedByCase_of_tied {a b : String}
    (primary : compareBy PrimaryKey.compare primaryKey a b = .eq)
    (accent : compareBy Ord.compare accentWeight a b = .eq) : DecidedByCase a b := by
  have decided : compareNames a b =
      (compareBy Ord.compare caseRank a b).then (compareBy Ord.compare Char.toNat a b) := by
    rw [compareNames, primary, accent, compareBytes_eq]
    rfl
  refine ⟨primary, accent, decided, ?_, ?_⟩
  · intro front front' rest rest' c d split split' same lower upper
    have less : compareBy Ord.compare caseRank a b = .lt := by
      rw [compareBy, split, split', List.map_append, List.map_append, same]
      apply compareLex_of_first_difference
      rw [caseRank, caseRank, if_neg (by simp [lower]), if_pos upper]
      rfl
    rw [decided, less]
    rfl
  · intro x between
    -- On the first level `x` stands both before and behind the one place that `a` and `b` share.
    have back : compareBy PrimaryKey.compare primaryKey b a = .eq :=
      OrientedCmp.eq_comm.mp primary
    have tied : compareBy PrimaryKey.compare primaryKey x a = .eq := by
      rcases between with ⟨first, second⟩ | ⟨first, second⟩
      · have behind := primary_isLE_of_compareNames first
        have before := primary_isLE_of_compareNames second
        rw [TransCmp.congr_right back] at before
        exact OrientedCmp.isLE_antisymm before behind
      · have behind := primary_isLE_of_compareNames first
        have before := primary_isLE_of_compareNames second
        rw [TransCmp.congr_left back] at behind
        exact OrientedCmp.isLE_antisymm before behind
    exact compareBy_eq_iff.mp tied

/-- Names that fold to the same characters are decided by case exactly if the Angstrom sign stands at
the same places in both. If it does not, the first level decides. -/
theorem caseVariants_decidedByCase_iff {a b : String} (variants : CaseVariants a b) :
    (DecidedByCase a b ↔ SignsAligned a b) ∧
      (¬ SignsAligned a b →
        compareNames a b = compareBy PrimaryKey.compare primaryKey a b ∧
          compareNames a b ≠ .eq) := by
  constructor
  · constructor
    · intro decided
      exact variants.primary_eq_iff.mp decided.primary
    · intro aligned
      exact decidedByCase_of_tied (variants.primary_eq_iff.mpr aligned)
        (variants.accent_eq_iff.mpr aligned)
  · intro apart
    have separated := mt variants.primary_eq_iff.mp apart
    rw [compareNames]
    generalize compareBy PrimaryKey.compare primaryKey a b = level at separated
    cases level with
    | eq => exact absurd rfl separated
    | lt => exact ⟨rfl, by simp⟩
    | gt => exact ⟨rfl, by simp⟩

theorem caseVariants_decidedByCase_iff_accented :
    CaseVariants "École" "école" ∧ SignsAligned "École" "école" ∧
      DecidedByCase "École" "école" ∧ compareNames "école" "École" = .lt :=
  have variants : CaseVariants "École" "école" := by decide +kernel
  have aligned : SignsAligned "École" "école" := by decide
  ⟨variants, aligned, (caseVariants_decidedByCase_iff variants).1.mpr aligned, by decide +kernel⟩

/-- The names differ in case alone, and the first difference in case puts the first of them first,
but it comes out last. The letter `z` stands between `å` and the Angstrom sign. -/
theorem compareNames_angstromSign :
    CaseVariants "b\u212B" "Bå" ∧
      compareBy Ord.compare caseRank "b\u212B" "Bå" = .lt ∧
      compareNames "b\u212B" "Bå" = .gt ∧ ¬ DecidedByCase "b\u212B" "Bå" ∧
      CaseVariants "å" "\u212B" ∧ compareNames "å" "z" = .lt ∧ compareNames "z" "\u212B" = .lt ∧
      "z".toList.map primaryKey ≠ "å".toList.map primaryKey := by
  have separated : compareBy PrimaryKey.compare primaryKey "b\u212B" "Bå" ≠ .eq := by decide +kernel
  exact ⟨by decide +kernel, by decide +kernel, by decide +kernel,
    fun decided => separated decided.primary, by decide +kernel, by decide +kernel,
    by decide +kernel, by decide +kernel⟩

end MemberOrder.Collation
