import Mathlib.Data.List.Chain
import MemberOrder.Text.Accent
import MemberOrder.Text.Blank
import MemberOrder.Text.Case
import MemberOrder.Text.Letter

/-! Case folding and the other tables of characters.

A character that folds to another one is a letter, and so is what it folds to. The accent table
treats both alike, with one exception: the Angstrom sign is not in the table, but the letter `å` to
which it folds is.

What is evaluated over whole tables is written with tests on Booleans, which the kernel computes
far faster than decisions on propositions, and walks along the table of letters once for many
characters.
-/

set_option autoImplicit false

namespace MemberOrder.Text

/-! ## Ranges -/

namespace Ranges

theorem contains_of_mem {ranges : Ranges} (ascending : (ranges.map Prod.fst).IsChain (· ≤ ·))
    {range : Nat × Nat} (member : range ∈ ranges) {code : Nat} (low : range.1 ≤ code)
    (high : code ≤ range.2) : ranges.contains code = true := by
  have ordered := List.isChain_iff_pairwise.mp ascending
  clear ascending
  induction ranges with
  | nil => cases member
  | cons first rest ih =>
    rw [List.map_cons, List.pairwise_cons] at ordered
    -- The walk does not stop early, as no later range begins before this one.
    have starts : first.1 ≤ code := by
      rcases List.mem_cons.mp member with same | later
      · rwa [← same]
      · exact Nat.le_trans (ordered.1 range.1 (List.mem_map_of_mem later)) low
    simp only [contains, Nat.not_lt.mpr starts, if_false]
    split
    case isTrue => rfl
    case isFalse beyond =>
      rcases List.mem_cons.mp member with same | later
      · rw [← same] at beyond
        exact absurd high beyond
      · exact ih later ordered.2

theorem exists_mem_of_contains {code : Nat} {ranges : Ranges}
    (inside : ranges.contains code = true) :
    ∃ range ∈ ranges, range.1 ≤ code ∧ code ≤ range.2 := by
  induction ranges with
  | nil => cases inside
  | cons first rest ih =>
    simp only [contains] at inside
    split at inside
    case isTrue => cases inside
    case isFalse starts =>
      split at inside
      case isTrue ends => exact ⟨first, List.mem_cons_self, Nat.le_of_not_lt starts, ends⟩
      case isFalse =>
        obtain ⟨range, member, bounds⟩ := ih inside
        exact ⟨range, List.mem_cons_of_mem first member, bounds⟩

/-- The ranges from the one that holds the code point on; none if there is no such range. -/
def seek (code : Nat) (ranges : Ranges) : Ranges :=
  match ranges.dropWhile fun range => Nat.blt range.2 code with
  | [] => []
  | range :: rest => bif Nat.ble range.1 code then range :: rest else []

theorem seek_eq_cons {code : Nat} {ranges rest : Ranges} {range : Nat × Nat}
    (found : ranges.seek code = range :: rest) :
    range :: rest <:+ ranges ∧ range.1 ≤ code ∧ code ≤ range.2 := by
  unfold seek at found
  split at found
  case h_1 => cases found
  case h_2 first later dropped =>
    rw [cond_eq_ite] at found
    split at found
    case isFalse => cases found
    case isTrue starts =>
      cases found
      refine ⟨dropped ▸ List.dropWhile_suffix _, Nat.ble_eq.mp starts, ?_⟩
      have stopped := List.head?_dropWhile_not (fun range : Nat × Nat => Nat.blt range.2 code) ranges
      simp only [dropped, List.head?_cons, ← Bool.not_eq_true, Nat.blt_eq, Nat.not_lt] at stopped
      exact stopped

/-- Every code point lies in one of the ranges. The search for each goes on where the one before has
ended, and starts anew only if that fails. -/
def sweep (all : Ranges) : Ranges → List Nat → Bool
  | _, [] => true
  | cursor, code :: codes =>
    match cursor.seek code with
    | range :: rest => sweep all (range :: rest) codes
    | [] =>
      match all.seek code with
      | range :: rest => sweep all (range :: rest) codes
      | [] => false

theorem exists_mem_of_sweep {all cursor : Ranges} {codes : List Nat} (suffix : cursor <:+ all)
    (swept : all.sweep cursor codes = true) {code : Nat} (member : code ∈ codes) :
    ∃ range ∈ all, range.1 ≤ code ∧ code ≤ range.2 := by
  induction codes generalizing cursor with
  | nil => cases member
  | cons first later ih =>
    -- Whichever search succeeds, it ends at a range of the table.
    have step {found rest : Ranges} {range : Nat × Nat} (within : found <:+ all)
        (sought : found.seek first = range :: rest)
        (swept : all.sweep (range :: rest) later = true) :
        ∃ range ∈ all, range.1 ≤ code ∧ code ≤ range.2 := by
      obtain ⟨here, bounds⟩ := seek_eq_cons sought
      have inside := here.trans within
      rcases List.mem_cons.mp member with same | member
      · exact ⟨range, inside.subset List.mem_cons_self, by rwa [same]⟩
      · exact ih inside swept member
    rw [sweep] at swept
    split at swept
    case h_1 range rest sought => exact step suffix sought swept
    case h_2 =>
      split at swept
      case h_1 range rest sought => exact step List.suffix_rfl sought swept
      case h_2 => cases swept

end Ranges

theorem isAlphabetic_of_sweep {codes : List Nat}
    (swept : alphabeticRanges.sweep alphabeticRanges codes = true) {c : Char}
    (member : c.toNat ∈ codes) : isAlphabetic c = true := by
  have ascending : (alphabeticRanges.map Prod.fst).IsChain (· ≤ ·) := by decide +kernel
  obtain ⟨range, inside, low, high⟩ := Ranges.exists_mem_of_sweep List.suffix_rfl swept member
  exact Ranges.contains_of_mem ascending inside low high

theorem isBlank_of_isAlphabetic {c : Char} (letter : isAlphabetic c = true) : isBlank c = false := by
  have apart : (blankRanges.all fun blank => alphabeticRanges.all fun range =>
      Nat.blt blank.2 range.1 || Nat.blt range.2 blank.1) = true := by
    decide +kernel
  rw [← Bool.not_eq_true]
  intro isBlank
  obtain ⟨blank, inBlanks, low, high⟩ := Ranges.exists_mem_of_contains isBlank
  obtain ⟨range, inLetters, low', high'⟩ := Ranges.exists_mem_of_contains letter
  have disjoint := List.all_eq_true.mp (List.all_eq_true.mp apart blank inBlanks) range inLetters
  simp only [Bool.or_eq_true, Nat.blt_eq] at disjoint
  omega

/-! ## Runs -/

namespace Run

theorem contains_iff {run : Run} {code : Nat} :
    run.contains code = true ↔
      run.first ≤ code ∧ code ≤ run.last ∧ (code - run.first) % run.stride = 0 := by
  simp [contains, and_assoc]

def codes (run : Run) : List Nat :=
  List.range' run.first ((run.last - run.first) / run.stride + 1) run.stride

theorem mem_codes {run : Run} {code : Nat} (inside : run.contains code = true) :
    code ∈ run.codes := by
  obtain ⟨low, high, multiple⟩ := contains_iff.mp inside
  refine List.mem_range'.mpr ⟨(code - run.first) / run.stride, ?_, ?_⟩
  · have distance := Nat.div_le_div_right (c := run.stride) (Nat.sub_le_sub_right high run.first)
    omega
  · rw [Nat.mul_div_cancel' (Nat.dvd_of_mod_eq_zero multiple)]
    omega

end Run

namespace CaseRun

def forms (run : CaseRun) : Run :=
  ⟨run.image, run.image + (run.last - run.first), run.stride⟩

theorem contains_forms {run : CaseRun} {code : Nat} (inside : run.contains code = true) :
    run.forms.contains (run.image + (code - run.first)) = true := by
  obtain ⟨low, high, multiple⟩ := Run.contains_iff.mp inside
  refine Run.contains_iff.mpr ⟨Nat.le_add_right _ _, ?_, ?_⟩
  · exact Nat.add_le_add_left (Nat.sub_le_sub_right high run.first) run.image
  · rw [forms, Nat.add_sub_cancel_left]
    exact multiple

def isScalar (run : CaseRun) : Bool :=
  Nat.blt run.forms.last 0xD800 || Nat.ble 0xE000 run.image && Nat.blt run.forms.last 0x110000

theorem toNat_ofNat {run : CaseRun} {code : Nat} (scalar : run.isScalar = true)
    (inside : run.contains code = true) :
    (Char.ofNat (run.image + (code - run.first))).toNat = run.image + (code - run.first) := by
  obtain ⟨low, high, -⟩ := Run.contains_iff.mp (contains_forms inside)
  have valid : (run.image + (code - run.first)).isValidChar := by
    simp only [isScalar, Bool.or_eq_true, Bool.and_eq_true, Nat.blt_eq, Nat.ble_eq] at scalar
    change run.image ≤ _ at low
    rw [Nat.isValidChar]
    omega
  rw [Char.ofNat, dif_pos valid]
  rfl

end CaseRun

/-- A character folds to itself or belongs to a run, which gives its form. -/
theorem foldCase_cases (c : Char) :
    foldCase c = c ∨ ∃ run ∈ lowercaseRuns, run.contains c.toNat = true ∧
      (foldCase c).toNat = run.image + (c.toNat - run.first) := by
  have scalar : (lowercaseRuns.all CaseRun.isScalar) = true := by decide +kernel
  unfold foldCase
  split
  case h_1 run found =>
    have inside : run.contains c.toNat = true := by simpa using List.find?_some found
    have member := List.mem_of_find?_eq_some found
    have form := CaseRun.toNat_ofNat (List.all_eq_true.mp scalar run member) inside
    exact Or.inr ⟨run, member, inside, form⟩
  case h_2 => exact Or.inl rfl

theorem lowercaseRuns_sweep :
    alphabeticRanges.sweep alphabeticRanges (lowercaseRuns.flatMap fun run => run.codes) = true := by
  decide +kernel

theorem lowercaseRuns_sweep_forms :
    alphabeticRanges.sweep alphabeticRanges
      (lowercaseRuns.flatMap fun run => run.forms.codes) = true := by
  decide +kernel

/-- Characters with a lowercase form of their own are letters, and so are the forms. -/
theorem isAlphabetic_of_foldCase_ne {c : Char} (moved : foldCase c ≠ c) :
    isAlphabetic c = true ∧ isAlphabetic (foldCase c) = true := by
  obtain ⟨run, member, inside, form⟩ := (foldCase_cases c).resolve_left moved
  constructor
  · apply isAlphabetic_of_sweep lowercaseRuns_sweep
    exact List.mem_flatMap.mpr ⟨run, member, Run.mem_codes inside⟩
  · apply isAlphabetic_of_sweep lowercaseRuns_sweep_forms
    rw [form]
    exact List.mem_flatMap.mpr ⟨run, member, Run.mem_codes (CaseRun.contains_forms inside)⟩

theorem isAlphabetic_foldCase (c : Char) : isAlphabetic (foldCase c) = isAlphabetic c := by
  by_cases fixed : foldCase c = c
  · rw [fixed]
  · obtain ⟨letter, form⟩ := isAlphabetic_of_foldCase_ne fixed
    rw [letter, form]

/-! ## Accents -/

/-- The sign for a unit of length, written as a letter of its own that looks like `Å`. -/
def angstromSign : Char := '\u212B'

def baseAt (code : Nat) : Option Char :=
  (accentedLetters.find? fun entry => Nat.ble entry.1 code && Nat.ble code entry.2.1).map (·.2.2)

theorem baseLetter?_eq_baseAt (c : Char) : baseLetter? c = baseAt c.toNat := by
  have test (entry : Nat × Nat × Char) :
      (decide (entry.1 ≤ c.toNat) && decide (c.toNat ≤ entry.2.1)) =
        (Nat.ble entry.1 c.toNat && Nat.ble c.toNat entry.2.1) := by
    rw [Bool.eq_iff_iff]
    simp
  unfold baseLetter? baseAt
  simp only [test]

theorem baseAt_eq_none {code : Nat} (above : 0x17E < code) : baseAt code = none := by
  have bounded : ∀ entry ∈ accentedLetters, entry.2.1 ≤ 0x17E := by decide
  rw [baseAt, Option.map_eq_none_iff, List.find?_eq_none]
  intro entry member
  have bound := bounded entry member
  simp only [Bool.and_eq_true, Nat.ble_eq]
  omega

/-- Only runs that begin or end in the part of the code that the table covers need to be looked at
character by character. -/
theorem lowercaseRuns_baseAt :
    (lowercaseRuns.all fun run => Nat.blt 0x17E run.first && Nat.blt 0x17E run.image ||
      run.codes.all fun code => Nat.beq code 0x212B ||
        decide (baseAt (run.image + (code - run.first)) = baseAt code)) = true := by
  decide +kernel

theorem baseLetter?_foldCase {c : Char} (other : c ≠ angstromSign) :
    baseLetter? (foldCase c) = baseLetter? c := by
  rcases foldCase_cases c with fixed | ⟨run, member, inside, form⟩
  · rw [fixed]
  · rw [baseLetter?_eq_baseAt, baseLetter?_eq_baseAt, form]
    have checked := List.all_eq_true.mp lowercaseRuns_baseAt run member
    simp only [Bool.or_eq_true, Bool.and_eq_true, Nat.blt_eq, List.all_eq_true, Nat.beq_eq,
      decide_eq_true_eq] at checked
    rcases checked with ⟨start, image⟩ | each
    · have low := (Run.contains_iff.mp inside).1
      rw [baseAt_eq_none (by omega), baseAt_eq_none (by omega)]
    · rcases each c.toNat (Run.mem_codes inside) with sign | same
      · exact absurd (Char.toNat_inj.mp sign) other
      · exact same

theorem foldCase_angstromSign : foldCase angstromSign = 'å' := by decide +kernel

end MemberOrder.Text
