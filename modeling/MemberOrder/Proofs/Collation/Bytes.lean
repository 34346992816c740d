import MemberOrder.Proofs.Collation.Order

/-! Names as bytes, and names with a common beginning.

The last level compares the bytes of UTF-8, which keeps the order of code points: of two characters the
one with the longer encoding has the larger first byte, and encodings of one length carry the digits of
the code points to base 64. A common beginning is tied on every level, so it decides nothing.
-/

set_option autoImplicit false

namespace MemberOrder.Collation

open Std (ReflCmp OrientedCmp LawfulEqOrd)
open String (utf8EncodeChar)

/-! ## Bytes -/

theorem utf8_eq_flatMap (a : String) : a.toUTF8.data.toList = a.toList.flatMap utf8EncodeChar := by
  have encoded : a.toUTF8 = a.toList.utf8Encode := by
    rw [← String.toByteArray_ofList, String.ofList_toList, String.toUTF8_eq_toByteArray]
  rw [encoded, List.utf8Encode, List.data_toByteArray]

/-- The encodings of code points: as many bytes as needed, which carry the digits to base 64. -/
inductive Encodes : Nat → List UInt8 → Prop where
  | one (v : Nat) (high : v < 0x80) : Encodes v [.ofNat v]
  | two (x y : Nat) (digit : y < 64) (low : 0x80 ≤ x * 64 + y) (high : x * 64 + y < 0x800) :
      Encodes (x * 64 + y) [.ofNat (x + 192), .ofNat (y + 128)]
  | three (x y z : Nat) (digits : y < 64 ∧ z < 64) (low : 0x800 ≤ (x * 64 + y) * 64 + z)
      (high : (x * 64 + y) * 64 + z < 0x10000) :
      Encodes ((x * 64 + y) * 64 + z) [.ofNat (x + 224), .ofNat (y + 128), .ofNat (z + 128)]
  | four (x y z u : Nat) (digits : y < 64 ∧ z < 64 ∧ u < 64)
      (low : 0x10000 ≤ ((x * 64 + y) * 64 + z) * 64 + u)
      (high : ((x * 64 + y) * 64 + z) * 64 + u < 0x110000) :
      Encodes (((x * 64 + y) * 64 + z) * 64 + u)
        [.ofNat (x + 240), .ofNat (y + 128), .ofNat (z + 128), .ofNat (u + 128)]

theorem encodes_utf8EncodeChar (c : Char) : Encodes c.toNat (utf8EncodeChar c) := by
  have bound : c.toNat < 0x110000 := by
    rcases c.valid with low | ⟨-, high⟩
    · exact Nat.lt_trans low (by decide)
    · exact high
  unfold utf8EncodeChar
  rw [Char.toNat] at bound ⊢
  generalize c.val.toNat = v at bound ⊢
  simp only
  split
  case isTrue one => exact .one v (by omega)
  case isFalse more =>
    split
    case isTrue two =>
      have code := Encodes.two (v / 64 % 32) (v % 64) (by omega) (by omega) (by omega)
      have value : v / 64 % 32 * 64 + v % 64 = v := by omega
      rwa [value] at code
    case isFalse more =>
      split
      case isTrue three =>
        have code := Encodes.three (v / 4096 % 16) (v / 64 % 64) (v % 64) (by omega) (by omega)
          (by omega)
        have value : (v / 4096 % 16 * 64 + v / 64 % 64) * 64 + v % 64 = v := by omega
        rwa [value] at code
      case isFalse more =>
        have code := Encodes.four (v / 262144 % 8) (v / 4096 % 64) (v / 64 % 64) (v % 64) (by omega)
          (by omega) (by omega)
        have value :
            ((v / 262144 % 8 * 64 + v / 4096 % 64) * 64 + v / 64 % 64) * 64 + v % 64 = v := by
          omega
        rwa [value] at code

theorem Encodes.ne_nil {v : Nat} {bytes : List UInt8} (code : Encodes v bytes) : bytes ≠ [] := by
  cases code <;> simp

theorem compareLex_byte_cons {m n : Nat} {s t : List UInt8} :
    List.compareLex Ord.compare (UInt8.ofNat m :: s) (UInt8.ofNat n :: t) = .lt ↔
      m % 256 < n % 256 ∨ m % 256 = n % 256 ∧ List.compareLex Ord.compare s t = .lt := by
  rw [List.compareLex_cons_cons, Ordering.then_eq_lt, Std.compare_eq_lt,
    LawfulEqOrd.compare_eq_iff_eq, UInt8.lt_iff_toNat_lt, ← UInt8.toNat_inj]
  rfl

/-- Bytes decide between two code points as their numbers do, whatever follows. A longer encoding has
the larger first byte, and in encodings of one length the first different digit decides. -/
theorem Encodes.compareLex_append {v w : Nat} {bytes bytes' : List UInt8} (code : Encodes v bytes)
    (code' : Encodes w bytes') (less : v < w) (s t : List UInt8) :
    List.compareLex Ord.compare (bytes ++ s) (bytes' ++ t) = .lt := by
  cases code <;> cases code' <;>
  · simp only [List.cons_append, List.nil_append, compareLex_byte_cons]
    omega

theorem compareLex_flatMap_utf8EncodeChar (s t : List Char) :
    List.compareLex Ord.compare (s.flatMap utf8EncodeChar) (t.flatMap utf8EncodeChar) =
      List.compareLex Ord.compare (s.map Char.toNat) (t.map Char.toNat) := by
  have begins (c : Char) (rest : List Char) :
      ∃ byte bytes, (c :: rest).flatMap utf8EncodeChar = byte :: bytes := by
    obtain ⟨byte, bytes, code⟩ := List.exists_cons_of_ne_nil (encodes_utf8EncodeChar c).ne_nil
    exact ⟨byte, bytes ++ rest.flatMap utf8EncodeChar, by rw [List.flatMap_cons, code]; rfl⟩
  induction s generalizing t with
  | nil =>
    cases t with
    | nil => rfl
    | cons d t =>
      obtain ⟨byte, bytes, code⟩ := begins d t
      rw [code]
      rfl
  | cons c s ih =>
    cases t with
    | nil =>
      obtain ⟨byte, bytes, code⟩ := begins c s
      rw [code]
      rfl
    | cons d t =>
      have first := encodes_utf8EncodeChar c
      have second := encodes_utf8EncodeChar d
      rw [List.flatMap_cons, List.flatMap_cons, List.map_cons, List.map_cons,
        List.compareLex_cons_cons]
      rcases Nat.lt_trichotomy c.toNat d.toNat with less | same | greater
      · rw [first.compareLex_append second less, Nat.compare_eq_lt.mpr less]
        rfl
      · rw [Char.toNat_inj.mp same, compareLex_append_left, ih, Nat.compare_eq_eq.mpr rfl]
        rfl
      · have behind := second.compareLex_append first greater (t.flatMap utf8EncodeChar)
          (s.flatMap utf8EncodeChar)
        rw [OrientedCmp.gt_of_lt behind, Nat.compare_eq_gt.mpr greater]
        rfl

theorem compareBytes_eq (a b : String) : compareBytes a b = compareBy Ord.compare Char.toNat a b := by
  rw [compareBytes, utf8_eq_flatMap, utf8_eq_flatMap, compareLex_flatMap_utf8EncodeChar, compareBy]

-- The order of UTF-16 units is another one: it puts the second character first.
example : compareBytes "\uFFFD" "😀" = .lt := by decide +kernel

/-! ## Common beginnings -/

theorem compareBy_append_left {κ : Type} {compareKeys : κ → κ → Ordering} [ReflCmp compareKeys]
    (key : Char → κ) (p a b : String) :
    compareBy compareKeys key (p ++ a) (p ++ b) = compareBy compareKeys key a b := by
  rw [compareBy, String.toList_append, String.toList_append, List.map_append, List.map_append,
    compareLex_append_left]
  rfl

theorem compareNames_append_left (p a b : String) :
    compareNames (p ++ a) (p ++ b) = compareNames a b := by
  simp only [compareNames, compareBytes_eq, compareBy_append_left]

theorem compareNames_empty {a : String} (nonempty : a ≠ "") : compareNames "" a = .lt := by
  have first : compareBy PrimaryKey.compare primaryKey "" a = .lt := by
    cases chars : a.toList with
    | nil => exact absurd (String.toList_eq_nil_iff.mp chars) nonempty
    | cons c rest => rw [compareBy, chars]; rfl
  rw [compareNames, first]
  rfl

/-- A common beginning never matters, so a proper initial part of a name comes before it. Names compare
level by level, each time as sequences, by primary key, accent, case and bytes, and the code points of
the names may stand for their bytes. -/
theorem compareNames_levels (p a b : String) :
    compareNames (p ++ a) (p ++ b) = compareNames a b ∧
      (a ≠ "" → compareNames p (p ++ a) = .lt) ∧
      compareNames a b =
        (compareBy PrimaryKey.compare primaryKey a b).then
          ((compareBy Ord.compare accentWeight a b).then
            ((compareBy Ord.compare caseRank a b).then (compareBy Ord.compare Char.toNat a b))) ∧
      compareNames a b =
        (compareBy PrimaryKey.compare primaryKey a b).then
          ((compareBy Ord.compare accentWeight a b).then
            ((compareBy Ord.compare caseRank a b).then (compareBytes a b))) := by
  refine ⟨compareNames_append_left p a b, ?_, ?_, rfl⟩
  · intro nonempty
    have cancelled := compareNames_append_left p "" a
    rw [String.append_empty] at cancelled
    rw [cancelled, compareNames_empty nonempty]
  · rw [← compareBytes_eq]
    rfl

end MemberOrder.Collation
