import MemberOrder.Text.Basic

/-! Byte offsets that fall between characters.

A span whose ends are such cuts is a piece of the text, and adjacent pieces join. Moving an offset
back to the start of its line gives a cut again and never passes an earlier cut that has code
before it on its line.
-/

set_option autoImplicit false

namespace MemberOrder

/-! ## Spans -/

namespace Span

/-- The spans lie between two offsets, in order and without overlap. -/
def InOrder : Nat → List Span → Nat → Prop
  | low, [], high => low ≤ high
  | low, s :: rest, high => low ≤ s.start ∧ s.start ≤ s.stop ∧ InOrder s.stop rest high

instance decidableInOrder : (low : Nat) → (spans : List Span) → (high : Nat) →
    Decidable (InOrder low spans high)
  | _, [], _ => inferInstanceAs (Decidable (_ ≤ _))
  | _, s :: rest, high =>
    haveI := decidableInOrder s.stop rest high
    inferInstanceAs (Decidable (_ ∧ _ ∧ _))

theorem InOrder.le {low high : Nat} {spans : List Span} (ordered : InOrder low spans high) :
    low ≤ high := by
  induction spans generalizing low with
  | nil => exact ordered
  | cons s rest ih =>
    obtain ⟨start, width, later⟩ := ordered
    have := ih later
    omega

theorem InOrder.weaken {low low' high : Nat} {spans : List Span} (le : low' ≤ low)
    (ordered : InOrder low spans high) : InOrder low' spans high := by
  cases spans with
  | nil => exact Nat.le_trans le ordered
  | cons s rest => exact ⟨Nat.le_trans le ordered.1, ordered.2⟩

theorem inOrder_append {low high : Nat} {first last : List Span} :
    InOrder low (first ++ last) high ↔
      ∃ middle, InOrder low first middle ∧ InOrder middle last high := by
  induction first generalizing low with
  | nil =>
    constructor
    · intro ordered
      exact ⟨low, Nat.le_refl low, ordered⟩
    · rintro ⟨middle, le, ordered⟩
      exact ordered.weaken le
  | cons s rest ih =>
    constructor
    · rintro ⟨start, width, later⟩
      obtain ⟨middle, inside, beyond⟩ := ih.mp later
      exact ⟨middle, ⟨start, width, inside⟩, beyond⟩
    · rintro ⟨middle, ⟨start, width, inside⟩, beyond⟩
      exact ⟨start, width, ih.mpr ⟨middle, inside, beyond⟩⟩

theorem InOrder.sublist {low high : Nat} {some all : List Span} (sub : some.Sublist all)
    (ordered : InOrder low all high) : InOrder low some high := by
  induction sub generalizing low with
  | slnil => exact ordered
  | cons s sub ih =>
    obtain ⟨start, width, later⟩ := ordered
    exact (ih later).weaken (Nat.le_trans start width)
  | cons_cons s sub ih =>
    obtain ⟨start, width, later⟩ := ordered
    exact ⟨start, width, ih later⟩

theorem InOrder.bounds {low high : Nat} {spans : List Span} (ordered : InOrder low spans high)
    {s : Span} (member : s ∈ spans) : low ≤ s.start ∧ s.start ≤ s.stop ∧ s.stop ≤ high := by
  obtain ⟨before, after, split⟩ := List.append_of_mem member
  rw [split] at ordered
  obtain ⟨middle, first, start, width, last⟩ := inOrder_append.mp ordered
  exact ⟨Nat.le_trans first.le start, width, last.le⟩

theorem InOrder.pairwise {low high : Nat} {spans : List Span} (ordered : InOrder low spans high) :
    spans.Pairwise fun s t => s.start ≤ s.stop ∧ s.stop ≤ t.start := by
  induction spans generalizing low with
  | nil => exact .nil
  | cons s rest ih =>
    obtain ⟨-, width, later⟩ := ordered
    exact .cons (fun t member => ⟨width, (later.bounds member).1⟩) (ih later)

theorem InOrder.fromHead {low high : Nat} {spans : List Span} {first : Span}
    (ordered : InOrder low spans high) (head : spans.head? = some first) :
    InOrder first.start spans high := by
  obtain ⟨rest, rfl⟩ := List.head?_eq_some_iff.mp head
  exact ⟨Nat.le_refl _, ordered.2⟩

/-- Only the last span bounds how far the spans reach. -/
theorem InOrder.within {low high high' : Nat} {spans : List Span} {last : Span}
    (ordered : InOrder low spans high) (tail : spans.getLast? = some last)
    (le : last.stop ≤ high') : InOrder low spans high' := by
  obtain ⟨earlier, split⟩ := List.getLast?_eq_some_iff.mp tail
  rw [split] at ordered ⊢
  obtain ⟨middle, before, start, width, -⟩ := inOrder_append.mp ordered
  exact inOrder_append.mpr ⟨middle, before, start, width, le⟩

/-- Every span lies between the start of the first and the end of the last. -/
theorem InOrder.between {low high : Nat} {spans : List Span} {first last s : Span}
    (ordered : InOrder low spans high) (head : spans.head? = some first)
    (tail : spans.getLast? = some last) (member : s ∈ spans) :
    first.start ≤ s.start ∧ s.stop ≤ last.stop := by
  have narrow := (ordered.within tail (Nat.le_refl last.stop)).fromHead head
  obtain ⟨start, -, stop⟩ := narrow.bounds member
  exact ⟨start, stop⟩

theorem InOrder.head_le_getLast {low high : Nat} {spans : List Span} {first last : Span}
    (ordered : InOrder low spans high) (head : spans.head? = some first)
    (tail : spans.getLast? = some last) : first.start ≤ last.start :=
  (ordered.between head tail (List.mem_of_getLast? tail)).1

theorem InOrder.stop_le_getLast {low high : Nat} {spans : List Span} {first last : Span}
    (ordered : InOrder low spans high) (head : spans.head? = some first)
    (tail : spans.getLast? = some last) : first.stop ≤ last.stop :=
  (ordered.between head tail (List.mem_of_head? head)).2

/-- From the start of the first span to the end of the last. -/
theorem InOrder.ends {low high : Nat} {spans : List Span} {first last : Span}
    (ordered : InOrder low spans high) (head : spans.head? = some first)
    (tail : spans.getLast? = some last) :
    low ≤ first.start ∧ first.start ≤ last.stop ∧ last.stop ≤ high := by
  have firstBounds := ordered.bounds (List.mem_of_head? head)
  have lastBounds := ordered.bounds (List.mem_of_getLast? tail)
  have starts := ordered.head_le_getLast head tail
  exact ⟨firstBounds.1, Nat.le_trans starts lastBounds.2.1, lastBounds.2.2⟩

end Span

namespace Text

/-! ## Cuts -/

/-- The offset falls between two characters, or at an end of the text. -/
def IsCut (t : Text) (n : Nat) : Prop := byteSize (takeBytes n t) = n

instance (t : Text) (n : Nat) : Decidable (IsCut t n) := inferInstanceAs (Decidable (_ = _))

theorem takeBytes_byteSize (s t : Text) : takeBytes (byteSize s) (s ++ t) = s := by
  induction s with
  | nil => simp
  | cons c s ih =>
    have positive := c.utf8Size_pos
    have nonzero : c.utf8Size + byteSize s ≠ 0 := by omega
    rw [List.cons_append, byteSize_cons, takeBytes, if_neg nonzero, Nat.add_sub_cancel_left, ih]

theorem dropBytes_byteSize (s t : Text) : dropBytes (byteSize s) (s ++ t) = t := by
  have whole := takeBytes_append_dropBytes (byteSize s) (s ++ t)
  rw [takeBytes_byteSize] at whole
  exact List.append_cancel_left whole

theorem isCut_byteSize (s t : Text) : IsCut (s ++ t) (byteSize s) := by
  rw [IsCut, takeBytes_byteSize]

theorem isCut_zero (t : Text) : IsCut t 0 := by simp [IsCut]

theorem takeBytes_isPrefix {m n : Nat} (le : m ≤ n) (t : Text) :
    takeBytes m t <+: takeBytes n t := by
  induction t generalizing m n with
  | nil => exact List.prefix_rfl
  | cons c t ih =>
    by_cases zero : m = 0
    · simp [takeBytes, zero]
    · have nonzero : n ≠ 0 := by omega
      have rest : m - c.utf8Size ≤ n - c.utf8Size := by omega
      simpa [takeBytes, zero, nonzero, List.cons_prefix_cons] using ih rest

/-- Between two cuts lies a piece of the text that the span cuts out exactly. -/
theorem IsCut.pieces {t : Text} {m n : Nat} (first : IsCut t m) (last : IsCut t n) (le : m ≤ n) :
    takeBytes n t = takeBytes m t ++ slice t ⟨m, n⟩ ∧
      dropBytes m t = slice t ⟨m, n⟩ ++ dropBytes n t ∧ byteSize (slice t ⟨m, n⟩) = n - m := by
  obtain ⟨piece, joined⟩ := takeBytes_isPrefix le t
  have size : byteSize piece = n - m := by
    have sizes := congrArg byteSize joined
    rw [byteSize_append, first, last] at sizes
    omega
  have rest : dropBytes m t = piece ++ dropBytes n t := by
    have whole := takeBytes_append_dropBytes n t
    rw [← joined, List.append_assoc] at whole
    exact List.append_cancel_left ((takeBytes_append_dropBytes m t).trans whole.symm)
  have same : slice t ⟨m, n⟩ = piece := by
    rw [slice, rest, ← size, takeBytes_byteSize]
  exact ⟨by rw [same, joined], by rw [same, rest], by rw [same, size]⟩

theorem takeBytes_append_slice {t : Text} {m n : Nat} (first : IsCut t m) (last : IsCut t n)
    (le : m ≤ n) : takeBytes m t ++ slice t ⟨m, n⟩ = takeBytes n t :=
  (first.pieces last le).1.symm

theorem slice_append_dropBytes {t : Text} {m n : Nat} (first : IsCut t m) (last : IsCut t n)
    (le : m ≤ n) : slice t ⟨m, n⟩ ++ dropBytes n t = dropBytes m t :=
  (first.pieces last le).2.1.symm

theorem byteSize_slice {t : Text} {m n : Nat} (first : IsCut t m) (last : IsCut t n)
    (le : m ≤ n) : byteSize (slice t ⟨m, n⟩) = n - m :=
  (first.pieces last le).2.2

theorem lt_of_slice_ne_nil {t : Text} {m n : Nat} (filled : slice t ⟨m, n⟩ ≠ []) : m < n := by
  apply Nat.lt_of_not_le
  intro reversed
  rw [slice, Nat.sub_eq_zero_of_le reversed, takeBytes_zero] at filled
  exact filled rfl

theorem head?_slice {t : Text} {m n : Nat} (first : IsCut t m) (last : IsCut t n) (le : m ≤ n)
    (nonempty : slice t ⟨m, n⟩ ≠ []) : (slice t ⟨m, n⟩).head? = (dropBytes m t).head? := by
  obtain ⟨c, rest, piece⟩ := List.exists_cons_of_ne_nil nonempty
  rw [← slice_append_dropBytes first last le, piece]
  rfl

theorem slice_append_slice {t : Text} {m n k : Nat} (first : IsCut t m) (middle : IsCut t n)
    (last : IsCut t k) (le : m ≤ n) (le' : n ≤ k) :
    slice t ⟨m, n⟩ ++ slice t ⟨n, k⟩ = slice t ⟨m, k⟩ := by
  have joined : takeBytes m t ++ (slice t ⟨m, n⟩ ++ slice t ⟨n, k⟩) =
      takeBytes m t ++ slice t ⟨m, k⟩ := by
    rw [← List.append_assoc, takeBytes_append_slice first middle le,
      takeBytes_append_slice middle last le',
      takeBytes_append_slice first last (Nat.le_trans le le')]
  exact List.append_cancel_left joined

/-- Past a cut, every initial part of what follows ends at a cut. -/
theorem IsCut.add {t s rest : Text} {n : Nat} (cut : IsCut t n)
    (follows : dropBytes n t = s ++ rest) : IsCut t (n + byteSize s) := by
  have whole := takeBytes_append_dropBytes n t
  rw [follows, ← List.append_assoc] at whole
  have ends := isCut_byteSize (takeBytes n t ++ s) rest
  rwa [whole, byteSize_append, cut] at ends

theorem IsCut.dropBytes_add {t s rest : Text} {n : Nat} (cut : IsCut t n)
    (follows : dropBytes n t = s ++ rest) : dropBytes (n + byteSize s) t = rest := by
  have whole := takeBytes_append_dropBytes n t
  rw [follows, ← List.append_assoc] at whole
  have dropped := dropBytes_byteSize (takeBytes n t ++ s) rest
  rwa [whole, byteSize_append, cut] at dropped

theorem slice_of_dropBytes {t s rest : Text} {n : Nat}
    (follows : dropBytes n t = s ++ rest) : slice t ⟨n, n + byteSize s⟩ = s := by
  rw [slice, follows, Nat.add_sub_cancel_left, takeBytes_byteSize]

/-! ## Lines -/

theorem lastLine_append (s t : Text) :
    lastLine (s ++ t) = if '\n' ∈ t then lastLine t else lastLine s ++ t := by
  rw [lastLine, List.reverse_append]
  split
  case isTrue broken =>
    -- Read backwards, both texts stop at the same break.
    obtain ⟨before, after, split⟩ := List.append_of_mem (List.mem_reverse.mpr broken)
    rw [lastLine, split, List.append_assoc]
    congr 1
    simp [List.takeWhile_append]
  case isFalse whole =>
    have unbroken : ∀ c ∈ t.reverse, (c != '\n') = true := by
      intro c member
      have differs : c ≠ '\n' := fun same => whole (same ▸ List.mem_reverse.mp member)
      simpa using differs
    rw [List.takeWhile_append_of_pos unbroken, List.reverse_append, List.reverse_reverse, lastLine]

theorem lastLine_isSuffix (t : Text) : lastLine t <:+ t := by
  have initial := List.takeWhile_prefix (l := t.reverse) (· != '\n')
  simpa [lastLine] using List.reverse_suffix.mpr initial

/-- Something other than indentation stands before the offset on its line. -/
def AfterCode (t : Text) (n : Nat) : Prop := (lastLine (takeBytes n t)).all isIndent = false

instance (t : Text) (n : Nat) : Decidable (AfterCode t n) := inferInstanceAs (Decidable (_ = _))

theorem toLineStart_le (t : Text) (n : Nat) : toLineStart t n ≤ n := by
  unfold toLineStart lineStart
  split <;> omega

/-- The line begins behind `front`, the part of the text before it. -/
theorem IsCut.lineStart_split {t : Text} {n : Nat} (cut : IsCut t n) :
    ∃ front, t = front ++ (lastLine (takeBytes n t) ++ dropBytes n t) ∧
      lineStart t n = byteSize front ∧ n = byteSize front + byteSize (lastLine (takeBytes n t)) := by
  obtain ⟨front, joined⟩ := lastLine_isSuffix (takeBytes n t)
  have sizes := congrArg byteSize joined
  rw [byteSize_append, cut] at sizes
  refine ⟨front, ?_, ?_, sizes.symm⟩
  · rw [← List.append_assoc, joined, takeBytes_append_dropBytes]
  · unfold lineStart
    omega

/-- The line before an offset is the piece from its start. -/
theorem IsCut.line {t : Text} {n : Nat} (cut : IsCut t n) :
    IsCut t (lineStart t n) ∧ slice t ⟨lineStart t n, n⟩ = lastLine (takeBytes n t) := by
  obtain ⟨front, whole, start, stop⟩ := cut.lineStart_split
  have startCut : IsCut t (byteSize front) := by
    conv => lhs; rw [whole]
    exact isCut_byteSize _ _
  have follows : dropBytes (byteSize front) t = lastLine (takeBytes n t) ++ dropBytes n t := by
    conv => lhs; rw [whole]
    exact dropBytes_byteSize _ _
  have piece := slice_of_dropBytes follows
  rw [← stop] at piece
  rw [start]
  exact ⟨startCut, piece⟩

theorem isCut_toLineStart {t : Text} {n : Nat} (cut : IsCut t n) : IsCut t (toLineStart t n) := by
  unfold toLineStart
  split
  · exact cut.line.1
  · exact cut

/-- Moving back to the start of a line passes indentation only. -/
theorem slice_toLineStart {t : Text} {n : Nat} (cut : IsCut t n) :
    (slice t ⟨toLineStart t n, n⟩).all isIndent = true := by
  unfold toLineStart
  split
  case isTrue indented =>
    rw [cut.line.2]
    exact indented
  case isFalse => simp [slice]

/-- A line that holds code before an earlier cut does not start after it. -/
theorem AfterCode.le_toLineStart {t : Text} {m n : Nat} (code : AfterCode t m)
    (first : IsCut t m) (last : IsCut t n) (le : m ≤ n) : m ≤ toLineStart t n := by
  unfold toLineStart lineStart
  split
  case isFalse => exact le
  case isTrue indented =>
    have line := lastLine_append (takeBytes m t) (slice t ⟨m, n⟩)
    rw [takeBytes_append_slice first last le] at line
    split at line
    case isTrue broken =>
      -- The line lies behind the cut.
      have short : byteSize (lastLine (takeBytes n t)) ≤ n - m := by
        obtain ⟨front, joined⟩ := lastLine_isSuffix (slice t ⟨m, n⟩)
        have sizes := congrArg byteSize joined
        rw [byteSize_append, byteSize_slice first last le, ← line] at sizes
        omega
      omega
    case isFalse whole =>
      -- The line reaches back over the cut, so the code before the cut is on it.
      rw [line, List.all_append, code] at indented
      simp at indented

/-- A piece whose last line holds code has code before its end. -/
theorem afterCode_of_slice {t : Text} {m n : Nat} (first : IsCut t m) (last : IsCut t n)
    (le : m ≤ n) (code : (lastLine (slice t ⟨m, n⟩)).all isIndent = false) : AfterCode t n := by
  rw [AfterCode, ← takeBytes_append_slice first last le, lastLine_append]
  split
  case isTrue => exact code
  case isFalse whole =>
    have line : lastLine (slice t ⟨m, n⟩) = slice t ⟨m, n⟩ := by
      have joined := lastLine_append [] (slice t ⟨m, n⟩)
      rw [if_neg whole] at joined
      simpa [lastLine] using joined
    rw [line] at code
    rw [List.all_append, code, Bool.and_false]

theorem takeWhile_isIndent_firstLine (t : Text) :
    (firstLine t).takeWhile isIndent = t.takeWhile isIndent := by
  induction t with
  | nil => rfl
  | cons c t ih =>
    by_cases indented : isIndent c = true
    · have differs : c ≠ '\n' := by
        intro same
        rw [same] at indented
        exact absurd indented (by decide)
      simpa [firstLine, List.takeWhile_cons, differs, indented] using ih
    · by_cases break_ : c = '\n'
      · simp [firstLine, break_, isIndent]
      · simp [firstLine, break_, indented]

end Text

end MemberOrder
