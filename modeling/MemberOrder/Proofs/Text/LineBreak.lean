import Mathlib.Data.List.Infix
import MemberOrder.Proofs.Text.Offset

/-! Line breaks and the seams between pieces of a text.

A text that breaks its lines in one way can be taken apart and put together again as long as no
seam runs through a pair of carriage return and line feed, and none makes such a pair.
-/

set_option autoImplicit false

namespace MemberOrder.Text

/-! ## Line breaks -/

/-- All lines end in the given way: every line feed has a carriage return before it, or none has. -/
def BreaksWith : LineEnding → Text → Prop
  | .crlf, t => ∀ before, before ++ ['\n'] <+: t → before.getLast? = some '\r'
  | .lf, t => ¬ ['\r', '\n'] <:+: t

theorem isInfix_pair_iff {t : Text} :
    ['\r', '\n'] <:+: t ↔ ∃ before, before ++ ['\n'] <+: t ∧ before.getLast? = some '\r' := by
  constructor
  · rintro ⟨front, rest, joined⟩
    exact ⟨front ++ ['\r'], ⟨rest, by simpa using joined⟩, List.getLast?_concat⟩
  · rintro ⟨before, ⟨rest, joined⟩, last⟩
    obtain ⟨front, rfl⟩ := List.getLast?_eq_some_iff.mp last
    exact ⟨front, rest, by simpa using joined⟩

theorem breaksWith_iff {ending : LineEnding} {t : Text} :
    t.BreaksWith ending ↔
      ∀ before, before ++ ['\n'] <+: t → (before.getLast? = some '\r' ↔ ending = .crlf) := by
  cases ending with
  | lf => simp [BreaksWith, isInfix_pair_iff]
  | crlf => simp [BreaksWith]

instance (ending : LineEnding) (t : Text) : Decidable (t.BreaksWith ending) :=
  match ending with
  | .lf => inferInstanceAs (Decidable (¬ _))
  | .crlf =>
    decidable_of_iff (∀ before ∈ t.inits, before ++ ['\n'] <+: t → before.getLast? = some '\r')
      ⟨fun all before initial => all before
          ((List.mem_inits before t).mpr ((List.prefix_append ..).trans initial)) initial,
        fun all before _ => all before⟩

theorem breaksWith_of_notMem {ending : LineEnding} {t : Text} (unbroken : '\n' ∉ t) :
    t.BreaksWith ending := by
  rw [breaksWith_iff]
  intro before initial
  exact absurd (initial.subset (by simp)) unbroken

/-- What ends in a character and begins the joined text begins the first text or reaches into the
second. -/
theorem concat_isPrefix_append_iff {before s t : Text} {c : Char} :
    before ++ [c] <+: s ++ t ↔
      before ++ [c] <+: s ∨ ∃ later, before = s ++ later ∧ later ++ [c] <+: t := by
  induction s generalizing before with
  | nil => simp
  | cons d s ih =>
    cases before with
    | nil => simp
    | cons b before => simp [ih, and_or_left, and_assoc]

/-- A text joined from two breaks its lines as these do unless a pair stands across the seam. -/
theorem breaksWith_append {ending : LineEnding} {s t : Text}
    (seam : s.getLast? = some '\r' → t.head? ≠ some '\n') :
    (s ++ t).BreaksWith ending ↔ s.BreaksWith ending ∧ t.BreaksWith ending := by
  -- What stands before a line feed of `t` ends alike with `s` in front of it and without.
  have same (later : Text) (initial : later ++ ['\n'] <+: t) :
      (s ++ later).getLast? = some '\r' ↔ later.getLast? = some '\r' := by
    rcases List.eq_nil_or_concat later with rfl | ⟨front, c, rfl⟩
    · obtain ⟨rest, rfl⟩ := initial
      simpa using fun last => seam last rfl
    · simp [← List.append_assoc]
  simp only [breaksWith_iff, concat_isPrefix_append_iff]
  constructor
  · intro whole
    refine ⟨fun before initial => whole before (Or.inl initial), ?_⟩
    intro later initial
    rw [← same later initial]
    exact whole (s ++ later) (Or.inr ⟨later, rfl, initial⟩)
  · rintro ⟨first, second⟩ before (initial | ⟨later, rfl, initial⟩)
    · exact first before initial
    · rw [same later initial]
      exact second later initial

/-! ## Pieces -/

/-- The lines are broken in the given way, and the end leaves no break open. -/
structure Closed (ending : LineEnding) (t : Text) : Prop where
  breaks : t.BreaksWith ending
  last : t.getLast? ≠ some '\r'

/-- No pair reaches over either end of the text, whatever it is put between. -/
structure Detachable (t : Text) : Prop where
  head : ∃ c ∈ t.head?, c ≠ '\n'
  last : t.getLast? ≠ some '\r'

/-- A text that can be put between any others that break their lines in the given way. -/
structure Portable (ending : LineEnding) (t : Text) : Prop extends Detachable t where
  breaks : t.BreaksWith ending

theorem getLast?_append_ne {s t : Text} {c : Char} (first : s.getLast? ≠ some c)
    (second : t.getLast? ≠ some c) : (s ++ t).getLast? ≠ some c := by
  rw [List.getLast?_append]
  cases last : t.getLast? with
  | none => exact first
  | some d => rwa [last] at second

theorem Closed.append {ending : LineEnding} {s t : Text} (first : s.Closed ending)
    (second : t.Closed ending) : (s ++ t).Closed ending where
  breaks := (breaksWith_append fun last => absurd last first.last).mpr
    ⟨first.breaks, second.breaks⟩
  last := getLast?_append_ne first.last second.last

theorem Portable.closed {ending : LineEnding} {t : Text} (portable : t.Portable ending) :
    t.Closed ending :=
  ⟨portable.breaks, portable.last⟩

theorem Portable.append {ending : LineEnding} {s t : Text} (first : s.Portable ending)
    (second : t.Closed ending) : (s ++ t).Portable ending := by
  obtain ⟨breaks, last⟩ := first.closed.append second
  obtain ⟨c, head, differs⟩ := first.head
  exact ⟨⟨⟨c, by simp [List.head?_append, Option.mem_def.mp head], differs⟩, last⟩, breaks⟩

theorem portable_join {ending : LineEnding} {separator : Text} (closed : separator.Closed ending)
    {ts : List Text} (nonempty : ts ≠ []) (each : ∀ t ∈ ts, t.Portable ending) :
    (join separator ts).Portable ending := by
  induction ts with
  | nil => exact absurd rfl nonempty
  | cons t rest ih =>
    obtain ⟨here, others⟩ := List.forall_mem_cons.mp each
    cases rest with
    | nil => exact here
    | cons u rest =>
      have later := ih (by simp) others
      exact (here.append closed).append later.closed

/-- A detachable piece takes no part in the breaks before and behind it. -/
theorem Detachable.breaksWith_iff {ending : LineEnding} {t : Text} (detachable : t.Detachable)
    (s u : Text) : (s ++ (t ++ u)).BreaksWith ending ↔
      s.BreaksWith ending ∧ t.BreaksWith ending ∧ u.BreaksWith ending := by
  have head : (t ++ u).head? ≠ some '\n' := by
    obtain ⟨c, head, differs⟩ := detachable.head
    simpa [List.head?_append, Option.mem_def.mp head] using differs
  rw [breaksWith_append fun _ => head, breaksWith_append fun last => absurd last detachable.last]

theorem Detachable.portable_slice {ending : LineEnding} {t : Text} {m n : Nat} (first : IsCut t m)
    (last : IsCut t n) (le : m ≤ n) (breaks : t.BreaksWith ending)
    (detachable : (slice t ⟨m, n⟩).Detachable) : (slice t ⟨m, n⟩).Portable ending := by
  rw [← takeBytes_append_dropBytes m t, ← slice_append_dropBytes first last le] at breaks
  exact ⟨detachable, ((detachable.breaksWith_iff _ _).mp breaks).2.1⟩

/-! ## Indentation -/

theorem newline_notMem_of_isIndent {t : Text} (indented : t.all isIndent = true) : '\n' ∉ t := by
  intro member
  exact absurd (List.all_eq_true.mp indented _ member) (by decide)

theorem getLast?_ne_of_isIndent {t : Text} (indented : t.all isIndent = true) :
    t.getLast? ≠ some '\r' := by
  intro last
  exact absurd (List.all_eq_true.mp indented _ (List.mem_of_getLast? last)) (by decide)

theorem closed_of_isIndent {ending : LineEnding} {t : Text} (indented : t.all isIndent = true) :
    t.Closed ending where
  breaks := breaksWith_of_notMem (newline_notMem_of_isIndent indented)
  last := getLast?_ne_of_isIndent indented

theorem Detachable.indented {s t : Text} (indent : s.all isIndent = true)
    (detachable : t.Detachable) : (s ++ t).Detachable where
  head := by
    cases s with
    | nil => exact detachable.head
    | cons c s =>
      refine ⟨c, rfl, ?_⟩
      rintro rfl
      exact newline_notMem_of_isIndent indent List.mem_cons_self
  last := getLast?_append_ne (getLast?_ne_of_isIndent indent) detachable.last

/-! ## Endings -/

theorem occursIn_iff {pattern t : Text} : occursIn pattern t = true ↔ pattern <:+: t := by
  induction t with
  | nil => simp [occursIn]
  | cons c t ih =>
    rw [occursIn, Bool.or_eq_true, List.isPrefixOf_iff_prefix, ih, List.infix_cons_iff]

/-- The ending that a text is taken to have is the one its lines have. -/
theorem ofText_eq {ending : LineEnding} {t : Text} (breaks : t.BreaksWith ending)
    (broken : ending = .crlf → '\n' ∈ t) : LineEnding.ofText t = ending := by
  unfold LineEnding.ofText
  cases ending with
  | lf => rw [if_neg fun occurs => breaks (occursIn_iff.mp occurs)]
  | crlf =>
    obtain ⟨before, rest, split⟩ := List.append_of_mem (broken rfl)
    have initial : before ++ ['\n'] <+: t := ⟨rest, by simp [split]⟩
    rw [if_pos (occursIn_iff.mpr (isInfix_pair_iff.mpr ⟨before, initial, breaks before initial⟩))]

theorem closed_lineEnding (ending : LineEnding) : ending.text.Closed ending := by
  cases ending <;> exact ⟨by decide, by decide⟩

end MemberOrder.Text
