import Mathlib.Data.List.Perm.Basic
import MemberOrder.Proofs.Text.Offset
import MemberOrder.Text.Blank

/-! Texts laid out with blanks between their parts.

A text tiles parts if it is these parts in order with only blanks behind each of them. What is not
blank in such a text comes from the parts alone.
-/

set_option autoImplicit false

namespace MemberOrder.Text

def AllBlank (t : Text) : Prop := ∀ c ∈ t, isBlank c = true

instance (t : Text) : Decidable (AllBlank t) :=
  decidable_of_iff (t.all isBlank = true) List.all_eq_true

def solid (t : Text) : Text := t.filter fun c => !isBlank c

@[simp] theorem solid_append (s t : Text) : solid (s ++ t) = solid s ++ solid t :=
  List.filter_append ..

theorem AllBlank.solid_eq_nil {t : Text} (blank : AllBlank t) : solid t = [] :=
  List.filter_eq_nil_iff.mpr fun c member => by simp [blank c member]

theorem AllBlank.append {s t : Text} (first : AllBlank s) (second : AllBlank t) :
    AllBlank (s ++ t) :=
  List.forall_mem_append.mpr ⟨first, second⟩

theorem allBlank_of_isPrefix {s t : Text} (initial : s <+: t) (blank : AllBlank t) : AllBlank s :=
  fun c member => blank c (initial.subset member)

theorem allBlank_of_isIndent {t : Text} (indented : t.all isIndent = true) : AllBlank t := by
  intro c member
  have indent : isIndent c = true := List.all_eq_true.mp indented c member
  simp only [isIndent, Bool.or_eq_true, beq_iff_eq] at indent
  rcases indent with rfl | rfl <;> decide

theorem allBlank_lineEnding (ending : LineEnding) : AllBlank ending.text := by
  cases ending <;> decide

/-! ## Blanks between spans -/

/-- Only blanks stand between the end of one span and the start of another. -/
def Adjacent (source : Text) (s t : Span) : Prop := AllBlank (source.slice ⟨s.stop, t.start⟩)

/-- Between two offsets only blanks stand outside the spans. -/
def BlankOutside (source : Text) : Nat → List Span → Nat → Prop
  | low, [], high => AllBlank (source.slice ⟨low, high⟩)
  | low, s :: rest, high =>
    AllBlank (source.slice ⟨low, s.start⟩) ∧ BlankOutside source s.stop rest high

instance decidableBlankOutside (source : Text) : (low : Nat) → (spans : List Span) →
    (high : Nat) → Decidable (BlankOutside source low spans high)
  | _, [], _ => inferInstanceAs (Decidable (AllBlank _))
  | _, s :: rest, high =>
    haveI := decidableBlankOutside source s.stop rest high
    inferInstanceAs (Decidable (AllBlank _ ∧ _))

theorem BlankOutside.isChain {source : Text} {low high : Nat} {spans : List Span}
    (blank : BlankOutside source low spans high) : spans.IsChain source.Adjacent := by
  induction spans generalizing low with
  | nil => exact .nil
  | cons s rest ih =>
    cases rest with
    | nil => exact .singleton s
    | cons t rest => exact .cons_cons blank.2.1 (ih blank.2)

/-- The texts behind the spans, each up to the next span and the last one up to `stop`. -/
def gaps (source : Text) (stop : Nat) : List Span → List Text
  | [] => []
  | s :: rest =>
    source.slice ⟨s.stop, (rest.head?.map Span.start).getD stop⟩ :: gaps source stop rest

@[simp] theorem length_gaps (source : Text) (stop : Nat) (spans : List Span) :
    (source.gaps stop spans).length = spans.length := by
  induction spans with
  | nil => rfl
  | cons s rest ih => rw [gaps, List.length_cons, List.length_cons, ih]

theorem getLast?_gaps {source : Text} {stop : Nat} {spans : List Span} {last : Span}
    (tail : spans.getLast? = some last) :
    (source.gaps stop spans).getLast? = some (source.slice ⟨last.stop, stop⟩) := by
  induction spans with
  | nil => cases tail
  | cons s rest ih =>
    cases rest with
    | nil =>
      cases tail
      rfl
    | cons t rest => exact ih tail

theorem allBlank_gaps {source : Text} {stop : Nat} {spans : List Span}
    (chain : spans.IsChain source.Adjacent)
    (blank : ∀ last ∈ spans.getLast?, AllBlank (source.slice ⟨last.stop, stop⟩)) :
    ∀ gap ∈ source.gaps stop spans, AllBlank gap := by
  induction spans with
  | nil => simp [gaps]
  | cons s rest ih =>
    cases rest with
    | nil => exact List.forall_mem_singleton.mpr (blank s rfl)
    | cons t rest =>
      obtain ⟨adjacent, chain⟩ := List.isChain_cons_cons.mp chain
      exact List.forall_mem_cons.mpr ⟨adjacent, ih chain blank⟩

/-- Spans in order cut a text into pieces, with a gap behind each of them. -/
theorem slice_eq_flatten {source : Text} {span first : Span} {spans : List Span}
    (head : spans.head? = some first) (start : span.start = first.start)
    (ordered : Span.InOrder span.start spans span.stop)
    (cuts : ∀ s ∈ spans, source.IsCut s.start ∧ source.IsCut s.stop)
    (stopCut : source.IsCut span.stop) :
    source.slice span =
      (List.zipWith (· ++ ·) (spans.map source.slice) (source.gaps span.stop spans)).flatten := by
  obtain ⟨rest, rfl⟩ := List.head?_eq_some_iff.mp head
  clear head
  obtain ⟨low, stop⟩ := span
  induction rest generalizing first low with
  | nil =>
    cases start
    obtain ⟨-, width, reach⟩ := ordered
    obtain ⟨startCut, firstCut⟩ := cuts first List.mem_cons_self
    simp [gaps, slice_append_slice startCut firstCut stopCut width reach]
  | cons next rest ih =>
    cases start
    obtain ⟨-, width, between, later⟩ := ordered
    obtain ⟨⟨startCut, firstCut⟩, others⟩ := List.forall_mem_cons.mp cuts
    have nextCut := (others next List.mem_cons_self).1
    have fromNext : Span.InOrder next.start (next :: rest) stop := ⟨Nat.le_refl _, later⟩
    rw [List.map_cons, gaps, List.zipWith_cons_cons, List.flatten_cons,
      ← ih others next.start rfl stopCut fromNext, List.append_assoc]
    -- The piece, the gap behind it and everything from the next span on.
    rw [← slice_append_slice startCut firstCut stopCut width (Nat.le_trans between fromNext.le),
      ← slice_append_slice firstCut nextCut stopCut between fromNext.le]
    rfl

/-! ## Tilings -/

/-- The text is the parts in order, each with blanks behind it. -/
def Tiles : List Text → Text → Prop
  | [], t => t = []
  | part :: rest, t => ∃ blanks later, t = part ++ (blanks ++ later) ∧ AllBlank blanks ∧
    Tiles rest later

theorem tiles_singleton (part : Text) : Tiles [part] part :=
  ⟨[], [], by simp, by simp [AllBlank], rfl⟩

theorem Tiles.append {parts others : List Text} {s blanks t : Text} (first : Tiles parts s)
    (nonempty : parts ≠ []) (blank : AllBlank blanks) (second : Tiles others t) :
    Tiles (parts ++ others) (s ++ (blanks ++ t)) := by
  induction parts generalizing s with
  | nil => exact absurd rfl nonempty
  | cons part rest ih =>
    obtain ⟨between, later, split, blank', tiles⟩ := first
    cases rest with
    | nil =>
      have last : later = [] := tiles
      refine ⟨between ++ blanks, t, ?_, blank'.append blank, second⟩
      simp [split, last]
    | cons next rest =>
      refine ⟨between, later ++ (blanks ++ t), ?_, blank', ih tiles (by simp)⟩
      simp [split]

/-- Blanks at the end belong to the last part. -/
theorem Tiles.append_blank {parts : List Text} {t blanks : Text} (tiles : Tiles parts t)
    (nonempty : parts ≠ []) (blank : AllBlank blanks) : Tiles parts (t ++ blanks) := by
  have joined := tiles.append nonempty blank (show Tiles [] [] from rfl)
  simpa using joined

theorem tiles_zipWith {parts blanks : List Text} (length : blanks.length = parts.length)
    (blank : ∀ b ∈ blanks, AllBlank b) :
    Tiles parts (List.zipWith (· ++ ·) parts blanks).flatten := by
  induction parts generalizing blanks with
  | nil => rfl
  | cons part rest ih =>
    cases blanks with
    | nil => cases length
    | cons b blanks =>
      obtain ⟨here, others⟩ := List.forall_mem_cons.mp blank
      exact ⟨b, _, by simp, here, ih (Nat.succ.inj length) others⟩

/-- Texts that tile their own parts, joined by blanks, tile all parts together. -/
theorem tiles_join {α : Type} {separator : Text} (blank : AllBlank separator)
    {render : α → Text} {parts : α → List Text} (units : List α)
    (each : ∀ u ∈ units, parts u ≠ [] ∧ Tiles (parts u) (render u)) :
    Tiles (units.flatMap parts) (join separator (units.map render)) := by
  induction units with
  | nil => rfl
  | cons u units ih =>
    obtain ⟨⟨nonempty, here⟩, others⟩ := List.forall_mem_cons.mp each
    have later := ih others
    cases units with
    | nil => simpa using here
    | cons v units =>
      rw [List.flatMap_cons, List.map_cons, List.map_cons, join_cons_cons, List.append_assoc]
      exact here.append nonempty blank later

theorem Tiles.solid_eq {parts : List Text} {t : Text} (tiles : Tiles parts t) :
    solid t = solid parts.flatten := by
  induction parts generalizing t with
  | nil =>
    have empty : t = [] := tiles
    rw [empty]
    rfl
  | cons part rest ih =>
    obtain ⟨blanks, later, split, blank, tiles⟩ := tiles
    rw [split, solid_append, solid_append, blank.solid_eq_nil, ih tiles, List.flatten_cons,
      solid_append]
    rfl

/-- Two tilings of the same parts, in whatever order, have the same characters but for blanks. -/
theorem Tiles.solid_perm {parts others : List Text} {s t : Text} (first : Tiles parts s)
    (second : Tiles others t) (rearranged : parts.Perm others) : (solid s).Perm (solid t) := by
  rw [first.solid_eq, second.solid_eq]
  exact rearranged.flatten.filter _

end MemberOrder.Text
