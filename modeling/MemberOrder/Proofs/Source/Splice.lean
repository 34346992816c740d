import Mathlib.Data.List.Nodup
import MemberOrder.Proofs.Source.Safety

/-! Ranges replaced all at once and one by one.

A splice copies the source in a single pass. If the ranges are apart, the same text comes out when
they are replaced one after the other, the last in the source first, so that no offset that is still
needed shifts. The order in which the replacements are listed does not matter, and what lies outside
the ranges is kept as it is.
-/

set_option autoImplicit false

namespace MemberOrder

/-! ## Ranges apart -/

/-- Neither range reaches into the other; they may touch. -/
def Span.Apart (s t : Span) : Prop := s.stop ≤ t.start ∨ t.stop ≤ s.start

instance (s t : Span) : Decidable (s.Apart t) := inferInstanceAs (Decidable (_ ∨ _))

theorem Span.Apart.symm {s t : Span} (apart : s.Apart t) : t.Apart s := Or.symm apart

theorem Span.inOrder_of_pairwise {low high : Nat} {spans : List Span} (le : low ≤ high)
    (bounds : ∀ s ∈ spans, low ≤ s.start ∧ s.start ≤ s.stop ∧ s.stop ≤ high)
    (ascending : spans.Pairwise fun s t => s.stop ≤ t.start) : Span.InOrder low spans high := by
  induction spans generalizing low with
  | nil => exact le
  | cons s rest ih =>
    obtain ⟨⟨start, width, stop⟩, others⟩ := List.forall_mem_cons.mp bounds
    obtain ⟨behind, ascending⟩ := List.pairwise_cons.mp ascending
    exact ⟨start, width, ih stop (fun t member => ⟨behind t member, (others t member).2⟩) ascending⟩

namespace Text

/-- Every range holds something, begins and ends between characters of the source, and is apart from
the others. -/
structure Replaceable (source : Text) (replacements : List Replacement) : Prop where
  filled : ∀ r ∈ replacements, r.span.start < r.span.stop
  cuts : ∀ r ∈ replacements, source.IsCut r.span.start ∧ source.IsCut r.span.stop
  apart : replacements.Pairwise fun r s => r.span.Apart s.span

theorem IsCut.le {t : Text} {n : Nat} (cut : IsCut t n) : n ≤ byteSize t := by
  have whole := congrArg byteSize (takeBytes_append_dropBytes n t)
  rw [byteSize_append, cut] at whole
  omega

namespace Replaceable

variable {source : Text} {replacements others : List Replacement}

theorem perm (replaceable : source.Replaceable replacements) (perm : others.Perm replacements) :
    source.Replaceable others where
  filled := fun r member => replaceable.filled r (perm.mem_iff.mp member)
  cuts := fun r member => replaceable.cuts r (perm.mem_iff.mp member)
  apart := (perm.pairwise_iff Span.Apart.symm).mpr replaceable.apart

theorem starts_nodup (replaceable : source.Replaceable replacements) :
    (replacements.map (·.span.start)).Nodup := by
  refine List.pairwise_map.mpr (List.Pairwise.imp_of_mem ?_ replaceable.apart)
  intro r s first second apart same
  have := replaceable.filled r first
  have := replaceable.filled s second
  unfold Span.Apart at apart
  omega

end Replaceable

theorem startsBefore_trans (a b c : Replacement) (first : startsBefore a b = true)
    (second : startsBefore b c = true) : startsBefore a c = true := by
  simp only [startsBefore, decide_eq_true_eq] at first second ⊢
  omega

theorem startsBefore_total (a b : Replacement) : (startsBefore a b || startsBefore b a) = true := by
  simp only [startsBefore, Bool.or_eq_true, decide_eq_true_eq]
  omega

theorem pairwise_starts (replacements : List Replacement) :
    (replacements.mergeSort startsBefore).Pairwise fun r s => r.span.start ≤ s.span.start :=
  (List.pairwise_mergeSort startsBefore_trans startsBefore_total replacements).imp
    fun le => of_decide_eq_true le

namespace Replaceable

variable {source : Text} {replacements others : List Replacement}

theorem sorted (replaceable : source.Replaceable replacements) :
    source.Replaceable (replacements.mergeSort startsBefore) :=
  replaceable.perm (List.mergeSort_perm replacements startsBefore)

theorem eq_mergeSort (replaceable : source.Replaceable replacements)
    (perm : others.Perm replacements)
    (ascending : others.Pairwise fun r s => r.span.start ≤ s.span.start) :
    others = replacements.mergeSort startsBefore := by
  have perm' := perm.trans (List.mergeSort_perm replacements startsBefore).symm
  -- No two ranges begin at one offset, so there is one way to sort them.
  refine List.Perm.eq_of_pairwise ?_ ascending (pairwise_starts replacements) perm'
  intro r s first second le ge
  exact List.inj_on_of_nodup_map replaceable.sorted.starts_nodup (perm'.mem_iff.mp first) second
    (Nat.le_antisymm le ge)

theorem inOrder (replaceable : source.Replaceable replacements) :
    Span.InOrder 0 ((replacements.mergeSort startsBefore).map (·.span)) (byteSize source) := by
  have sorted := replaceable.sorted
  apply Span.inOrder_of_pairwise (Nat.zero_le _)
  · intro s member
    obtain ⟨r, listed, rfl⟩ := List.mem_map.mp member
    exact ⟨Nat.zero_le _, Nat.le_of_lt (sorted.filled r listed), (sorted.cuts r listed).2.le⟩
  · rw [List.pairwise_map]
    refine List.Pairwise.imp_of_mem ?_ ((pairwise_starts replacements).and sorted.apart)
    rintro r s first second ⟨le, apart⟩
    -- The later range cannot end before the earlier one begins, as it holds something.
    have filled := sorted.filled s second
    rcases apart with behind | before
    · exact behind
    · omega

end Replaceable

/-! ## One by one -/

def replaceOne (t : Text) (r : Replacement) : Text :=
  t.takeBytes r.span.start ++ r.text ++ t.dropBytes r.span.stop

/-- The ranges replaced one after the other, from the highest start to the lowest. -/
def replaceEach (source : Text) (replacements : List Replacement) : Text :=
  (replacements.mergeSort fun a b => startsBefore b a).foldl replaceOne source

theorem IsCut.takeBytes_append {t : Text} {m n : Nat} (first : IsCut t m) (last : IsCut t n)
    (le : m ≤ n) (rest : Text) : takeBytes m (takeBytes n t ++ rest) = takeBytes m t := by
  have piece := takeBytes_byteSize (takeBytes m t) (slice t ⟨m, n⟩ ++ rest)
  rwa [first, ← List.append_assoc, takeBytes_append_slice first last le] at piece

theorem IsCut.dropBytes_append {t : Text} {n : Nat} (cut : IsCut t n) (rest : Text) :
    dropBytes n (takeBytes n t ++ rest) = rest := by
  have piece := dropBytes_byteSize (takeBytes n t) rest
  rwa [cut] at piece

theorem takeBytes_append_spliceFrom {source : Text} {cursor high : Nat}
    {replacements : List Replacement} (cut : source.IsCut cursor)
    (ordered : Span.InOrder cursor (replacements.map (·.span)) high)
    (cuts : ∀ r ∈ replacements, source.IsCut r.span.start ∧ source.IsCut r.span.stop) :
    source.takeBytes cursor ++ source.spliceFrom cursor replacements =
      replacements.foldr (fun r t => replaceOne t r) source := by
  -- When all ranges behind the cursor have been replaced, the source is untouched up to it. The
  -- next range to replace ends where the cursor then stands.
  induction replacements generalizing cursor with
  | nil => exact takeBytes_append_dropBytes cursor source
  | cons r more ih =>
    obtain ⟨before, width, later⟩ := ordered
    obtain ⟨⟨startCut, stopCut⟩, others⟩ := List.forall_mem_cons.mp cuts
    rw [List.foldr_cons, ← ih stopCut later others, replaceOne,
      startCut.takeBytes_append stopCut width, stopCut.dropBytes_append, spliceFrom,
      ← takeBytes_append_slice cut startCut before]
    simp

theorem Replaceable.mergeSort_backwards {source : Text} {replacements : List Replacement}
    (replaceable : source.Replaceable replacements) :
    replacements.mergeSort (fun a b => startsBefore b a) =
      (replacements.mergeSort startsBefore).reverse := by
  have descending := List.pairwise_mergeSort
    (fun a b c first second => startsBefore_trans c b a second first)
    (fun a b => startsBefore_total b a) replacements
  have same := replaceable.eq_mergeSort
    ((List.reverse_perm _).trans (List.mergeSort_perm replacements fun a b => startsBefore b a))
    (List.pairwise_reverse.mpr (descending.imp fun le => of_decide_eq_true le))
  rw [← same, List.reverse_reverse]

theorem splice_eq_replaceEach {source : Text} {replacements : List Replacement}
    (replaceable : source.Replaceable replacements) :
    source.splice replacements = source.replaceEach replacements := by
  have pass := takeBytes_append_spliceFrom source.isCut_zero replaceable.inOrder
    replaceable.sorted.cuts
  rw [takeBytes_zero, List.nil_append] at pass
  rw [splice, pass, replaceEach, replaceable.mergeSort_backwards, List.foldl_reverse]

/-! ## Outside the ranges -/

/-- The characters that begin in none of the spans, of a text that begins at the offset. -/
def outsideFrom (spans : List Span) : Nat → Text → Text
  | _, [] => []
  | offset, c :: rest =>
    let later := outsideFrom spans (offset + c.utf8Size) rest
    if ∃ s ∈ spans, s.start ≤ offset ∧ offset < s.stop then later else c :: later

def outside (source : Text) (spans : List Span) : Text := outsideFrom spans 0 source

theorem outsideFrom_append (spans : List Span) (offset : Nat) (s t : Text) :
    outsideFrom spans offset (s ++ t) =
      outsideFrom spans offset s ++ outsideFrom spans (offset + byteSize s) t := by
  induction s generalizing offset with
  | nil => rfl
  | cons c s ih =>
    rw [List.cons_append, outsideFrom, outsideFrom, ih, byteSize_cons, Nat.add_assoc]
    split <;> rfl

theorem outsideFrom_of_clear {spans : List Span} {offset : Nat} {t : Text}
    (clear : ∀ s ∈ spans, s.stop ≤ offset ∨ offset + byteSize t ≤ s.start) :
    outsideFrom spans offset t = t := by
  induction t generalizing offset with
  | nil => rfl
  | cons c t ih =>
    have positive := c.utf8Size_pos
    have here : ¬ ∃ s ∈ spans, s.start ≤ offset ∧ offset < s.stop := by
      rintro ⟨s, member, inside⟩
      have := clear s member
      rw [byteSize_cons] at this
      omega
    rw [outsideFrom, if_neg here, ih]
    intro s member
    have := clear s member
    rw [byteSize_cons] at this
    omega

theorem outsideFrom_of_covered {spans : List Span} {offset : Nat} {t : Text} {s : Span}
    (member : s ∈ spans) (start : s.start ≤ offset) (stop : offset + byteSize t ≤ s.stop) :
    outsideFrom spans offset t = [] := by
  induction t generalizing offset with
  | nil => rfl
  | cons c t ih =>
    have positive := c.utf8Size_pos
    rw [byteSize_cons] at stop
    rw [outsideFrom, if_pos ⟨s, member, start, by omega⟩]
    exact ih (by omega) (by omega)

/-- The pieces with a text before each of them, and `front` before all. -/
def weave (front : Text) (texts pieces : List Text) : Text :=
  front ++ (List.zipWith (· ++ ·) texts pieces).flatten

theorem weave_cons (front text piece : Text) (texts pieces : List Text) :
    weave front (text :: texts) (piece :: pieces) = front ++ (text ++ weave piece texts pieces) := by
  simp [weave]

theorem Patched.exists_weave {source t out : Text} {cursor high : Nat}
    {replacements : List Replacement} {spans : List Span}
    (patched : Patched cursor t replacements out) (cut : source.IsCut cursor)
    (here : source.dropBytes cursor = t)
    (ordered : Span.InOrder cursor (replacements.map (·.span)) high)
    (listed : ∀ r ∈ replacements, r.span ∈ spans)
    (clear : ∀ s ∈ spans, s.stop ≤ cursor ∨ s ∈ replacements.map (·.span)) :
    ∃ front kept, kept.length = replacements.length ∧
      t = weave front (replacements.map fun r => source.slice r.span) kept ∧
      out = weave front (replacements.map (·.text)) kept ∧
      outsideFrom spans cursor t = front ++ kept.flatten := by
  -- At every stage the spans are behind the cursor but for those still to be replaced.
  induction patched with
  | rest cursor kept =>
    refine ⟨kept, [], rfl, by simp [weave], by simp [weave], ?_⟩
    rw [List.flatten_nil, List.append_nil]
    apply outsideFrom_of_clear
    intro s member
    left
    simpa using clear s member
  | @replace cursor kept old later out r more start stop patched ih =>
    obtain ⟨piece, stopCut, fromStop⟩ := cut.replaced here start stop
    obtain ⟨before, width, behind⟩ := ordered
    obtain ⟨hereListed, moreListed⟩ := List.forall_mem_cons.mp listed
    have clearBehind : ∀ s ∈ spans, s.stop ≤ r.span.stop ∨ s ∈ more.map (·.span) := by
      intro s member
      rcases clear s member with passed | waiting
      · left
        omega
      · rcases List.mem_cons.mp waiting with rfl | later
        · exact Or.inl (Nat.le_refl _)
        · exact Or.inr later
    obtain ⟨front, pieces, length, oldText, newText, outside⟩ :=
      ih stopCut fromStop behind moreListed clearBehind
    refine ⟨kept, front :: pieces, by simp [length], ?_, ?_, ?_⟩
    · rw [List.map_cons, weave_cons, ← oldText, piece]
    · rw [List.map_cons, weave_cons, ← newText]
    · have keptOutside : outsideFrom spans cursor kept = kept := by
        apply outsideFrom_of_clear
        intro s member
        rcases clear s member with passed | waiting
        · exact Or.inl passed
        · right
          rw [start]
          rcases List.mem_cons.mp waiting with rfl | later
          · exact Nat.le_refl _
          · exact Nat.le_trans width (behind.bounds later).1
      have oldInside : outsideFrom spans (cursor + byteSize kept) old = [] :=
        outsideFrom_of_covered hereListed (by omega) (by omega)
      rw [outsideFrom_append, outsideFrom_append, keptOutside, oldInside, start, stop, outside,
        List.nil_append, List.flatten_cons]

/-- A splice takes no slice out of range. It replaces the ranges as one would one by one from the
last to the first, in whatever order they are listed, and puts each new text between the pieces
that the old ones stood between, which are the source without the ranges. -/
theorem splice_faithful {source : Text} {replacements : List Replacement}
    (replaceable : source.Replaceable replacements) :
    Guarded.splice source replacements = some (source.splice replacements) ∧
      source.splice replacements = source.replaceEach replacements ∧
      (∀ others : List Replacement, others.Perm replacements →
        source.splice others = source.splice replacements) ∧
      ∃ sorted : List Replacement, sorted.Perm replacements ∧
        sorted.Pairwise (fun r s => r.span.stop ≤ s.span.start) ∧
        ∃ front kept, kept.length = sorted.length ∧
          source = weave front (sorted.map fun r => source.slice r.span) kept ∧
          source.splice replacements = weave front (sorted.map (·.text)) kept ∧
          source.outside (replacements.map (·.span)) = front ++ kept.flatten := by
  have ordered := replaceable.inOrder
  have cuts := replaceable.sorted.cuts
  have perm := List.mergeSort_perm replacements startsBefore
  refine ⟨Guarded.spliceFrom_eq source.isCut_zero ordered cuts,
    splice_eq_replaceEach replaceable, ?_, ?_⟩
  · intro others listed
    have same := replaceable.eq_mergeSort ((List.mergeSort_perm others startsBefore).trans listed)
      (pairwise_starts others)
    rw [splice, same, splice]
  · have patched := patched_spliceFrom source.isCut_zero ordered cuts
    obtain ⟨front, kept, length, oldText, newText, outside⟩ := patched.exists_weave
      source.isCut_zero rfl ordered (fun r member => List.mem_map_of_mem (perm.mem_iff.mp member))
      fun s member => Or.inr ((perm.map _).mem_iff.mpr member)
    rw [dropBytes_zero] at oldText outside
    have ascending := (List.pairwise_map.mp ordered.pairwise).imp fun apart => apart.2
    exact ⟨_, perm, ascending, front, kept, length, oldText, newText, outside⟩

namespace Touching

def source : Text := "aéb€c".toList

/-- Three ranges that touch, listed out of order. -/
def replacements : List Replacement :=
  [⟨⟨4, 7⟩, []⟩, ⟨⟨1, 3⟩, "xyz".toList⟩, ⟨⟨3, 4⟩, "é".toList⟩]

theorem replaceable : source.Replaceable replacements := ⟨by decide, by decide, by decide⟩

theorem splice_eq : source.splice replacements = "axyzéc".toList := by
  have sorted : [⟨⟨1, 3⟩, "xyz".toList⟩, ⟨⟨3, 4⟩, "é".toList⟩, ⟨⟨4, 7⟩, []⟩] =
      replacements.mergeSort startsBefore :=
    replaceable.eq_mergeSort (by decide) (by decide)
  rw [splice, ← sorted]
  decide

end Touching

theorem splice_faithful_touching :
    Touching.source.Replaceable Touching.replacements ∧
      Touching.source.splice Touching.replacements = "axyzéc".toList ∧
      Touching.source.replaceEach Touching.replacements = "axyzéc".toList ∧
      Touching.source.splice Touching.replacements.reverse = "axyzéc".toList ∧
      Touching.source.outside (Touching.replacements.map (·.span)) = "ac".toList := by
  obtain ⟨-, backwards, anyOrder, -⟩ := splice_faithful Touching.replaceable
  refine ⟨Touching.replaceable, Touching.splice_eq, ?_, ?_, by decide⟩
  · rw [← backwards, Touching.splice_eq]
  · rw [anyOrder _ (List.reverse_perm _), Touching.splice_eq]

end Text

end MemberOrder
