import MemberOrder.Proofs.Text.Offset
import MemberOrder.Source.Splice

/-! What replacing ranges of a text keeps.

The result is described piece by piece: the kept pieces stand in both texts, and between them the
old text of each range has given way to the new one.
-/

set_option autoImplicit false

namespace MemberOrder

namespace Text

/-- The second text is the first with the ranges replaced in order and all else kept. The first
begins at the offset `cursor` of the text that the ranges are taken in. -/
inductive Patched : Nat → Text → List Replacement → Text → Prop where
  | rest (cursor : Nat) (kept : Text) : Patched cursor kept [] kept
  | replace {cursor : Nat} {kept old later out : Text} {r : Replacement} {more : List Replacement}
      (start : cursor + byteSize kept = r.span.start)
      (stop : r.span.start + byteSize old = r.span.stop)
      (patched : Patched r.span.stop later more out) :
      Patched cursor (kept ++ (old ++ later)) (r :: more) (kept ++ (r.text ++ out))

/-- What is replaced is the text of the range, and the rest begins behind the range. -/
theorem IsCut.replaced {source kept old later : Text} {cursor : Nat} {span : Span}
    (cut : source.IsCut cursor) (here : source.dropBytes cursor = kept ++ (old ++ later))
    (start : cursor + byteSize kept = span.start) (stop : span.start + byteSize old = span.stop) :
    source.slice span = old ∧ source.IsCut span.stop ∧ source.dropBytes span.stop = later := by
  have startCut := cut.add here
  have fromStart := cut.dropBytes_add here
  rw [start] at startCut fromStart
  have piece := slice_of_dropBytes fromStart
  have stopCut := startCut.add fromStart
  have fromStop := startCut.dropBytes_add fromStart
  rw [stop] at piece stopCut fromStop
  exact ⟨piece, stopCut, fromStop⟩

/-- Every new text stands in the result, and behind it the patched rest. -/
theorem Patched.at_replacement {source t out : Text} {cursor : Nat}
    {replacements earlier more : List Replacement} {r : Replacement}
    (patched : Patched cursor t replacements out) (cut : source.IsCut cursor)
    (here : source.dropBytes cursor = t) (split : replacements = earlier ++ r :: more) :
    ∃ before after, out = before ++ (r.text ++ after) ∧
      Patched r.span.stop (source.dropBytes r.span.stop) more after := by
  induction patched generalizing earlier with
  | rest cursor kept => simp at split
  | @replace cursor kept old later out first others start stop patched ih =>
    obtain ⟨-, stopCut, fromStop⟩ := cut.replaced here start stop
    cases earlier with
    | nil =>
      cases split
      exact ⟨kept, out, rfl, by rwa [fromStop]⟩
    | cons _ earlier =>
      obtain ⟨before, after, joined, rest⟩ := ih stopCut fromStop (List.cons.inj split).2
      exact ⟨kept ++ (first.text ++ before), after, by simp [joined], rest⟩

/-- What stands before every range is kept. -/
theorem Patched.keeps {s u out : Text} {cursor : Nat} {replacements : List Replacement}
    (patched : Patched cursor (s ++ u) replacements out)
    (clear : ∀ r ∈ replacements, cursor + byteSize s ≤ r.span.start) : ∃ v, out = s ++ v := by
  generalize whole : s ++ u = t at patched
  cases patched with
  | rest => exact ⟨u, whole.symm⟩
  | @replace _ kept old later out r more start stop patched =>
    have reach := clear r List.mem_cons_self
    have initial : s <+: kept := by
      rcases List.append_eq_append_iff.mp whole with ⟨rest, split, -⟩ | ⟨rest, split, -⟩
      · exact ⟨rest, split.symm⟩
      · -- Both have the same size, so nothing of `s` lies behind `kept`.
        have size := congrArg byteSize split
        rw [byteSize_append] at size
        have empty : rest = [] := by
          cases rest with
          | nil => rfl
          | cons c rest =>
            have positive := c.utf8Size_pos
            rw [byteSize_cons] at size
            omega
        exact ⟨[], by simp [split, empty]⟩
    obtain ⟨rest, rfl⟩ := initial
    exact ⟨rest ++ (r.text ++ out), List.append_assoc ..⟩

theorem patched_spliceFrom {source : Text} {cursor high : Nat} {replacements : List Replacement}
    (cut : source.IsCut cursor)
    (ordered : Span.InOrder cursor (replacements.map (·.span)) high)
    (cuts : ∀ r ∈ replacements, source.IsCut r.span.start ∧ source.IsCut r.span.stop) :
    Patched cursor (source.dropBytes cursor) replacements
      (source.spliceFrom cursor replacements) := by
  induction replacements generalizing cursor with
  | nil => exact .rest cursor _
  | cons r more ih =>
    obtain ⟨before, width, later⟩ := ordered
    obtain ⟨⟨startCut, stopCut⟩, cuts⟩ := List.forall_mem_cons.mp cuts
    rw [spliceFrom, ← slice_append_dropBytes cut startCut before,
      ← slice_append_dropBytes startCut stopCut width, List.append_assoc]
    refine .replace ?_ ?_ (ih stopCut later cuts)
    · rw [byteSize_slice cut startCut before]
      exact Nat.add_sub_of_le before
    · rw [byteSize_slice startCut stopCut width]
      exact Nat.add_sub_of_le width

theorem mergeSort_of_inOrder {low high : Nat} {replacements : List Replacement}
    (ordered : Span.InOrder low (replacements.map (·.span)) high) :
    replacements.mergeSort startsBefore = replacements := by
  apply List.mergeSort_of_pairwise
  exact (List.pairwise_map.mp ordered.pairwise).imp fun apart =>
    decide_eq_true (Nat.le_trans apart.1 apart.2)

theorem splice_of_inOrder {source : Text} {low high : Nat} {replacements : List Replacement}
    (ordered : Span.InOrder low (replacements.map (·.span)) high) :
    source.splice replacements = source.spliceFrom 0 replacements := by
  rw [splice, mergeSort_of_inOrder ordered]

/-- Replacing ranges that follow one another between characters changes these ranges only. -/
theorem patched_splice {source : Text} {low high : Nat} {replacements : List Replacement}
    (ordered : Span.InOrder low (replacements.map (·.span)) high)
    (cuts : ∀ r ∈ replacements, source.IsCut r.span.start ∧ source.IsCut r.span.stop) :
    Patched 0 source replacements (source.splice replacements) := by
  rw [splice_of_inOrder ordered]
  have patched := patched_spliceFrom source.isCut_zero (ordered.weaken (Nat.zero_le low)) cuts
  rwa [dropBytes_zero] at patched

end Text

end MemberOrder
