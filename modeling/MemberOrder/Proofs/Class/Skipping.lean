import MemberOrder.Config.Basic
import MemberOrder.Proofs.Text.Words

/-! Which classes a tag excludes.

Only the words of the tag and of the doc comment count, not the blanks between them: a tag of one
word is looked for inside the words of the comment, and one of several words across a row of them.
The settings trim the tag first, which changes no word of it, and a tag without words excludes no
class.
-/

set_option autoImplicit false

namespace MemberOrder

namespace Text

theorem normalizeBlanks_eq_nil_iff (t : Text) : normalizeBlanks t = [] ↔ words t = [] := by
  constructor
  · intro none
    have worded := worded_words t
    unfold normalizeBlanks at none
    cases listed : words t with
    | nil => rfl
    | cons word rest =>
      rw [listed] at none worded
      have filled := (worded.mem List.mem_cons_self).1
      cases rest with
      | nil => exact absurd none filled
      | cons next rest => simp [filled] at none
  · intro none
    rw [normalizeBlanks, none, join_nil]

theorem space_notMem_of_mem_words {t word : Text} (member : word ∈ words t) : ' ' ∉ word := by
  intro inside
  have solid := ((worded_words t).mem member).2 ' ' inside
  exact absurd solid (by decide)

end Text

namespace SkipTag

open Text (words Worded StandIn)

theorem marks_iff (tag doc : Text) : marks tag doc = true ↔ StandIn (words tag) (words doc) := by
  unfold marks
  rw [Bool.and_eq_true, Bool.not_eq_true', List.isEmpty_eq_false_iff, Text.occursIn_iff, ne_eq,
    Text.normalizeBlanks_eq_nil_iff]
  by_cases none : words tag = []
  · rw [none]
    constructor
    · rintro ⟨some, -⟩
      exact absurd rfl some
    · intro standIn
      cases standIn
  · have inside := Text.join_isInfix_iff none
      (fun word member => ((Text.worded_words tag).mem member).1)
      (fun word member => Text.space_notMem_of_mem_words member)
      (fun word (member : word ∈ words doc) => Text.space_notMem_of_mem_words member)
    rw [← inside]
    exact and_iff_right none

theorem filter_iff (tag : String) (c : ClassDecl) :
    filter tag c = true ↔ ∃ doc ∈ c.doc, StandIn (words tag.toList) (words doc) := by
  unfold filter
  cases c.doc with
  | none => simp
  | some doc => simp [marks_iff]

theorem filter_congr {tag tag' : String} (same : words tag.toList = words tag'.toList) :
    filter tag = filter tag' := by
  funext c
  rw [Bool.eq_iff_iff, filter_iff, filter_iff, same]

theorem filter?_eq (tag : String) :
    filter? tag = if words tag.toList = [] then none else some (filter tag) := by
  have trimmed : filter (String.ofList (Text.trim tag.toList)) = filter tag :=
    filter_congr (by simp)
  simp only [filter?, trimmed, List.isEmpty_iff, Text.trim_eq_nil_iff]

theorem filter_of_no_words {tag : String} (none : words tag.toList = []) :
    filter tag = ClassFilter.none := by
  funext c
  apply Bool.eq_false_iff.mpr
  intro skipped
  obtain ⟨doc, -, standIn⟩ := (filter_iff tag c).mp skipped
  rw [none] at standIn
  cases standIn

/-- A tag excludes the classes in whose doc comment its words stand, whatever blanks are between
words. The settings turn the filter off exactly for a tag without words, and any other tag excludes
the same classes trimmed or not. -/
theorem filter_wordwise (tag : String) :
    (∀ c : ClassDecl, filter tag c = true ↔
      ∃ doc ∈ c.doc, StandIn (words tag.toList) (words doc)) ∧
    (∀ (tag' : String) (c c' : ClassDecl) (doc doc' : Text), c.doc = some doc →
      c'.doc = some doc' → Worded (words tag.toList) tag'.toList → Worded (words doc) doc' →
      filter tag' c' = filter tag c) ∧
    (filter? tag = none ↔ words tag.toList = []) ∧
    (∀ f, filter? tag = some f → f = filter tag) ∧
    ∀ policy : OverloadPolicy, Config.Sorting.skip ⟨policy, tag⟩ = filter tag := by
  refine ⟨filter_iff tag, ?_, ?_, ?_, ?_⟩
  · intro tag' c c' doc doc' found found' tagWords docWords
    rw [Bool.eq_iff_iff, filter_iff, filter_iff, found, found', tagWords.words_eq]
    simp [docWords.words_eq]
  · rw [filter?_eq]
    split
    case isTrue none => simp [none]
    case isFalse some => simp [some]
  · intro f found
    rw [filter?_eq] at found
    split at found
    · cases found
    · exact (Option.some.inj found).symm
  · intro policy
    rw [Config.Sorting.skip, filter?_eq]
    split
    case isTrue none => rw [filter_of_no_words none, Option.getD_none]
    case isFalse => rfl

example : marks standard.toList "/**\n * x@internal_sort\t\n skipped */".toList = true := by decide

end SkipTag

end MemberOrder
