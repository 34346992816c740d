import Mathlib.Data.List.TakeWhile
import MemberOrder.Proofs.Text.LineBreak
import MemberOrder.Proofs.Text.Tiling

/-! The words of a text.

The words are the maximal runs without blanks. Any blanks may stand around and between them, so
trimming keeps the words. Joined by a separator that no part holds, a list can be read back, and
one joined list stands inside another exactly if their parts line up.
-/

set_option autoImplicit false

namespace MemberOrder.Text

/-! ## Words and blanks -/

/-- The text is the words in order, with blanks between neighbours and any blanks around them. -/
inductive Worded : List Text → Text → Prop where
  | blank {t : Text} (blank : AllBlank t) : Worded [] t
  | word {blanks word later : Text} {rest : List Text} (blank : AllBlank blanks)
      (nonempty : word ≠ []) (solid : ∀ c ∈ word, isBlank c = false)
      (apart : ∀ c ∈ later.head?, isBlank c = true) (worded : Worded rest later) :
      Worded (word :: rest) (blanks ++ (word ++ later))

theorem allBlank_nil : AllBlank [] := fun _ member => nomatch member

theorem allBlank_singleton {c : Char} (blank : isBlank c = true) : AllBlank [c] :=
  List.forall_mem_singleton.mpr blank

theorem words_cons_of_blank {c : Char} (blank : isBlank c = true) (t : Text) :
    words (c :: t) = words t := by
  cases t <;> simp [words, blank]

theorem words_cons_of_solid {c d : Char} {t word : Text} {others : List Text}
    (here : isBlank c = false) (next : isBlank d = false)
    (rest : words (d :: t) = word :: others) : words (c :: d :: t) = (c :: word) :: others := by
  rw [words.eq_def]
  simp [here, next, rest]

theorem words_append_of_blank {blanks : Text} (blank : AllBlank blanks) (t : Text) :
    words (blanks ++ t) = words t := by
  induction blanks with
  | nil => rfl
  | cons c blanks ih =>
    obtain ⟨here, others⟩ := List.forall_mem_cons.mp blank
    rw [List.cons_append, words_cons_of_blank here, ih others]

theorem words_append_of_solid {word later : Text} (nonempty : word ≠ [])
    (solid : ∀ c ∈ word, isBlank c = false) (apart : ∀ c ∈ later.head?, isBlank c = true) :
    words (word ++ later) = word :: words later := by
  induction word with
  | nil => exact absurd rfl nonempty
  | cons c word ih =>
    obtain ⟨here, others⟩ := List.forall_mem_cons.mp solid
    cases word with
    | nil =>
      cases later with
      | nil => simp [words, here]
      | cons d later => simp [words, here, apart d rfl]
    | cons d word =>
      exact words_cons_of_solid here (others d List.mem_cons_self) (ih (by simp) others)

namespace Worded

variable {ws : List Text} {t blanks : Text}

theorem begin {word later : Text} {rest : List Text} (nonempty : word ≠ [])
    (solid : ∀ c ∈ word, isBlank c = false) (apart : ∀ c ∈ later.head?, isBlank c = true)
    (worded : Worded rest later) : Worded (word :: rest) (word ++ later) :=
  .word allBlank_nil nonempty solid apart worded

theorem append_left (worded : Worded ws t) (blank : AllBlank blanks) :
    Worded ws (blanks ++ t) := by
  cases worded with
  | blank all => exact .blank (blank.append all)
  | word before nonempty solid apart worded =>
    rw [← List.append_assoc]
    exact .word (blank.append before) nonempty solid apart worded

theorem append_right (worded : Worded ws t) (blank : AllBlank blanks) :
    Worded ws (t ++ blanks) := by
  induction worded with
  | blank all => exact .blank (all.append blank)
  | @word before word later rest blank' nonempty solid apart worded ih =>
    rw [List.append_assoc, List.append_assoc]
    refine .word blank' nonempty solid ?_ ih
    intro c head
    -- What follows the word begins with the text behind it or, if there is none, with the blanks.
    cases later with
    | nil => exact blank c (List.mem_of_mem_head? head)
    | cons d later => exact apart c head

theorem cons_word {c d : Char} {word : Text} (worded : Worded (word :: ws) (d :: t))
    (solid : isBlank c = false) (solid' : isBlank d = false) :
    Worded ((c :: word) :: ws) (c :: d :: t) := by
  generalize whole : d :: t = text at worded
  cases worded with
  | @word blanks _ later _ blank nonempty others apart worded =>
    -- No blanks stand before the word, as the text begins with another character.
    cases blanks with
    | nil => exact .begin (by simp) (List.forall_mem_cons.mpr ⟨solid, others⟩) apart worded
    | cons b blanks =>
      cases (List.cons.inj whole).1
      rw [blank d List.mem_cons_self] at solid'
      cases solid'

-- So a text is divided into words in one way only.
theorem words_eq (worded : Worded ws t) : words t = ws := by
  induction worded with
  | @blank t all => simpa [words] using words_append_of_blank all []
  | @word blanks word later rest blank nonempty solid apart worded ih =>
    rw [words_append_of_blank blank, words_append_of_solid nonempty solid apart, ih]

end Worded

theorem worded_words (t : Text) : Worded (words t) t := by
  -- The cases are what the scan sees: the end, a blank, a word that ends here or goes on.
  fun_induction words t with
  | case1 => exact .blank allBlank_nil
  | case2 c rest blank ih => exact ih.append_left (allBlank_singleton blank)
  | case3 c solid => exact .begin (by simp) (by simpa using solid) (by simp) (.blank allBlank_nil)
  | case4 c solid d rest blank ih =>
    exact .begin (by simp) (by simpa using solid) (by simpa using blank) ih
  | case5 c solid d rest solid' none ih =>
    rw [none] at ih
    cases ih with
    | blank all => exact absurd (all d List.mem_cons_self) solid'
  | case6 c solid d rest solid' word others found ih =>
    rw [found] at ih ⊢
    exact ih.cons_word (by simpa using solid) (by simpa using solid')

theorem Worded.mem {ws : List Text} {t word : Text} (worded : Worded ws t) (member : word ∈ ws) :
    word ≠ [] ∧ ∀ c ∈ word, isBlank c = false := by
  induction worded with
  | blank => cases member
  | word _ nonempty solid _ _ ih =>
    rcases List.mem_cons.mp member with rfl | later
    · exact ⟨nonempty, solid⟩
    · exact ih later

/-! ## Trimming -/

theorem exists_trim (t : Text) :
    ∃ front back, t = front ++ (trim t ++ back) ∧ AllBlank front ∧ AllBlank back := by
  have all (s : Text) : AllBlank (s.takeWhile isBlank) := fun c member =>
    List.all_eq_true.mp List.all_takeWhile c member
  refine ⟨t.takeWhile isBlank, ((t.dropWhile isBlank).reverse.takeWhile isBlank).reverse, ?_,
    all t, fun c member => all _ c (List.mem_reverse.mp member)⟩
  rw [trim, ← List.reverse_append, List.takeWhile_append_dropWhile, List.reverse_reverse,
    List.takeWhile_append_dropWhile]

@[simp] theorem words_trim (t : Text) : words (trim t) = words t := by
  obtain ⟨front, back, split, blank, blank'⟩ := exists_trim t
  have worded := ((worded_words (trim t)).append_right blank').append_left blank
  rw [← split] at worded
  exact worded.words_eq.symm

theorem trim_eq_nil_iff (t : Text) : trim t = [] ↔ words t = [] := by
  constructor
  · intro none
    rw [← words_trim, none, words]
  · intro none
    have worded := worded_words t
    rw [none] at worded
    cases worded with
    | blank all => simp [trim, List.dropWhile_eq_nil_iff.mpr all]

/-! ## Parts that were joined -/

theorem splitOn_cons_self (separator : Char) (t : Text) :
    splitOn separator (separator :: t) = [] :: splitOn separator t := by
  rw [splitOn, if_pos rfl]

theorem splitOn_ne_nil (separator : Char) (t : Text) : splitOn separator t ≠ [] := by
  fun_cases splitOn separator t <;> simp

theorem splitOn_cons {separator c : Char} {t first : Text} {tail : List Text}
    (other : c ≠ separator) (rest : splitOn separator t = first :: tail) :
    splitOn separator (c :: t) = (c :: first) :: tail := by
  rw [splitOn, if_neg other, rest]

/-- Where two texts meet, the last part of one and the first of the other become one part. -/
theorem splitOn_append {separator : Char} {s t last first : Text} {init tail : List Text}
    (front : splitOn separator s = init ++ [last]) (back : splitOn separator t = first :: tail) :
    splitOn separator (s ++ t) = init ++ (last ++ first) :: tail := by
  induction s generalizing init last with
  | nil =>
    rcases List.singleton_eq_append_iff.mp front with ⟨rfl, same⟩ | ⟨-, none⟩
    · cases same
      exact back
    · cases none
  | cons c s ih =>
    obtain ⟨part, others, rest⟩ := List.exists_cons_of_ne_nil (splitOn_ne_nil separator s)
    by_cases here : c = separator
    · subst here
      rw [splitOn_cons_self] at front
      rw [List.cons_append, splitOn_cons_self]
      rcases List.cons_eq_append_iff.mp front with ⟨-, single⟩ | ⟨init, rfl, later⟩
      · rw [rest] at single
        cases single
      · rw [ih later, List.cons_append]
    · rw [splitOn_cons here rest] at front
      rw [List.cons_append]
      rcases List.cons_eq_append_iff.mp front with ⟨rfl, single⟩ | ⟨init, rfl, others⟩
      · cases single
        have met : splitOn separator (s ++ t) = [] ++ (part ++ first) :: tail := ih rest
        exact splitOn_cons here met
      · have met : splitOn separator (s ++ t) = (part :: init) ++ (last ++ first) :: tail :=
          ih (by rw [rest, others, List.cons_append])
        exact splitOn_cons here met

theorem splitOn_of_notMem {separator : Char} {t : Text} (absent : separator ∉ t) :
    splitOn separator t = [t] := by
  induction t with
  | nil => rfl
  | cons c t ih =>
    rw [List.mem_cons, not_or] at absent
    exact splitOn_cons (Ne.symm absent.1) (ih absent.2)

/-- Parts that do not hold the separator are read back from the text they are joined to. -/
theorem splitOn_join {separator : Char} {parts : List Text} (nonempty : parts ≠ [])
    (absent : ∀ part ∈ parts, separator ∉ part) :
    splitOn separator (join [separator] parts) = parts := by
  induction parts with
  | nil => exact absurd rfl nonempty
  | cons part parts ih =>
    obtain ⟨here, others⟩ := List.forall_mem_cons.mp absent
    have single : splitOn separator part = [] ++ [part] := splitOn_of_notMem here
    cases parts with
    | nil => exact single
    | cons next parts =>
      have later : splitOn separator ([separator] ++ join [separator] (next :: parts)) =
          [] :: next :: parts := by
        rw [List.singleton_append, splitOn_cons_self, ih (by simp) others]
      rw [join_cons_cons, List.append_assoc, splitOn_append single later, List.append_nil]
      rfl

-- A joined text may be cut inside any of its parts.
theorem join_append_cons (separator s t : Text) (init tail : List Text) :
    join separator (init ++ (s ++ t) :: tail) =
      join separator (init ++ [s]) ++ join separator (t :: tail) := by
  induction init with
  | nil => cases tail <;> simp
  | cons part init ih =>
    cases init with
    | nil => simpa using ih
    | cons next init => simpa using ih

/-! ## Words inside words -/

/-- The words stand in a row of words: a single one inside some word, and several over as many words,
where the first ends a word, the last begins one and those between are whole words. -/
inductive StandIn : List Text → List Text → Prop where
  | single {only word : Text} {row : List Text} (member : word ∈ row) (inside : only <:+: word) :
      StandIn [only] row
  | several {first last begun ended : Text} {middle before after : List Text}
      (ends : first <:+ begun) (begins : last <+: ended) :
      StandIn (first :: (middle ++ [last])) (before ++ begun :: (middle ++ ended :: after))

theorem join_isInfix_iff {separator : Char} {ws row : List Text} (nonempty : ws ≠ [])
    (filled : ∀ w ∈ ws, w ≠ []) (absent : ∀ w ∈ ws, separator ∉ w)
    (absent' : ∀ w ∈ row, separator ∉ w) :
    join [separator] ws <:+: join [separator] row ↔ StandIn ws row := by
  have read := splitOn_join nonempty absent
  constructor
  · rintro ⟨pre, post, whole⟩
    have rowNonempty : row ≠ [] := by
      rintro rfl
      have empty : join [separator] ws = [] := by
        rw [join_nil, List.append_eq_nil_iff, List.append_eq_nil_iff] at whole
        exact whole.1.2
      rw [empty] at read
      exact filled [] (by rw [← read]; exact List.mem_cons_self) rfl
    have parts := splitOn_join rowNonempty absent'
    rw [← whole, List.append_assoc] at parts
    have left := (List.dropLast_append_getLast (splitOn_ne_nil separator pre)).symm
    obtain ⟨y, after, right⟩ := List.exists_cons_of_ne_nil (splitOn_ne_nil separator post)
    -- The last part before the joined list and the first behind it lengthen the words at its ends.
    obtain ⟨first, tail, rfl⟩ := List.exists_cons_of_ne_nil nonempty
    rcases List.eq_nil_or_concat tail with rfl | ⟨middle, last, rfl⟩
    · have inner := splitOn_append (read.trans (List.nil_append [first]).symm) right
      rw [splitOn_append left inner] at parts
      rw [← parts]
      exact .single (List.mem_append_right _ List.mem_cons_self) ⟨_, y, List.append_assoc ..⟩
    · rw [List.concat_eq_append] at read parts ⊢
      have inner := splitOn_append (read.trans List.cons_append.symm) right
      rw [splitOn_append left inner] at parts
      rw [← parts]
      exact .several (List.suffix_append _ first) (List.prefix_append last y)
  · intro standIn
    cases standIn with
    | @single only word _ member inside =>
      obtain ⟨before, after, rfl⟩ := List.append_of_mem member
      obtain ⟨pre, post, rfl⟩ := inside
      refine ⟨join [separator] (before ++ [pre]), join [separator] (post :: after), ?_⟩
      rw [List.append_assoc pre, join_append_cons, List.append_assoc]
      congr 1
      exact (join_append_cons [separator] only post [] after).symm
    | @several first last begun ended middle before after ends begins =>
      obtain ⟨pre, rfl⟩ := ends
      obtain ⟨post, rfl⟩ := begins
      refine ⟨join [separator] (before ++ [pre]), join [separator] (post :: after), ?_⟩
      rw [join_append_cons, List.append_assoc]
      congr 1
      exact (join_append_cons [separator] last post (first :: middle) after).symm

end MemberOrder.Text
