import Mathlib.Data.List.Forall2
import MemberOrder.Class.Canonical
import MemberOrder.Class.Overload
import MemberOrder.Proofs.Bucket.CanonicalOrder

/-! From the entries of a class to its members.

Grouping overloads and extracting members keeps every text: read in order, the signatures and the
own text of each member are the texts of the entries. A class that has a member behind every
handle is processed, and a class fails only with an error of its own when overloads are grouped.
-/

set_option autoImplicit false

namespace MemberOrder

section Results

variable {α β ε : Type} {f : α → Except ε β}

theorem mapM_eq_ok_iff {xs : List α} {ys : List β} :
    xs.mapM f = .ok ys ↔ List.Forall₂ (fun x y => f x = .ok y) xs ys := by
  induction xs generalizing ys with
  | nil =>
    rw [List.mapM_nil, List.forall₂_nil_left_iff]
    exact ⟨fun same => (Except.ok.inj same).symm, fun same => congrArg Except.ok same.symm⟩
  | cons x xs ih =>
    rw [List.mapM_cons, List.forall₂_cons_left_iff]
    cases first : f x with
    | error e =>
      constructor
      · intro failed
        cases failed
      · rintro ⟨y, rest, found, -⟩
        cases found
    | ok y =>
      cases others : xs.mapM f with
      | error e =>
        constructor
        · intro failed
          cases failed
        · rintro ⟨y', rest, -, all, -⟩
          rw [ih.mpr all] at others
          cases others
      | ok rest =>
        constructor
        · intro done
          cases done
          exact ⟨y, rest, rfl, ih.mp others, rfl⟩
        · rintro ⟨y', rest', found, all, rfl⟩
          rw [ih.mpr all] at others
          cases found
          cases others
          rfl

/-- The first element that fails decides the error. -/
theorem mapM_eq_error_iff {xs : List α} {e : ε} :
    xs.mapM f = .error e ↔ ∃ x, xs.find? (fun x => !(f x).isOk) = some x ∧ f x = .error e := by
  induction xs with
  | nil => simp [pure, Except.pure]
  | cons x xs ih =>
    rw [List.mapM_cons, List.find?_cons]
    cases first : f x with
    | error e' => simp [first, bind, Except.bind, Except.isOk, Except.toBool]
    | ok y =>
      refine Iff.trans ?_ ih
      cases xs.mapM f with
      | error e' => simp [bind, Except.bind]
      | ok rest => simp [bind, Except.bind, pure, Except.pure]

theorem mapM_eq_error {xs : List α} {e : ε} (failed : xs.mapM f = .error e) :
    ∃ x ∈ xs, f x = .error e := by
  obtain ⟨x, found, here⟩ := mapM_eq_error_iff.mp failed
  exact ⟨x, List.mem_of_find?_eq_some found, here⟩

end Results

/-! ## Handles -/

def Handle.parts (h : Handle) : List Text := h.overloads ++ [h.text]

def Member.parts (m : Member) : List Text := m.overloads ++ [m.text]

def ClassDecl.parts (c : ClassDecl) : List Text := c.members.flatMap Handle.parts

theorem orphans_parts (source : Text) (waiting : List Entry) :
    (orphans source waiting).flatMap Handle.parts = waiting.map (Entry.text source) := by
  induction waiting with
  | nil => rfl
  | cons e rest ih => simpa [orphans, Handle.parts, Entry.toHandle] using ih

/-- Grouping keeps the texts and their order, whatever signatures wait. -/
theorem groupFrom_parts (source : Text) (waiting entries : List Entry) :
    (groupFrom source waiting entries).flatMap Handle.parts =
      (waiting ++ entries).map (Entry.text source) := by
  fun_induction groupFrom source waiting entries with
  | case1 waiting => simp [orphans_parts]
  | case2 waiting e rest signature last latest same ih => simp [ih]
  | case3 waiting e rest signature last latest differs ih =>
    simp [orphans_parts, ih]
  | case4 waiting e rest signature none ih =>
    rw [List.getLast?_eq_none_iff.mp none, ih]
    rfl
  | case5 waiting e rest other implementing ih =>
    simp [ih, Handle.parts, Entry.toHandle]
  | case6 waiting e rest other alone ih =>
    simp [ih, orphans_parts, Handle.parts, Entry.toHandle]

theorem groupOverloads_parts (source : Text) (entries : List Entry) :
    (groupOverloads source entries).flatMap Handle.parts = entries.map (Entry.text source) :=
  groupFrom_parts source [] entries

/-- Every handle is that of an entry. -/
theorem mem_groupFrom {source : Text} {waiting entries : List Entry} {h : Handle}
    (member : h ∈ groupFrom source waiting entries) :
    ∃ e ∈ waiting ++ entries, ∃ overloads, h = e.toHandle source overloads := by
  have orphan {waiting : List Entry} (orphaned : h ∈ orphans source waiting) :
      ∃ e ∈ waiting, ∃ overloads, h = e.toHandle source overloads := by
    obtain ⟨e, inside, rfl⟩ := List.mem_map.mp orphaned
    exact ⟨e, inside, [], rfl⟩
  fun_induction groupFrom source waiting entries with
  | case1 waiting => simpa using orphan member
  | case2 waiting e rest signature last latest same ih => simpa using ih member
  | case3 waiting e rest signature last latest differs ih => grind
  | case4 waiting e rest signature none ih => grind
  | case5 waiting e rest other implementing ih => grind
  | case6 waiting e rest other alone ih => grind

/-! ## Members -/

/-- What a member keeps of its handle. -/
theorem Handle.toMember_eq_ok {className : String} {policy : OverloadPolicy} {h : Handle}
    {m : Member} (made : h.toMember className policy = .ok m) :
    m.overloads = h.overloads ∧ m.text = h.text ∧
      m.endsWithLineComment = h.endsWithLineComment := by
  unfold Handle.toMember at made
  split at made
  case h_1 => cases made
  case h_2 => cases made
  case h_3 =>
    split at made
    · cases made
    · split at made
      · cases made
      · cases made
        exact ⟨rfl, rfl, rfl⟩

/-- Grouped overloads concern no more than their class. -/
theorem Handle.toMember_group_error {className : String} {h : Handle} {error : SortError}
    (failed : h.toMember className .group = .error error) : error.isFileLevel = false := by
  unfold Handle.toMember at failed
  split at failed
  case h_1 => cases failed; rfl
  case h_2 => cases failed; rfl
  case h_3 =>
    split at failed
    · cases failed
      rfl
    · simp at failed

namespace ClassDecl

variable {policy : OverloadPolicy} {c : ClassDecl} {members : List Member}

theorem extract_eq_ok (extracted : c.extract policy = .ok members) :
    List.Forall₂ (fun h m => Handle.toMember c.displayName policy h = .ok m) c.members members :=
  mapM_eq_ok_iff.mp extracted

theorem extract_parts (extracted : c.extract policy = .ok members) :
    members.flatMap Member.parts = c.parts := by
  have made := extract_eq_ok extracted
  unfold ClassDecl.parts
  -- The induction is on the handles and their members side by side.
  clear extracted
  generalize c.members = handles at made
  induction made with
  | nil => rfl
  | cons made _ ih =>
    obtain ⟨overloads, text, -⟩ := Handle.toMember_eq_ok made
    rw [List.flatMap_cons, List.flatMap_cons, Member.parts, Handle.parts, overloads, text, ih]

theorem extract_group_error {error : SortError} (failed : c.extract .group = .error error) :
    error.isFileLevel = false := by
  obtain ⟨h, -, found⟩ := mapM_eq_error failed
  exact Handle.toMember_group_error found

theorem process_of_extract (extracted : c.extract policy = .ok members) :
    c.process policy = .ok {
      className := c.displayName
      sourceOrder := members.map Member.signature
      newOrder := (canonicalOrder members).map Member.signature
      text := if members.map Member.signature = (canonicalOrder members).map Member.signature
        then none else some (c.rebuild (Buckets.ofMembers members).sorted) } := by
  rw [process, extracted]
  rfl

theorem process_eq_ok {result : ClassResult} (processed : c.process policy = .ok result) :
    ∃ members, c.extract policy = .ok members := by
  unfold process at processed
  cases extracted : c.extract policy with
  | error e =>
    rw [extracted] at processed
    cases processed
  | ok members => exact ⟨members, rfl⟩

theorem process_group_error {error : SortError} (failed : c.process .group = .error error) :
    error.isFileLevel = false := by
  unfold process at failed
  cases extracted : c.extract .group with
  | error e =>
    rw [extracted] at failed
    cases failed
    exact extract_group_error extracted
  | ok members =>
    rw [extracted] at failed
    cases failed

/-- What goes between a member list with the given last member and the code on its last line. -/
def separator (c : ClassDecl) (last : Option Member) : Text :=
  match c.closing with
  | some line =>
    if last.any (·.endsWithLineComment) then c.lineEnding.text ++ line.indent else line.gap
  | none => []

/-- The new member list: the members in canonical order, and the separator. -/
theorem rebuild_eq (c : ClassDecl) (members : List Member) :
    c.rebuild (Buckets.ofMembers members).sorted =
      Text.join (c.lineEnding.text ++ c.lineEnding.text)
        ((canonicalOrder members).map (Member.render c.lineEnding.text)) ++
      c.separator (canonicalOrder members).getLast? := by
  unfold rebuild separator Buckets.closingSeparator canonicalOrder
  cases c.closing with
  | none => rfl
  | some line =>
    cases (Buckets.ofMembers members).sorted.toList.getLast? with
    | none => rfl
    | some last => rfl

/-- A class whose order changes has members, and its new text lists them in canonical order. -/
theorem text_of_process {result : ClassResult} {text : Text}
    (processed : c.process policy = .ok result) (changed : result.text = some text) :
    ∃ members, c.extract policy = .ok members ∧ members ≠ [] ∧
      text = c.rebuild (Buckets.ofMembers members).sorted := by
  obtain ⟨members, extracted⟩ := process_eq_ok processed
  rw [process_of_extract extracted] at processed
  cases processed
  simp only at changed
  split at changed
  · cases changed
  case isFalse differs =>
    refine ⟨members, extracted, ?_, (Option.some.inj changed).symm⟩
    rintro rfl
    exact differs (by rw [(canonicalOrder_perm []).eq_nil])

theorem members_ne_nil (extracted : c.extract policy = .ok members) (nonempty : members ≠ []) :
    c.members ≠ [] := by
  intro none
  have made := extract_eq_ok extracted
  rw [none, List.forall₂_nil_left_iff] at made
  exact nonempty made

end ClassDecl

end MemberOrder
