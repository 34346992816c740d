import Mathlib.Data.List.Basic
import MemberOrder.Config.Search
import MemberOrder.Config.Toml
import MemberOrder.Disk

/-! Which settings a search comes back with.

The nearest settings file up the directories is meant to count, and the standard settings where that
file is broken. The search passes over a broken file as it does over a missing one. So what it comes
back with are the nearest settings that are valid, and a file farther up can step in for a broken
one.
-/

set_option autoImplicit false

namespace MemberOrder

namespace Path

def up? (p : Path) : Nat → Option Path
  | 0 => some p
  | levels + 1 => p.parent?.bind fun parent => parent.up? levels

theorem getElem?_ancestors (p : Path) (depth n : Nat) :
    (p.ancestors depth)[n]? = if n < depth then p.up? n else none := by
  induction depth generalizing p n with
  | zero => simp [ancestors]
  | succ depth ih =>
    cases n with
    | zero => simp [ancestors, up?]
    | succ n => cases parent : p.parent? <;> simp [ancestors, up?, parent, ih]

theorem getElem?_ancestors_eq_some {p q : Path} {depth n : Nat} :
    (p.ancestors depth)[n]? = some q ↔ n < depth ∧ p.up? n = some q := by
  rw [getElem?_ancestors]
  split <;> simp [*]

theorem mem_ancestors {p q : Path} {depth : Nat} :
    q ∈ p.ancestors depth ↔ ∃ n < depth, p.up? n = some q := by
  simp only [List.mem_iff_getElem?, getElem?_ancestors_eq_some]

end Path

namespace Config

variable {parse : String → Option Config} {read : Path → Except FileFault String} {start : Path}

/-! ## The nearest directory that has an answer -/

section

variable {α : Type} {answer? : Path → Option α} {answer : α}

/-- Of the directories searched, the nearest that has an answer at all gives this one. -/
def FirstUp (start : Path) (answer? : Path → Option α) (answer : α) : Prop :=
  ∃ n < searchDepth,
    (∃ directory, start.up? n = some directory ∧ answer? directory = some answer) ∧
    ∀ m < n, ∀ directory, start.up? m = some directory → answer? directory = none

theorem firstUp_iff :
    FirstUp start answer? answer ↔
      (start.ancestors searchDepth).findSome? answer? = some answer := by
  rw [List.findSome?_eq_some_iff]
  constructor
  · rintro ⟨n, inside, ⟨directory, found, answers⟩, silent⟩
    obtain ⟨bound, same⟩ := List.getElem?_eq_some_iff.mp
      (Path.getElem?_ancestors_eq_some.mpr ⟨inside, found⟩)
    refine ⟨(start.ancestors searchDepth).take n, directory,
      (start.ancestors searchDepth).drop (n + 1), ?_, answers, ?_⟩
    · rw [← same, List.getElem_cons_drop, List.take_append_drop]
    · intro nearer member
      obtain ⟨m, taken⟩ := List.mem_iff_getElem?.mp member
      rw [List.getElem?_take] at taken
      split at taken
      case isTrue before =>
        exact silent m before nearer (Path.getElem?_ancestors_eq_some.mp taken).2
      case isFalse => cases taken
  · rintro ⟨before, directory, after, split, answers, silent⟩
    have here : (start.ancestors searchDepth)[before.length]? = some directory := by simp [split]
    obtain ⟨inside, found⟩ := Path.getElem?_ancestors_eq_some.mp here
    refine ⟨before.length, inside, ⟨directory, found, answers⟩, ?_⟩
    intro m nearer other above
    refine silent other ?_
    have there := Path.getElem?_ancestors_eq_some.mpr ⟨Nat.lt_trans nearer inside, above⟩
    rw [split, List.getElem?_append_left nearer] at there
    exact List.mem_of_getElem? there

theorem findSome?_ancestors_eq_none :
    (start.ancestors searchDepth).findSome? answer? = none ↔
      ∀ n < searchDepth, ∀ directory, start.up? n = some directory → answer? directory = none := by
  simp only [List.findSome?_eq_none_iff, Path.mem_ancestors]
  constructor
  · intro silent n inside directory found
    exact silent directory ⟨n, inside, found⟩
  · rintro silent directory ⟨n, inside, found⟩
    exact silent n inside directory found

end

/-! ## Candidates -/

/-- What the settings file of a directory amounts to; none if there is no such file. -/
def candidate? (parse : String → Option Config) (read : Path → Except FileFault String)
    (directory : Path) : Option (Except Error Config) :=
  match load parse read (directory.join fileName) with
  | .error (.unreadable _ .notFound) => none
  | settings => some settings

def valid? (parse : String → Option Config) (read : Path → Except FileFault String)
    (directory : Path) : Option Config :=
  (load parse read (directory.join fileName)).toOption

theorem valid?_eq_bind (directory : Path) :
    valid? parse read directory = (candidate? parse read directory).bind Except.toOption := by
  unfold valid? candidate?
  split
  case h_1 missing => rw [missing]; rfl
  case h_2 => rfl

theorem search_eq_getD :
    search parse read start =
      ((start.ancestors searchDepth).findSome? (valid? parse read)).getD standard :=
  rfl

theorem findSome?_valid?_of_candidate? {config : Config} {directories : List Path}
    (nearest : directories.findSome? (candidate? parse read) = some (.ok config)) :
    directories.findSome? (valid? parse read) = some config := by
  obtain ⟨before, directory, after, rfl, valid, missing⟩ := List.findSome?_eq_some_iff.mp nearest
  refine List.findSome?_eq_some_iff.mpr ⟨before, directory, after, rfl, ?_, ?_⟩
  · rw [valid?_eq_bind, valid]
    rfl
  · intro nearer member
    rw [valid?_eq_bind, missing nearer member]
    rfl

/-- What is meant to be found: the settings in the nearest file if they are valid, and the standard
ones if they are not or if there is no file. -/
inductive Discovers (parse : String → Option Config) (read : Path → Except FileFault String)
    (start : Path) : Config → Prop where
  | valid {config : Config} (nearest : FirstUp start (candidate? parse read) (.ok config)) :
      Discovers parse read start config
  | broken {error : Error} (nearest : FirstUp start (candidate? parse read) (.error error)) :
      Discovers parse read start standard
  | missing (none : ∀ n < searchDepth, ∀ directory, start.up? n = some directory →
      candidate? parse read directory = none) : Discovers parse read start standard

theorem Discovers.eq_standard {error : Error} {config : Config}
    (broken : FirstUp start (candidate? parse read) (.error error))
    (discovers : Discovers parse read start config) : config = standard := by
  cases discovers with
  | valid nearest =>
    have same := (firstUp_iff.mp broken).symm.trans (firstUp_iff.mp nearest)
    cases same
  | broken => rfl
  | missing => rfl

/-- The nearest file is broken, and the nearest valid settings, farther up, are not the standard
ones. -/
def Overruled (parse : String → Option Config) (read : Path → Except FileFault String)
    (start : Path) : Prop :=
  ∃ error config, FirstUp start (candidate? parse read) (.error error) ∧
    FirstUp start (valid? parse read) config ∧ config ≠ standard

theorem search_of_firstUp {config : Config} (nearest : FirstUp start (valid? parse read) config) :
    search parse read start = config := by
  rw [search_eq_getD, firstUp_iff.mp nearest]
  rfl

theorem search_of_none (none : ∀ config, ¬ FirstUp start (valid? parse read) config) :
    search parse read start = standard := by
  rw [search_eq_getD]
  cases found : (start.ancestors searchDepth).findSome? (valid? parse read) with
  | none => rfl
  | some config => exact absurd (firstUp_iff.mpr found) (none config)

theorem search_congr {other : Path → Except FileFault String}
    (alike : ∀ n < searchDepth, ∀ directory, start.up? n = some directory →
      other (directory.join fileName) = read (directory.join fileName)) :
    search parse other start = search parse read start := by
  have same (directory : Path) (member : directory ∈ start.ancestors searchDepth) :
      valid? parse other directory = valid? parse read directory := by
    obtain ⟨n, inside, found⟩ := Path.mem_ancestors.mp member
    simp only [valid?, load, alike n inside directory found]
  rw [search_eq_getD, search_eq_getD, ← List.head?_filterMap, ← List.head?_filterMap,
    List.filterMap_congr same]

theorem discovers_search_iff :
    Discovers parse read start (search parse read start) ↔ ¬ Overruled parse read start := by
  constructor
  · rintro discovers ⟨error, config, broken, valid, differs⟩
    rw [search_of_firstUp valid] at discovers
    exact differs (discovers.eq_standard broken)
  · intro kept
    cases nearest : (start.ancestors searchDepth).findSome? (candidate? parse read) with
    | none =>
      have missing := findSome?_ancestors_eq_none.mp nearest
      have standard : search parse read start = standard := by
        rw [search_eq_getD, findSome?_ancestors_eq_none.mpr]
        · rfl
        · intro n inside directory found
          rw [valid?_eq_bind, missing n inside directory found]
          rfl
      rw [standard]
      exact .missing missing
    | some settings =>
      cases settings with
      | ok config =>
        rw [search_of_firstUp (firstUp_iff.mpr (findSome?_valid?_of_candidate? nearest))]
        exact .valid (firstUp_iff.mpr nearest)
      | error error =>
        have broken := firstUp_iff.mpr nearest
        have standard : search parse read start = standard := by
          by_cases some : ∃ config, FirstUp start (valid? parse read) config
          · obtain ⟨config, valid⟩ := some
            rw [search_of_firstUp valid]
            by_contra differs
            exact kept ⟨error, config, broken, valid, differs⟩
          · exact search_of_none (not_exists.mp some)
        rw [standard]
        exact .broken broken

/-- A search comes back with the nearest valid settings among its ten directories, and with the
standard ones if there are none. That is what is meant to be found unless valid settings step in for
a broken nearest file. -/
theorem search_eq_nearest (parse : String → Option Config)
    (read : Path → Except FileFault String) (start : Path) :
    (Discovers parse read start (search parse read start) ↔ ¬ Overruled parse read start) ∧
    (∀ config, FirstUp start (valid? parse read) config → search parse read start = config) ∧
    ((∀ config, ¬ FirstUp start (valid? parse read) config) → search parse read start = standard) ∧
    ∀ other : Path → Except FileFault String,
      (∀ n < searchDepth, ∀ directory, start.up? n = some directory →
        other (directory.join fileName) = read (directory.join fileName)) →
      search parse other start = search parse read start :=
  ⟨discovers_search_iff, fun _ => search_of_firstUp, search_of_none, fun _ => search_congr⟩

namespace SteppedIn

/-- A broken settings file, and above it one that has overloads rejected. -/
def disk : Disk where
  root := .directory [
    (fileName, .file "[sorting]\noverloads = \"reject\"\n".toUTF8),
    ("pkg", .directory [(fileName, .file "nonsense".toUTF8)])]
  workingDirectory := []
  writeLimit := none

def rejecting : Config := { standard with sorting := ⟨.reject, SkipTag.standard⟩ }

theorem nearest : FirstUp ⟨"pkg"⟩ (candidate? ofToml? disk.read) (.error .invalid) :=
  firstUp_iff.mpr (by decide +kernel)

end SteppedIn

/-- The settings above a broken file are found in place of the standard ones. -/
theorem search_steps_over_broken :
    FirstUp ⟨"pkg"⟩ (candidate? ofToml? SteppedIn.disk.read) (.error .invalid) ∧
      search ofToml? SteppedIn.disk.read ⟨"pkg"⟩ = SteppedIn.rejecting ∧
      Discovers ofToml? SteppedIn.disk.read ⟨"pkg"⟩ standard ∧
      ¬ Discovers ofToml? SteppedIn.disk.read ⟨"pkg"⟩
        (search ofToml? SteppedIn.disk.read ⟨"pkg"⟩) := by
  have found : search ofToml? SteppedIn.disk.read ⟨"pkg"⟩ = SteppedIn.rejecting := by decide +kernel
  refine ⟨SteppedIn.nearest, found, .broken SteppedIn.nearest, fun discovers => ?_⟩
  rw [found] at discovers
  have same : SteppedIn.rejecting = standard := discovers.eq_standard SteppedIn.nearest
  exact absurd same (by decide)

end Config

end MemberOrder
