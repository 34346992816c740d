import MemberOrder.Proofs.Command.Run

/-! What the terminal report says was sorted.

The report of a real run names and counts the files that were to change. These are the written ones
exactly if no write failed; a file whose write failed is announced as sorted all the same.
-/

set_option autoImplicit false

namespace MemberOrder

namespace RunSummary

/-! ## Announcements -/

def savedLine (color : Bool) (path : Path) : String :=
  Style.boldGreen.paint color "Sorted and saved:" ++ " " ++ path.text

def countLine (color : Bool) (n : Nat) : String :=
  Style.boldGreen.paint color "Sorted members in:" ++ " " ++ toString n ++ " files"

def listedLine (path : Path) (classes : List String) : String :=
  "  " ++ path.text ++ " (" ++ ", ".intercalate classes ++ ")"

/-- Only files that were written are said to be sorted, and as many as were written. -/
structure Truthful (color : Bool) (s : RunSummary) : Prop where
  saved : s.singleFile = true → ∀ path, savedLine color path ∈ s.lines color → path ∈ s.written
  listed : s.singleFile = false →
    ∀ line ∈ s.changedLines, ∃ path ∈ s.written, ∃ classes, line = listedLine path classes
  counted : s.singleFile = false →
    ∀ n, countLine color n ∈ s.lines color → n = s.written.length

variable {color : Bool} {s : RunSummary}

theorem savedLine_inj {p q : Path} (same : savedLine color p = savedLine color q) : p = q := by
  cases p
  cases q
  simpa [savedLine] using same

theorem countLine_inj {m n : Nat} (same : countLine color m = countLine color n) : m = n := by
  simp only [countLine, String.append_left_inj, String.append_right_inj] at same
  -- The digits say what the number is.
  have digits : Nat.toDigits 10 m = Nat.toDigits 10 n := by
    rw [← Nat.toList_repr, ← Nat.toList_repr, ← Nat.toString_eq_repr, same, Nat.toString_eq_repr]
  rw [← Nat.ofDigitChars_ten_toDigits (n := m), digits, Nat.ofDigitChars_ten_toDigits]

/-- The line begins in bold green and with the word for what was done. -/
def isAnnouncement (color : Bool) (line : String) : Bool :=
  ((if color then "\x1b[" ++ Style.boldGreen.code ++ "m" else "") ++ "Sorted ").toList.isPrefixOf
    line.toList

theorem isAnnouncement_savedLine (color : Bool) (path : Path) :
    isAnnouncement color (savedLine color path) = true := by
  cases color <;> simp [isAnnouncement, savedLine, Style.paint, Style.code, String.toList_append]

theorem isAnnouncement_countLine (color : Bool) (n : Nat) :
    isAnnouncement color (countLine color n) = true := by
  cases color <;> simp [isAnnouncement, countLine, Style.paint, Style.code, String.toList_append]

theorem isAnnouncement_of_mem_changedLines {line : String} (member : line ∈ s.changedLines) :
    isAnnouncement color line = false := by
  unfold changedLines at member
  split at member
  · cases member
  · obtain ⟨file, -, rfl⟩ := List.mem_map.mp member
    cases color <;>
      simp [isAnnouncement, Style.code, String.toList_append, List.isPrefixOf]

theorem isAnnouncement_of_mem_formattedLines {line : String} (member : line ∈ s.formattedLines) :
    isAnnouncement color line = false := by
  unfold formattedLines at member
  split at member
  · cases member
  · rw [List.mem_singleton.mp member]
    cases color <;>
      simp [isAnnouncement, Style.code, String.toList_append, List.isPrefixOf]

theorem isAnnouncement_of_mem_failureLines {line : String} (member : line ∈ s.failureLines color) :
    isAnnouncement color line = false := by
  unfold failureLines at member
  split at member
  · cases member
  · obtain rfl | member := List.mem_cons.mp member
    · cases color <;>
        simp [isAnnouncement, Style.paint, Style.code, String.toList_append, List.isPrefixOf]
    · obtain ⟨failure, -, rfl⟩ := List.mem_map.mp member
      cases color <;>
        simp [isAnnouncement, Style.code, String.toList_append, List.isPrefixOf]

theorem isAnnouncement_of_mem_cancelledLines {line : String}
    (member : line ∈ s.cancelledLines color) : isAnnouncement color line = false := by
  unfold cancelledLines at member
  split at member
  · rw [List.mem_singleton.mp member]
    cases color <;> decide
  · cases member

/-- Nothing is announced below the headline. -/
theorem mem_headline {line : String} (announces : isAnnouncement color line = true)
    (member : line ∈ s.lines color) : line ∈ s.headline color := by
  have loud {P : Prop} (silent : isAnnouncement color line = false) : P :=
    absurd announces (by simp [silent])
  simp only [lines, List.mem_append] at member
  obtain (((head | changed) | formatted) | failed) | cancelled := member
  · exact head
  · exact loud (isAnnouncement_of_mem_changedLines changed)
  · exact loud (isAnnouncement_of_mem_formattedLines formatted)
  · exact loud (isAnnouncement_of_mem_failureLines failed)
  · exact loud (isAnnouncement_of_mem_cancelledLines cancelled)

/-! ## When they hold -/

theorem headline_single (real : s.check = false) (single : s.singleFile = true) :
    s.headline color = if s.changed = [] then [Style.green.paint color "No changes needed."]
      else s.changed.map fun file => savedLine color file.path := by
  simp [headline, savedLine, real, single]

theorem headline_project (real : s.check = false) (project : s.singleFile = false) :
    s.headline color = if s.filesProcessed = 0 ∧ s.cancelled = false
      then [Style.yellow.paint color "No TypeScript files found"]
      else [countLine color s.changed.length] := by
  simp [headline, countLine, real, project]

theorem mem_changedLines {line : String} (project : s.singleFile = false) :
    line ∈ s.changedLines ↔ ∃ file ∈ s.changed, listedLine file.path file.classes = line := by
  simp [changedLines, listedLine, project]

/-- The real run of a command: each changed file was written or failed to be. -/
structure Accounted (s : RunSummary) : Prop where
  real : s.check = false
  split : Interleaves [s.written, s.writeFailures.map (·.path)] (s.changed.map (·.path))
  single : s.singleFile = true → s.changed.length ≤ 1
  none : s.filesProcessed = 0 → s.changed = []

theorem Accounted.length (accounted : s.Accounted) :
    s.changed.length = s.written.length + s.writeFailures.length := by
  simpa using accounted.split.perm.length_eq

theorem Accounted.writeFailures_eq_nil (accounted : s.Accounted) (truthful : s.Truthful color) :
    s.writeFailures = [] := by
  have length := accounted.length
  rw [← List.length_eq_zero_iff]
  cases mode : s.singleFile with
  | true =>
    -- At most one file changed, and it is announced: it leaves no room for a failure.
    have few := accounted.single mode
    cases changed : s.changed with
    | nil =>
      rw [changed, List.length_nil] at length
      omega
    | cons file rest =>
      have announced : savedLine color file.path ∈ s.lines color := by
        simp [lines, headline_single accounted.real mode, changed]
      have written := List.length_pos_of_mem (truthful.saved mode file.path announced)
      omega
  | false =>
    -- The count announced is that of written and failed files together.
    by_cases idle : s.filesProcessed = 0 ∧ s.cancelled = false
    · have changed := accounted.none idle.1
      rw [changed, List.length_nil] at length
      omega
    · have announced : countLine color s.changed.length ∈ s.lines color := by
        simp [lines, headline_project accounted.real mode, idle]
      have counted := truthful.counted mode s.changed.length announced
      omega

theorem Accounted.truthful (accounted : s.Accounted) (saved : s.writeFailures = []) :
    s.Truthful color := by
  have same : (s.changed.map (·.path)).Perm s.written := by
    simpa [saved] using accounted.split.perm
  have written (file : ChangedFile) (member : file ∈ s.changed) : file.path ∈ s.written :=
    same.mem_iff.mp (List.mem_map_of_mem member)
  have length : s.changed.length = s.written.length := by simpa using same.length_eq
  constructor
  case saved =>
    intro single path announced
    have announces := isAnnouncement_savedLine color path
    have headed := mem_headline announces announced
    rw [headline_single accounted.real single] at headed
    split at headed
    · rw [List.mem_singleton.mp headed] at announces
      cases color <;> exact absurd announces (by decide)
    · obtain ⟨file, member, line⟩ := List.mem_map.mp headed
      exact savedLine_inj line ▸ written file member
  case listed =>
    intro project line listed
    obtain ⟨file, member, rfl⟩ := (mem_changedLines project).mp listed
    exact ⟨file.path, written file member, file.classes, rfl⟩
  case counted =>
    intro project n announced
    have announces := isAnnouncement_countLine color n
    have headed := mem_headline announces announced
    rw [headline_project accounted.real project] at headed
    split at headed
    · rw [List.mem_singleton.mp headed] at announces
      cases color <;> exact absurd announces (by decide)
    · rw [countLine_inj (List.mem_singleton.mp headed), length]

end RunSummary

namespace Command

variable {σ : Type} [Searchable σ] [Launcher σ] {parse : Parser} {options : SortOptions}
  {world after : σ} {s : RunSummary}

theorem Prepared.accounted {config : Config} {files : List Path} {report : Report}
    (prepared : Prepared parse options world config files report) (tool : Formatter) :
    (finish report options.file.isSome tool world).1.Accounted := by
  obtain ⟨n, processed, modified, -⟩ := Batch.exists_run_cut (job parse config) world
    Batch.uncancelled files
  rw [← prepared.sorted] at processed modified
  have changed : (finish report options.file.isSome tool world).1.changed.length =
      ((files.take n).filterMap (Batch.sortedFile? (job parse config) world)).length := by
    rw [← modified]
    exact List.length_map _
  refine ⟨rfl, prepared.interleaves_finish, ?_, ?_⟩
  · -- A command for one file finds just that file.
    intro single
    obtain ⟨file, named⟩ := Option.isSome_iff_exists.mp single
    have found := prepared.found
    simp only [SortOptions.collectFiles, named] at found
    split at found
    · cases found
      calc (finish report options.file.isSome tool world).1.changed.length
          ≤ ([file].take n).length := changed ▸ List.length_filterMap_le _ _
        _ ≤ 1 := List.length_take_le' n [file]
    · cases found
  · intro idle
    have none : n = 0 := processed.symm.trans idle
    rw [← List.length_eq_zero_iff, changed, none]
    rfl

theorem accounted_of_sort (real : options.check = false)
    (ran : sort parse options world = .ok (s, after)) : s.Accounted := by
  obtain ⟨config, files, report, prepared, result⟩ := sort_eq_ok_iff.mp ran
  have summary : s = (finish report options.file.isSome config.formatter.tool world).1 := by
    rw [if_neg (by simp [real])] at result
    exact congrArg Prod.fst result
  exact summary ▸ prepared.accounted config.formatter.tool

/-- The terminal report of a real run tells the truth about what was sorted exactly if no write
failed. -/
theorem terminal_truthful_iff (color : Bool) (real : options.check = false)
    (ran : sort parse options world = .ok (s, after)) :
    s.Truthful color ↔ s.writeFailures = [] :=
  have accounted := accounted_of_sort real ran
  ⟨accounted.writeFailures_eq_nil, accounted.truthful⟩

theorem terminal_truthful_iff_halfSaved :
    HalfSaved.options.check = false ∧
      sort HalfSaved.parse HalfSaved.options HalfSaved.world =
        .ok (finish HalfSaved.report false .none HalfSaved.world) ∧
      ((finish HalfSaved.report false .none HalfSaved.world).1.Truthful false ↔
        (finish HalfSaved.report false .none HalfSaved.world).1.writeFailures = []) :=
  ⟨rfl, HalfSaved.sort_eq, terminal_truthful_iff false rfl HalfSaved.sort_eq⟩

/-- The file that could not be written is counted and listed with the other one. -/
theorem terminal_announces_unsaved :
    sort HalfSaved.parse HalfSaved.options HalfSaved.world =
        .ok (finish HalfSaved.report false .none HalfSaved.world) ∧
      (finish HalfSaved.report false .none HalfSaved.world).1.written = [⟨"./a.ts"⟩] ∧
      (finish HalfSaved.report false .none HalfSaved.world).1.headline false =
        ["Sorted members in: 2 files"] ∧
      (finish HalfSaved.report false .none HalfSaved.world).1.changedLines =
        [RunSummary.listedLine ⟨"./a.ts"⟩ ["A"], RunSummary.listedLine ⟨"./z.ts"⟩ ["A"]] ∧
      ¬ (finish HalfSaved.report false .none HalfSaved.world).1.Truthful false := by
  refine ⟨HalfSaved.sort_eq, HalfSaved.written_eq, by decide +kernel, rfl, ?_⟩
  intro truthful
  have counted := truthful.counted rfl 2 (by decide +kernel)
  rw [HalfSaved.written_eq] at counted
  exact absurd counted (by decide)

end Command

end MemberOrder
