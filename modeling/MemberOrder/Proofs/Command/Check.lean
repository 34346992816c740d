import MemberOrder.Proofs.Command.Run

/-! A check tells beforehand what a real run will do.

Both start from the same report. The check changes nothing and starts no formatter. The real run
changes the same files, apart from those that cannot be written, and fails where the check does and
nowhere else but in writing.
-/

set_option autoImplicit false

namespace MemberOrder

/-! ## Formatting -/

namespace Formatter

variable {σ : Type} [Launcher σ] {tool : Formatter} {files : List Path}

theorem formatted_formatEach (files : List Path) (state : σ) :
    (tool.formatEach files state).1.formatted.Sublist files := by
  induction files generalizing state with
  | nil => exact .slnil
  | cons file rest ih =>
    simp only [formatEach]
    split
    case h_1 => exact (ih state).cons file
    case h_2 args _ =>
      split
      · exact (ih _).cons_cons file
      · exact (ih _).cons file

theorem formatted_formatFiles {state : σ} :
    (tool.formatFiles files state).1.formatted.Sublist files := by
  simp only [formatFiles]
  split
  · exact List.nil_sublist files
  · split
    · exact formatted_formatEach files _
    · exact List.nil_sublist files

/-- The call probes for the tool or has it format one of the files. -/
def Hands (tool : Formatter) (files : List Path) (args : List String) : Prop :=
  tool.probeArgs? = some args ∨ ∃ file ∈ files, tool.formatArgs? file = some args

/-- Calls for the files, made one after the other, lead from the first state to the second. -/
inductive Calls (tool : Formatter) (files : List Path) : σ → σ → Prop where
  | refl (state : σ) : Calls tool files state state
  | step {before after : σ} {args : List String} (hands : tool.Hands files args)
      (later : Calls tool files (Launcher.call before args).2 after) : Calls tool files before after

theorem Hands.mono {args : List String} {more : List Path} (hands : tool.Hands files args)
    (subset : ∀ file ∈ files, file ∈ more) : tool.Hands more args := by
  refine Or.imp_right ?_ hands
  rintro ⟨file, among, formats⟩
  exact ⟨file, subset file among, formats⟩

theorem Calls.mono {before after : σ} {more : List Path} (calls : tool.Calls files before after)
    (subset : ∀ file ∈ files, file ∈ more) : tool.Calls more before after := by
  induction calls with
  | refl state => exact .refl state
  | step hands _ ih => exact .step (hands.mono subset) ih

theorem calls_formatEach (files : List Path) (state : σ) :
    tool.Calls files state (tool.formatEach files state).2 := by
  induction files generalizing state with
  | nil => exact .refl state
  | cons file rest ih =>
    have later (state : σ) : tool.Calls (file :: rest) state (tool.formatEach rest state).2 :=
      (ih state).mono fun other member => .tail file member
    simp only [formatEach]
    split
    case h_1 => exact later state
    case h_2 args formats =>
      have hands : tool.Hands (file :: rest) args := .inr ⟨file, List.mem_cons_self, formats⟩
      split
      · exact .step hands (later _)
      · exact .step hands (later _)

theorem calls_probe {before after : σ} (later : tool.Calls files (tool.probe before).2 after) :
    tool.Calls files before after := by
  simp only [probe] at later
  split at later
  case h_1 args probes => exact .step (.inl probes) later
  case h_2 => exact later

theorem calls_formatFiles {state : σ} :
    tool.Calls files state (tool.formatFiles files state).2 := by
  simp only [formatFiles]
  split
  · exact .refl state
  · split
    · exact calls_probe (calls_formatEach files _)
    · exact calls_probe (.refl _)

end Formatter

/-! ## Checks and real runs -/

namespace RunSummary

theorem exitCode_eq_one_iff (s : RunSummary) :
    s.exitCode = 1 ↔
      (s.check = true ∧ s.changed ≠ []) ∨ ∃ f ∈ s.failures, f.className = none := by
  have one : s.exitCode = 1 ↔ ((s.check && !s.changed.isEmpty) || s.hasFileFailures) = true := by
    unfold exitCode
    split <;> simp_all
  simp [one, hasFileFailures]

/-- The summary of a check against that of the real run, which adds failures of writing and no
others. Each changed file in turn is written or fails to be. -/
structure Predicts (pending done : RunSummary) : Prop where
  filesProcessed : pending.filesProcessed = done.filesProcessed
  changed : pending.changed = done.changed
  written : pending.written = []
  formatted : pending.formatted = []
  failures : pending.failures = done.failures.filter (!·.isWrite)
  split : Interleaves [done.written, done.writeFailures.map (·.path)] (done.changed.map (·.path))
  formattedWritten : done.formatted.Sublist done.written
  exitCode : pending.exitCode = 1 ↔
    done.changed ≠ [] ∨ ∃ f ∈ done.failures, f.className = none ∧ f.isWrite = false
  doneExitCode : done.exitCode = 1 ↔ ∃ f ∈ done.failures, f.className = none

end RunSummary

namespace Command

variable {σ : Type} [Searchable σ] {parse : Parser} {options : SortOptions} {world : σ}
  {config : Config} {files : List Path} {report : Report}

theorem Prepared.withCheck (prepared : Prepared parse options world config files report)
    (check : Bool) :
    Prepared parse { options with check := check } world config files report :=
  ⟨prepared.settings, prepared.found, prepared.sorted, prepared.clean⟩

variable [Launcher σ]

theorem Prepared.predicts (prepared : Prepared parse options world config files report)
    (singleFile : Bool) (tool : Formatter) :
    (summarize report singleFile true).Predicts (finish report singleFile tool world).1 where
  filesProcessed := rfl
  changed := rfl
  written := rfl
  formatted := rfl
  failures := prepared.filter_failures_finish.symm
  split := prepared.interleaves_finish
  formattedWritten := Formatter.formatted_formatFiles
  exitCode := by
    have failures : (summarize report singleFile true).failures =
        (finish report singleFile tool world).1.failures.filter (!·.isWrite) :=
      prepared.filter_failures_finish.symm
    rw [RunSummary.exitCode_eq_one_iff, failures]
    refine or_congr ⟨fun pending => pending.2, fun changed => ⟨rfl, changed⟩⟩ ?_
    refine exists_congr fun f => ?_
    rw [List.mem_filter, Bool.not_eq_true', and_right_comm, and_assoc]
  doneExitCode := by
    rw [RunSummary.exitCode_eq_one_iff]
    simp [finish, summarize]

/-- The changed files were written in turn, as far as they could be, and after that a formatter was
called for the written ones. -/
def Leaves (world : σ) (done : RunSummary) (after : σ) : Prop :=
  ∃ (modified : List SortedFile) (tool : Formatter),
    modified.map (fun file => ⟨file.path, file.classes⟩) = done.changed ∧
    (Batch.writeAll modified world).1.written = done.written ∧
    tool.Calls done.written (Batch.writeAll modified world).2 after

/-- If a command succeeds, it succeeds as a check and as a real run. The check leaves everything as
it is, runs no formatter and predicts the real run, which hands only written files to one. -/
theorem sort_check_predicts (parse : Parser) (options : SortOptions) (world : σ)
    (succeeds : (sort parse options world).isOk = true) :
    ∃ pending done after,
      sort parse { options with check := true } world = .ok (pending, world) ∧
      sort parse { options with check := false } world = .ok (done, after) ∧
      pending.Predicts done ∧ Leaves world done after := by
  cases ran : sort parse options world with
  | error error =>
    rw [ran] at succeeds
    cases succeeds
  | ok result =>
    obtain ⟨config, files, report, prepared, -⟩ := sort_eq_ok_iff.mp ran
    have concluded (check : Bool) := sort_eq_ok_iff.mpr
      ⟨config, files, report, prepared.withCheck check, rfl⟩
    exact ⟨summarize report options.file.isSome true,
      (finish report options.file.isSome config.formatter.tool world).1,
      (finish report options.file.isSome config.formatter.tool world).2,
      concluded true, concluded false, prepared.predicts _ _,
      report.modified, config.formatter.tool, rfl, rfl, Formatter.calls_formatFiles⟩

theorem sort_check_predicts_halfSaved :
    (sort HalfSaved.parse HalfSaved.options HalfSaved.world).isOk = true ∧
      ∃ pending done after,
        sort HalfSaved.parse { HalfSaved.options with check := true } HalfSaved.world =
          .ok (pending, HalfSaved.world) ∧
        sort HalfSaved.parse { HalfSaved.options with check := false } HalfSaved.world =
          .ok (done, after) ∧
        pending.Predicts done ∧ Leaves HalfSaved.world done after := by
  have succeeds : (sort HalfSaved.parse HalfSaved.options HalfSaved.world).isOk = true := by
    rw [HalfSaved.sort_eq]
    rfl
  exact ⟨succeeds, sort_check_predicts _ _ _ succeeds⟩

end Command

end MemberOrder
