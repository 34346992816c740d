import Mathlib.Data.List.Basic
import MemberOrder.Batch

/-! What a report holds, and which files a run gets to.

Each part of a report is read off the results in the order of the files. A run handles files until
cancellation is asked for and none after that, so the files it handles come first.
-/

set_option autoImplicit false

namespace MemberOrder

namespace FileResult

@[simp] def sorted? : FileResult → Option SortedFile
  | processed sorted _ => sorted
  | _ => none

@[simp] def failure? : FileResult → Option FileFailure
  | failed failure => some failure
  | _ => none

@[simp] def classFailures : FileResult → List ClassFailure
  | processed _ classFailures => classFailures
  | _ => []

theorem ofOutcome_ne_cancelled (file : Path) (outcome : Except SortError SourceOutcome) :
    ofOutcome file outcome ≠ .cancelled := by
  cases outcome <;> simp [ofOutcome]

end FileResult

theorem Report.ofResults_eq (results : List FileResult) :
    Report.ofResults results =
      { modified := results.filterMap FileResult.sorted?
        failures := results.filterMap FileResult.failure?
        classFailures := results.flatMap FileResult.classFailures
        filesProcessed := results.countP (· ≠ .cancelled)
        cancelled := results.any (· = .cancelled) } := by
  induction results with
  | nil => rfl
  | cons result rest ih =>
    have unfolded : ofResults (result :: rest) = cons result (ofResults rest) := rfl
    rw [unfolded, ih]
    cases result with
    | processed sorted failures => cases sorted <;> simp [cons, List.filterMap_cons]
    | failed failure => simp [cons, List.filterMap_cons]
    | cancelled => simp [cons, List.filterMap_cons]

/-- A report owns up to being cut short exactly when a file is missing from its count. -/
theorem Report.cancelled_iff (results : List FileResult) :
    (ofResults results).cancelled = true ↔
      (ofResults results).filesProcessed < results.length := by
  have whole : results.countP (· ≠ .cancelled) = results.length ↔ .cancelled ∉ results := by
    simp only [List.countP_eq_length, decide_eq_true_eq]
    exact ⟨fun kept cut => kept _ cut rfl, fun absent _ kept cut => absent (cut ▸ kept)⟩
  have bounded : results.countP (· ≠ .cancelled) ≤ results.length := List.countP_le_length
  have missing : (results.any (· = .cancelled)) = true ↔ .cancelled ∈ results := by simp
  rw [ofResults_eq, missing, Nat.lt_iff_le_and_ne, Ne, whole]
  simp only [bounded, true_and, not_not]

namespace Batch

variable {σ : Type} [FileSystem σ] {job : Job} {files : σ}

theorem sortFile_ne_cancelled (path : Path) : (sortFile job files path).1 ≠ .cancelled :=
  FileResult.ofOutcome_ne_cancelled path _

theorem runFrom_uncancelled (filesRead : Nat) (paths : List Path) :
    runFrom job files uncancelled filesRead paths = paths.map (sortFile job files) := by
  induction paths generalizing filesRead with
  | nil => rfl
  | cons path rest ih => simp [runFrom, uncancelled, ← ih (filesRead + 1)]

theorem runFrom_le (limit filesRead : Nat) (paths : List Path) :
    runFrom job files (fun read => limit ≤ read) filesRead paths =
      (paths.take (limit - filesRead)).map (sortFile job files) ++
        (paths.drop (limit - filesRead)).map fun _ => (.cancelled, []) := by
  induction paths generalizing filesRead with
  | nil => simp [runFrom]
  | cons path rest ih =>
    by_cases reached : limit ≤ filesRead
    · have tail := ih filesRead
      rw [Nat.sub_eq_zero_of_le reached] at tail ⊢
      simpa [runFrom, reached] using tail
    · have step : limit - filesRead = limit - (filesRead + 1) + 1 := by omega
      simp [runFrom, reached, step, ih (filesRead + 1)]

def sortedFile? (job : Job) (files : σ) (path : Path) : Option SortedFile :=
  (sortFile job files path).1.sorted?

theorem path_of_sortedFile? {path : Path} {file : SortedFile}
    (sorted : sortedFile? job files path = some file) : file.path = path := by
  simp only [sortedFile?, sortFile] at sorted
  cases found : job.outcome path (FileSystem.read files path) with
  | error error => simp [found, FileResult.ofOutcome] at sorted
  | ok outcome =>
    simp only [found, FileResult.ofOutcome, FileResult.sorted?, Option.map_eq_some_iff] at sorted
    obtain ⟨contents, -, rfl⟩ := sorted
    rfl

theorem modified_run_uncancelled (paths : List Path) :
    (run job files uncancelled paths).report.modified =
      paths.filterMap (sortedFile? job files) := by
  simp only [run, Run.ofResults, runFrom_uncancelled, Report.ofResults_eq, List.map_map,
    List.filterMap_map]
  rfl

end Batch

end MemberOrder
