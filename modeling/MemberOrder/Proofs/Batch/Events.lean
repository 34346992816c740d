import MemberOrder.Proofs.Batch.Report
import MemberOrder.Proofs.Source.Frame

/-! Events and report tell one story.

A run emits the stories of the files it gets to, one after the other. The story of a file is that it
failed, or what became of those of its classes that did not simply stay as they were. Everything in
a report but the new texts themselves can be read off the events.
-/

set_option autoImplicit false

namespace MemberOrder

namespace Event

/-- The events tell about the classes of a file in their order, and pass over those that stayed as
they were. -/
inductive Tells (file : Path) : List ClassOutcome → List Event → Prop where
  | nil : Tells file [] []
  | reordered {outcomes : List ClassOutcome} {events : List Event} (className : String)
      (line : Nat) : Tells file outcomes events →
      Tells file (.reordered className line :: outcomes) (classReordered file className :: events)
  | skipped {outcomes : List ClassOutcome} {events : List Event} (className : String) :
      Tells file outcomes events →
      Tells file (.skipped className :: outcomes) (classSkipped file className :: events)
  | failed {outcomes : List ClassOutcome} {events : List Event} (className : String)
      (error : SortError) : Tells file outcomes events →
      Tells file (.failed className error :: outcomes)
        (classFailed file className error.message :: events)
  | unchanged {outcomes : List ClassOutcome} {events : List Event} (className : String) :
      Tells file outcomes events → Tells file (.unchanged className :: outcomes) events

def reorderedClass? : Event → Option String
  | classReordered _ className => some className
  | _ => none

def classFailure? : Event → Option (Path × String × String)
  | classFailed file className message => some (file, className, message)
  | _ => none

def fileFailure? : Event → Option (Path × String)
  | fileFailed file message => some (file, message)
  | _ => none

def entry? (file : Path) (events : List Event) : Option (Path × List String) :=
  if events.filterMap reorderedClass? = [] then none
  else some (file, events.filterMap reorderedClass?)

theorem isError_iff (event : Event) :
    event.isError = true ↔
      event.fileFailure?.isSome = true ∨ event.classFailure?.isSome = true := by
  cases event <;> simp [isError, fileFailure?, classFailure?]

variable {file : Path} {outcomes : List ClassOutcome} {events : List Event}

theorem tells_filterMap (file : Path) (outcomes : List ClassOutcome) :
    Tells file outcomes (outcomes.filterMap (ofOutcome? file)) := by
  induction outcomes with
  | nil => exact .nil
  | cons outcome rest ih =>
    cases outcome with
    | reordered className line => exact .reordered className line ih
    | skipped className => exact .skipped className ih
    | failed className error => exact .failed className error ih
    | unchanged className => exact .unchanged className ih

theorem Tells.reorderedClasses (told : Tells file outcomes events) :
    events.filterMap reorderedClass? = outcomes.filterMap ClassOutcome.reordered? := by
  induction told with
  | nil => rfl
  | reordered _ _ _ ih =>
    simp only [List.filterMap_cons, reorderedClass?, ClassOutcome.reordered?, ih]
  | skipped _ _ ih =>
    simp only [List.filterMap_cons, reorderedClass?, ClassOutcome.reordered?, ih]
  | failed _ _ _ ih =>
    simp only [List.filterMap_cons, reorderedClass?, ClassOutcome.reordered?, ih]
  | unchanged _ _ ih => simp only [List.filterMap_cons, ClassOutcome.reordered?, ih]

theorem Tells.classFailures (told : Tells file outcomes events) :
    events.filterMap classFailure? = (outcomes.filterMap (FileResult.classFailure? file)).map
      fun failure => (failure.path, failure.className, failure.error.message) := by
  induction told with
  | nil => rfl
  | reordered _ _ _ ih =>
    simp only [List.filterMap_cons, classFailure?, FileResult.classFailure?, ih]
  | skipped _ _ ih =>
    simp only [List.filterMap_cons, classFailure?, FileResult.classFailure?, ih]
  | failed _ _ _ ih =>
    simp only [List.filterMap_cons, classFailure?, FileResult.classFailure?, ih, List.map_cons]
  | unchanged _ _ ih => simp only [List.filterMap_cons, FileResult.classFailure?, ih]

theorem Tells.fileFailures (told : Tells file outcomes events) :
    events.filterMap fileFailure? = [] := by
  induction told with
  | nil => rfl
  | reordered _ _ _ ih => simp only [List.filterMap_cons, fileFailure?, ih]
  | skipped _ _ ih => simp only [List.filterMap_cons, fileFailure?, ih]
  | failed _ _ _ ih => simp only [List.filterMap_cons, fileFailure?, ih]
  | unchanged _ _ ih => exact ih

end Event

theorem sortSource_contents_isSome {path : Path} {source : Text} {root : Node}
    {policy : OverloadPolicy} {skip : ClassFilter} {outcome : SourceOutcome}
    (sorted : sortSource path source root policy skip = .ok outcome) :
    outcome.contents.isSome = true ↔ outcome.reordered ≠ [] := by
  obtain ⟨-, verdicts, judged, rfl⟩ := sortSource_eq_ok_iff.mp sorted
  obtain ⟨-, -, changed⟩ :=
    rewrites_of_verdicts (fun c member => spanned_of_mem_collectClasses member) judged
  calc (SourceOutcome.ofVerdicts source verdicts).contents.isSome = true
      ↔ verdicts.filterMap (·.replacement) ≠ [] := by simp [SourceOutcome.ofVerdicts]
    _ ↔ ∃ o ∈ verdicts.map (·.outcome), o.reordered?.isSome = true := changed.symm
    _ ↔ (SourceOutcome.ofVerdicts source verdicts).reordered ≠ [] := by
      simp [SourceOutcome.reordered, SourceOutcome.ofVerdicts, Option.isSome_iff_ne_none]

theorem Job.contents_isSome {job : Job} {path : Path} {contents : Except FileFault String}
    {outcome : SourceOutcome} (sorted : job.outcome path contents = .ok outcome) :
    outcome.contents.isSome = true ↔ outcome.reordered ≠ [] := by
  cases contents with
  | error fault => cases sorted
  | ok text =>
    simp only [Job.outcome, Job.sortText] at sorted
    split at sorted
    case h_1 root _ => exact sortSource_contents_isSome sorted
    case h_2 => cases sorted

namespace Batch

variable {σ : Type} [FileSystem σ] {job : Job} {files : σ} {path : Path} {events : List Event}

/-! ## One file -/

/-- What is told about a file: that it failed, or what became of its classes. -/
inductive Story (job : Job) (files : σ) (path : Path) : List Event → Prop where
  | failed {error : SortError}
      (fails : job.outcome path (FileSystem.read files path) = .error error) :
      Story job files path [.fileFailed path error.message]
  | sorted {outcome : SourceOutcome} {events : List Event}
      (sorts : job.outcome path (FileSystem.read files path) = .ok outcome)
      (told : Event.Tells path outcome.classes events) : Story job files path events

theorem story_sortFile (job : Job) (files : σ) (path : Path) :
    Story job files path (sortFile job files path).2 := by
  simp only [sortFile]
  cases found : job.outcome path (FileSystem.read files path) with
  | error error => exact .failed found
  | ok outcome => exact .sorted found (Event.tells_filterMap path outcome.classes)

theorem Story.fileFailures (story : Story job files path events) :
    events.filterMap Event.fileFailure? = (sortFile job files path).1.failure?.toList.map
      fun failure => (failure.path, failure.error.message) := by
  cases story with
  | failed fails => simp [sortFile, fails, FileResult.ofOutcome, Event.fileFailure?]
  | sorted sorts told => simp [sortFile, sorts, FileResult.ofOutcome, told.fileFailures]

theorem Story.classFailures (story : Story job files path events) :
    events.filterMap Event.classFailure? = (sortFile job files path).1.classFailures.map
      fun failure => (failure.path, failure.className, failure.error.message) := by
  cases story with
  | failed fails => simp [sortFile, fails, FileResult.ofOutcome, Event.classFailure?]
  | sorted sorts told =>
    simp only [sortFile, sorts, FileResult.ofOutcome, FileResult.classFailures, told.classFailures]

theorem Story.entry (story : Story job files path events) :
    (sortedFile? job files path).map (fun file => (file.path, file.classes)) =
      Event.entry? path events := by
  cases story with
  | failed fails =>
    simp [sortedFile?, sortFile, fails, FileResult.ofOutcome, Event.entry?, Event.reorderedClass?]
  | @sorted outcome events sorts told =>
    have reordered : events.filterMap Event.reorderedClass? = outcome.reordered :=
      told.reorderedClasses
    have changed := Job.contents_isSome sorts
    simp only [sortedFile?, sortFile, sorts, FileResult.ofOutcome, FileResult.sorted?, Event.entry?,
      reordered]
    cases new : outcome.contents with
    | none =>
      have none : outcome.reordered = [] := by simpa [new] using changed
      simp [none]
    | some contents =>
      have some : outcome.reordered ≠ [] := changed.mp (by simp [new])
      simp [some]

/-! ## Whole runs -/

/-- Once cancellation is asked for no further file is read, so it stays asked for. -/
theorem exists_runFrom_cut (job : Job) (files : σ) (signal : Nat → Bool) (filesRead : Nat)
    (paths : List Path) :
    ∃ n ≤ paths.length, runFrom job files signal filesRead paths =
      (paths.take n).map (sortFile job files) ++
        (paths.drop n).map fun _ => (.cancelled, []) := by
  induction paths generalizing filesRead with
  | nil => exact ⟨0, Nat.le_refl _, rfl⟩
  | cons path rest ih =>
    cases asked : signal filesRead with
    | false =>
      obtain ⟨n, inside, cut⟩ := ih (filesRead + 1)
      exact ⟨n + 1, Nat.succ_le_succ inside, by simp [runFrom, asked, cut]⟩
    | true =>
      refine ⟨0, Nat.zero_le _, ?_⟩
      clear ih
      induction path :: rest with
      | nil => rfl
      | cons path rest ih => simpa [runFrom, asked] using ih

/-- What a run yields, told from the files it gets to. -/
theorem exists_run_cut (job : Job) (files : σ) (signal : Nat → Bool) (paths : List Path) :
    ∃ n, (run job files signal paths).report.filesProcessed = n ∧
      (run job files signal paths).report.modified =
        (paths.take n).filterMap (sortedFile? job files) ∧
      (run job files signal paths).report.failures =
        (paths.take n).filterMap (fun path => (sortFile job files path).1.failure?) ∧
      (run job files signal paths).report.classFailures =
        (paths.take n).flatMap (fun path => (sortFile job files path).1.classFailures) ∧
      (run job files signal paths).events =
        (paths.take n).flatMap (fun path => (sortFile job files path).2) := by
  obtain ⟨n, inside, cut⟩ := exists_runFrom_cut job files signal 0 paths
  have begun (path : Path) : decide ((sortFile job files path).1 ≠ .cancelled) = true :=
    decide_eq_true (sortFile_ne_cancelled path)
  simp only [run, cut, Run.ofResults, Report.ofResults_eq, List.map_append, List.map_map,
    List.countP_append, List.filterMap_append, List.flatMap_append, List.countP_map,
    List.filterMap_map, List.flatMap_map]
  refine ⟨n, ?_, ?_, ?_, ?_, ?_⟩
  · have whole : (paths.take n).countP
        ((fun result => decide (result ≠ .cancelled)) ∘ (·.1) ∘ sortFile job files) = n :=
      (List.countP_eq_length.mpr fun path _ => begun path).trans (List.length_take_of_le inside)
    rw [whole]
    simp
  · simp [Function.comp_def]
    rfl
  all_goals simp [Function.comp_def]

theorem filterMap_ne_nil_iff {α β : Type} {f : α → Option β} {xs : List α} :
    xs.filterMap f ≠ [] ↔ ∃ x ∈ xs, (f x).isSome = true := by
  simp [List.filterMap_eq_nil_iff, Option.isSome_iff_ne_none]

/-- The events of a run are the stories of the files it gets to. Its report names the files and
classes that the events tell have failed or changed, with the same words and in the same order, and
has errors exactly if there is an event of one. -/
theorem run_tells (job : Job) (files : σ) (signal : Nat → Bool) (paths : List Path) :
    ∃ stories : List (Path × List Event),
      stories.map (·.1) = paths.take (run job files signal paths).report.filesProcessed ∧
      (∀ story ∈ stories, Story job files story.1 story.2) ∧
      (run job files signal paths).events = stories.flatMap (·.2) ∧
      (run job files signal paths).events.filterMap Event.fileFailure? =
        (run job files signal paths).report.failures.map
          (fun failure => (failure.path, failure.error.message)) ∧
      (run job files signal paths).events.filterMap Event.classFailure? =
        (run job files signal paths).report.classFailures.map
          (fun failure => (failure.path, failure.className, failure.error.message)) ∧
      (run job files signal paths).report.modified.map (fun file => (file.path, file.classes)) =
        stories.filterMap (fun story => Event.entry? story.1 story.2) ∧
      ((run job files signal paths).report.hasErrors = true ↔
        ∃ event ∈ (run job files signal paths).events, event.isError = true) := by
  obtain ⟨n, processed, modified, failures, classFailures, events⟩ :=
    exists_run_cut job files signal paths
  have story := story_sortFile job files
  have fileEvents : (run job files signal paths).events.filterMap Event.fileFailure? =
      (run job files signal paths).report.failures.map
        (fun failure => (failure.path, failure.error.message)) := by
    rw [events, failures, List.filterMap_flatMap, List.map_filterMap,
      List.filterMap_eq_flatMap_toList]
    simp only [(story _).fileFailures, Option.toList_map]
  have classEvents : (run job files signal paths).events.filterMap Event.classFailure? =
      (run job files signal paths).report.classFailures.map
        (fun failure => (failure.path, failure.className, failure.error.message)) := by
    rw [events, classFailures, List.filterMap_flatMap, List.map_flatMap]
    simp only [(story _).classFailures]
  refine ⟨(paths.take n).map fun path => (path, (sortFile job files path).2), ?_, ?_, ?_,
    fileEvents, classEvents, ?_, ?_⟩
  · simp [processed, Function.comp_def]
  · simp only [List.mem_map]
    rintro _ ⟨path, -, rfl⟩
    exact story path
  · rw [events, List.flatMap_map]
  · rw [modified, List.map_filterMap, List.filterMap_map]
    exact List.filterMap_congr fun path _ => (story path).entry
  · have failed : (run job files signal paths).report.failures ≠ [] ↔
        ∃ event ∈ (run job files signal paths).events, event.fileFailure?.isSome = true := by
      rw [← filterMap_ne_nil_iff, fileEvents, ne_eq, ne_eq, List.map_eq_nil_iff]
    have classFailed : (run job files signal paths).report.classFailures ≠ [] ↔
        ∃ event ∈ (run job files signal paths).events, event.classFailure?.isSome = true := by
      rw [← filterMap_ne_nil_iff, classEvents, ne_eq, ne_eq, List.map_eq_nil_iff]
    simp only [Report.hasErrors, Bool.or_eq_true, Bool.not_eq_true', List.isEmpty_eq_false_iff,
      failed, classFailed, Event.isError_iff, and_or_left, exists_or]

end Batch

end MemberOrder
