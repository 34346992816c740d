import MemberOrder.Command.Sort
import MemberOrder.Proofs.Batch.Events
import MemberOrder.Proofs.Batch.Schedule

/-! What a sort command has done when it comes to its end.

Whether a command only checks is asked after the files have been sorted, so a check and a real run
have the same report in hand. Writing then takes the changed files in order, and each of them is
either written or listed as a failure.
-/

set_option autoImplicit false

namespace MemberOrder

/-! ## Failures -/

def SortError.isWrite : SortError → Bool
  | write _ _ => true
  | _ => false

def Failure.isWrite (f : Failure) : Bool :=
  f.className.isNone && "Failed to write ".toList.isPrefixOf f.message.toList

theorem SortError.isPrefixOf_message (error : SortError) :
    "Failed to write ".toList.isPrefixOf error.message.toList = error.isWrite := by
  cases error with
  | parse path fault =>
    have words : (parse path fault).message =
        "Parse error in " ++ path.text ++ ": " ++ fault.message := rfl
    simp [words, isWrite, String.toList_append, List.isPrefixOf]
  | unsupported className construct =>
    have words : (unsupported className construct).message =
        "Unsupported construct in class " ++ className ++ ": " ++ construct.message := rfl
    simp [words, isWrite, String.toList_append, List.isPrefixOf]
  | overloadsRejected className =>
    have words : (overloadsRejected className).message =
        "Overloads are not supported (class " ++ className ++ "); file skipped" := rfl
    simp [words, isWrite, String.toList_append, List.isPrefixOf]
  | read path fault =>
    have words : (read path fault).message =
        "Failed to read " ++ path.text ++ ": " ++ fault.message := rfl
    simp [words, isWrite, String.toList_append, List.isPrefixOf]
  | write path fault =>
    have words : (write path fault).message =
        "Failed to write " ++ path.text ++ ": " ++ fault.message := rfl
    simp [words, isWrite, String.toList_append, List.isPrefixOf]

theorem Handle.toMember_error_isWrite {className : String} {policy : OverloadPolicy} {h : Handle}
    {error : SortError} (failed : h.toMember className policy = .error error) :
    error.isWrite = false := by
  unfold toMember at failed
  split at failed
  case h_1 => cases failed; rfl
  case h_2 => cases failed; rfl
  case h_3 =>
    split at failed
    · cases failed
      rfl
    · split at failed
      · cases failed
        rfl
      · cases failed

theorem ClassDecl.verdict_error_isWrite {policy : OverloadPolicy} {skip : ClassFilter}
    {c : ClassDecl} {error : SortError} (failed : c.verdict policy skip = .error error) :
    error.isWrite = false := by
  unfold verdict at failed
  split at failed
  · cases failed
  · split at failed
    case h_1 cause processed =>
      split at failed
      · cases failed
        cases extracted : c.extract policy with
        | ok members => simp [process, extracted, Except.map] at processed
        | error cause =>
          obtain ⟨h, -, fails⟩ := mapM_eq_error extracted
          simp only [process, extracted, Except.map, Except.error.injEq] at processed
          exact processed ▸ Handle.toMember_error_isWrite fails
      · cases failed
    case h_2 =>
      split at failed
      · cases failed
      · cases failed

/-- Sorting a file never fails with an error of writing one. -/
theorem Job.outcome_error_isWrite {job : Job} {path : Path}
    {contents : Except FileFault String} {error : SortError}
    (failed : job.outcome path contents = .error error) : error.isWrite = false := by
  cases contents with
  | error fault => cases failed; rfl
  | ok text =>
    simp only [Job.outcome, Job.sortText] at failed
    split at failed
    case h_2 => cases failed; rfl
    case h_1 root _ =>
      simp only [sortSource, parseClasses] at failed
      split at failed
      · cases failed
        rfl
      · cases judged : (collectClasses text.toList root).mapM
            (ClassDecl.verdict job.policy job.skip) with
        | ok verdicts => simp [judged, bind, Except.bind, pure, Except.pure] at failed
        | error cause =>
          obtain ⟨c, -, fails⟩ := mapM_eq_error judged
          simp only [judged, bind, Except.bind, Except.error.injEq] at failed
          exact failed ▸ ClassDecl.verdict_error_isWrite fails

theorem Batch.isWrite_of_mem_failures {σ : Type} [FileSystem σ] {job : Job} {files : σ}
    {signal : Nat → Bool} {paths : List Path} {failure : FileFailure}
    (member : failure ∈ (run job files signal paths).report.failures) :
    failure.error.isWrite = false := by
  obtain ⟨n, -, -, failures, -⟩ := exists_run_cut job files signal paths
  rw [failures] at member
  obtain ⟨path, -, failed⟩ := List.mem_filterMap.mp member
  cases found : job.outcome path (FileSystem.read files path) with
  | ok outcome => simp [sortFile, found, FileResult.ofOutcome] at failed
  | error error =>
    simp only [sortFile, found, FileResult.ofOutcome, FileResult.failure?, Option.some.injEq]
      at failed
    rw [← failed]
    exact Job.outcome_error_isWrite found

/-! ## Writes -/

theorem interleaves_filter {α : Type} (p : α → Bool) (xs : List α) :
    Interleaves [xs.filter p, xs.filter fun x => !p x] xs := by
  induction xs using List.reverseRecOn with
  | nil => exact .nil (by simp)
  | append_singleton xs x ih =>
    cases taken : p x with
    | true =>
      have longer : Interleaves ([] ++ (xs.filter p ++ [x]) :: [xs.filter fun x => !p x])
          (xs ++ [x]) := .snoc x ih
      simpa [taken] using longer
    | false =>
      have longer : Interleaves ([xs.filter p] ++ ((xs.filter fun x => !p x) ++ [x]) :: [])
          (xs ++ [x]) := .snoc x ih
      simpa [taken] using longer

theorem Interleaves.map {α β : Type} {lists : List (List α)} {merged : List α} (f : α → β)
    (interleaves : Interleaves lists merged) :
    Interleaves (lists.map (·.map f)) (merged.map f) := by
  induction interleaves with
  | nil empty =>
    refine .nil ?_
    simp only [List.mem_map]
    rintro _ ⟨list, member, rfl⟩
    rw [empty list member, List.map_nil]
  | snoc x _ ih =>
    simp only [List.map_append, List.map_cons, List.map_nil] at ih ⊢
    exact ih.snoc (f x)

namespace Batch

variable {σ : Type} [FileSystem σ]

/-- The files to be written in order, each with the fault that its write ended in, if any. -/
def writeFaults : List SortedFile → σ → List (Path × Option FileFault)
  | [], _ => []
  | file :: rest, files =>
    let (result, files) := FileSystem.write files file.path file.contents
    let fault? := match result with
      | .ok () => none
      | .error fault => some fault
    (file.path, fault?) :: writeFaults rest files

theorem map_fst_writeFaults (modified : List SortedFile) (files : σ) :
    (writeFaults modified files).map (·.1) = modified.map (·.path) := by
  induction modified generalizing files with
  | nil => rfl
  | cons file rest ih => simp [writeFaults, ih]

theorem fst_writeAll (modified : List SortedFile) (files : σ) :
    (writeAll modified files).1 = {
      written := ((writeFaults modified files).filter (·.2.isNone)).map (·.1)
      failures := (writeFaults modified files).filterMap fun (path, fault?) =>
        fault?.map (.write path) } := by
  induction modified generalizing files with
  | nil => rfl
  | cons file rest ih =>
    cases result : (FileSystem.write files file.path file.contents).1 with
    | ok done => simp [writeAll, writeFaults, result, ih]
    | error fault => simp [writeAll, writeFaults, result, ih]

end Batch

/-! ## Commands -/

def RunSummary.writeFailures (s : RunSummary) : List Failure := s.failures.filter (·.isWrite)

namespace Command

variable {σ : Type} [Searchable σ] {parse : Parser} {options : SortOptions} {world : σ}

/-- What a command has in hand before it writes anything. A single file that fails ends it. -/
structure Prepared (parse : Parser) (options : SortOptions) (world : σ) (config : Config)
    (files : List Path) (report : Report) : Prop where
  settings : options.resolveConfig world = .ok config
  found : options.collectFiles config world = .ok files
  sorted : report = (Batch.run (job parse config) world Batch.uncancelled files).report
  clean : options.file.isSome = true → report.failures = []

theorem sort_eq_ok_iff [Launcher σ] {result : RunSummary × σ} :
    sort parse options world = .ok result ↔
      ∃ config files report, Prepared parse options world config files report ∧
        result = if options.check then (summarize report options.file.isSome true, world)
          else finish report options.file.isSome config.formatter.tool world := by
  constructor
  · intro ran
    unfold sort at ran
    cases settings : options.resolveConfig world with
    | error error => simp [settings, bind, Except.bind] at ran
    | ok config =>
      cases found : options.collectFiles config world with
      | error error => simp [settings, found, bind, Except.bind] at ran
      | ok files =>
        simp only [settings, found, bind, Except.bind] at ran
        split at ran
        case h_1 => cases ran
        case h_2 clean =>
          -- The last failure is asked for, and there is a last one unless there is none at all.
          refine ⟨config, files, _, ⟨settings, found, rfl, ?_⟩, ?_⟩
          · intro single
            obtain ⟨file, single⟩ := Option.isSome_iff_exists.mp single
            rw [← List.getLast?_eq_none_iff, Option.eq_none_iff_forall_ne_some]
            exact fun failure => clean file failure single
          · split at ran
            case isTrue check => rw [if_pos check]; exact (Except.ok.inj ran).symm
            case isFalse real => rw [if_neg real]; exact (Except.ok.inj ran).symm
  · rintro ⟨config, files, report, ⟨settings, found, rfl, clean⟩, rfl⟩
    unfold sort
    simp only [settings, found, bind, Except.bind]
    split
    case h_1 file failure single failed =>
      rw [clean (by simp [single])] at failed
      cases failed
    case h_2 => split <;> rfl

theorem Prepared.isWrite_of_mem {config : Config} {files : List Path} {report : Report}
    (prepared : Prepared parse options world config files report) {f : Failure}
    {singleFile check : Bool} (member : f ∈ (summarize report singleFile check).failures) :
    f.isWrite = false := by
  obtain member | member := List.mem_append.mp member
  · obtain ⟨failure, reported, rfl⟩ := List.mem_map.mp member
    rw [prepared.sorted] at reported
    simp only [Failure.isWrite, SortError.isPrefixOf_message,
      Batch.isWrite_of_mem_failures reported, Bool.and_false]
  · obtain ⟨failure, -, rfl⟩ := List.mem_map.mp member
    rfl

/-! ## What writing adds -/

def writeFailuresOf (faults : List (Path × Option FileFault)) : List Failure :=
  faults.filterMap fun (path, fault?) => fault?.map fun fault => writeFailure (.write path fault)

theorem isWrite_of_mem_writeFailuresOf {faults : List (Path × Option FileFault)} {f : Failure}
    (member : f ∈ writeFailuresOf faults) : f.isWrite = true := by
  obtain ⟨⟨path, fault?⟩, -, made⟩ := List.mem_filterMap.mp member
  obtain ⟨fault, -, rfl⟩ := Option.map_eq_some_iff.mp made
  simp only [writeFailure, Failure.isWrite, SortError.isPrefixOf_message]
  rfl

theorem map_path_writeFailuresOf (faults : List (Path × Option FileFault)) :
    (writeFailuresOf faults).map (·.path) =
      (faults.filter fun fault => !fault.2.isNone).map (·.1) := by
  induction faults with
  | nil => rfl
  | cons fault rest ih =>
    obtain ⟨path, fault?⟩ := fault
    cases fault? with
    | none => simpa [writeFailuresOf] using ih
    | some fault => simpa [writeFailuresOf, writeFailure] using ih

variable [Launcher σ] {config : Config} {files : List Path} {report : Report} {singleFile : Bool}
  {tool : Formatter}

theorem failures_finish :
    (finish report singleFile tool world).1.failures =
      (summarize report singleFile true).failures ++
        writeFailuresOf (Batch.writeFaults report.modified world) := by
  have writes : (Batch.writeAll report.modified world).1.failures.map writeFailure =
      writeFailuresOf (Batch.writeFaults report.modified world) := by
    rw [Batch.fst_writeAll, List.map_filterMap]
    simp only [Option.map_map]
    rfl
  rw [← writes]
  rfl

theorem Prepared.writeFailures_finish
    (prepared : Prepared parse options world config files report) :
    (finish report singleFile tool world).1.writeFailures =
      writeFailuresOf (Batch.writeFaults report.modified world) := by
  have others : (summarize report singleFile true).failures.filter (·.isWrite) = [] :=
    List.filter_eq_nil_iff.mpr fun f member => by simp [prepared.isWrite_of_mem member]
  rw [RunSummary.writeFailures, failures_finish, List.filter_append, others, List.nil_append]
  exact List.filter_eq_self.mpr fun f member => isWrite_of_mem_writeFailuresOf member

theorem Prepared.filter_failures_finish
    (prepared : Prepared parse options world config files report) :
    (finish report singleFile tool world).1.failures.filter (!·.isWrite) =
      (summarize report singleFile true).failures := by
  have writes : (writeFailuresOf (Batch.writeFaults report.modified world)).filter
      (!·.isWrite) = [] :=
    List.filter_eq_nil_iff.mpr fun f member => by simp [isWrite_of_mem_writeFailuresOf member]
  rw [failures_finish, List.filter_append, writes, List.append_nil]
  exact List.filter_eq_self.mpr fun f member => by simp [prepared.isWrite_of_mem member]

/-- Every changed file was written or failed to be. -/
theorem Prepared.interleaves_finish
    (prepared : Prepared parse options world config files report) :
    Interleaves [(finish report singleFile tool world).1.written,
        (finish report singleFile tool world).1.writeFailures.map (·.path)]
      ((finish report singleFile tool world).1.changed.map (·.path)) := by
  have written : (finish report singleFile tool world).1.written =
      ((Batch.writeFaults report.modified world).filter (·.2.isNone)).map (·.1) :=
    congrArg Batch.WriteSummary.written (Batch.fst_writeAll report.modified world)
  have changed : (finish report singleFile tool world).1.changed.map (·.path) =
      (Batch.writeFaults report.modified world).map (·.1) := by
    rw [Batch.map_fst_writeFaults]
    simp [finish, summarize, Function.comp_def]
  -- Both lists are read off the faults, one for each file to be written.
  have split := interleaves_filter (fun fault => fault.2.isNone)
    (Batch.writeFaults report.modified world)
  rw [written, changed, prepared.writeFailures_finish, map_path_writeFailuresOf]
  exact split.map (·.1)

end Command

namespace Command.HalfSaved

/-! ## A run that writes one of two files -/

def comment : Text := "\n// The end\n".toList

def longTree : Node :=
  .named "program" "" ⟨0, 37⟩ 0 2
    (Sample.tree.children ++ [.named "comment" "" ⟨26, 36⟩ 1 1 []])

def parse : Parser := fun _ text =>
  if text = Sample.source then some Sample.tree
  else if text = Sample.source ++ comment then some longTree
  else none

/-- Two files that are to change, of which only the first fits on the disk afterwards. -/
def disk : Disk where
  root := .directory [
    ("a.ts", .file (String.ofList Sample.source).toUTF8),
    ("z.ts", .file (String.ofList (Sample.source ++ comment)).toUTF8)]
  workingDirectory := []
  writeLimit := some 30

def world : World := ⟨disk, .absent⟩

def options : SortOptions := ⟨none, ⟨"."⟩, none, .none, false⟩

def report : Report where
  modified := [
    ⟨⟨"./a.ts"⟩, String.ofList Sample.sorted, ["A"]⟩,
    ⟨⟨"./z.ts"⟩, String.ofList (Sample.sorted ++ comment), ["A"]⟩]
  failures := []
  classFailures := []
  filesProcessed := 2
  cancelled := false

def ignored : List Glob.Pattern := (Walk.parsePatterns Config.standardIgnore).toOption.getD []

theorem find_eq : Walk.find disk ⟨"."⟩ Config.standard.discovery =
    .ok [⟨"./a.ts"⟩, ⟨"./z.ts"⟩] := by
  have patterns : Walk.parsePatterns Config.standard.discovery.ignore = .ok ignored := by
    decide +kernel
  have met : Walk.meet disk ⟨"."⟩ = .ok [⟨"./a.ts"⟩, ⟨"./z.ts"⟩] := by decide +kernel
  have wanted : [(⟨"./a.ts"⟩ : Path), ⟨"./z.ts"⟩].filter
      (Walk.isWanted ⟨"."⟩ Config.standard.discovery.extensions ignored) =
      [⟨"./a.ts"⟩, ⟨"./z.ts"⟩] := by decide +kernel
  simp only [Walk.find, patterns, met, bind, Except.bind, wanted]
  rw [List.mergeSort_of_pairwise (by decide +kernel)]
  rfl

theorem outcome_eq {path : Path} {rest : Text} (root : Node)
    (text : FileSystem.read world path = .ok (String.ofList (Sample.source ++ rest)))
    (parsed : ∀ grammar, parse grammar (Sample.source ++ rest) = some root)
    (clean : root.info.hasError = false)
    (collected : collectClasses (Sample.source ++ rest) root = [Sample.declaration]) :
    (job parse Config.standard).outcome path (FileSystem.read world path) =
      .ok ⟨some (Sample.sorted ++ rest), [.reordered "A" 1]⟩ := by
  have extracted : Sample.declaration.extract Config.standard.sorting.overloads =
      .ok [Sample.method, Sample.field] := rfl
  have kept : Config.standard.sorting.skip Sample.declaration = false := by decide +kernel
  simp only [text, Job.outcome, Job.sortText, String.toList_ofList, job, parsed]
  rw [sortSource_singleton clean collected kept extracted rfl
    (by rw [Sample.canonicalOrder_eq]; decide), ClassDecl.rebuild_eq, Sample.canonicalOrder_eq]
  rfl

theorem report_eq :
    report = (Batch.run (job parse Config.standard) world Batch.uncancelled
      [⟨"./a.ts"⟩, ⟨"./z.ts"⟩]).report := by
  have short : (job parse Config.standard).outcome ⟨"./a.ts"⟩ (FileSystem.read world ⟨"./a.ts"⟩) =
      .ok ⟨some Sample.sorted, [.reordered "A" 1]⟩ :=
    outcome_eq Sample.tree (by decide +kernel) (fun _ => rfl) rfl Sample.collectClasses_eq
  have long : (job parse Config.standard).outcome ⟨"./z.ts"⟩ (FileSystem.read world ⟨"./z.ts"⟩) =
      .ok ⟨some (Sample.sorted ++ comment), [.reordered "A" 1]⟩ :=
    outcome_eq longTree (by decide +kernel) (fun _ => rfl) rfl (by decide +kernel)
  rw [Batch.run, Batch.runFrom_uncancelled]
  simp only [List.map, Batch.sortFile, short, long]
  rfl

theorem prepared :
    Prepared parse options world Config.standard [⟨"./a.ts"⟩, ⟨"./z.ts"⟩] report where
  settings := by decide +kernel
  found := by
    have met : Searchable.find world ⟨"."⟩ Config.standard.discovery = _ := find_eq
    simp only [SortOptions.collectFiles, options, met]
  sorted := report_eq
  clean := fun _ => rfl

theorem sort_eq : sort parse options world = .ok (finish report false .none world) :=
  sort_eq_ok_iff.mpr ⟨_, _, _, prepared, rfl⟩

theorem written_eq : (finish report false .none world).1.written = [⟨"./a.ts"⟩] := by
  decide +kernel

end Command.HalfSaved

end MemberOrder
