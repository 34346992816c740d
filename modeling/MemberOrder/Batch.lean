import MemberOrder.Files
import MemberOrder.Grammar
import MemberOrder.Json
import MemberOrder.Source.Sort

/-! Many files sorted in one go.

Each file is read and sorted on its own, and a file that fails does not stop the others. Every
file yields a result and the events that tell about it; the report gathers the results in the
order of the files. A batch can be cancelled: files not begun by then contribute nothing.
-/

set_option autoImplicit false

namespace MemberOrder

abbrev Parser := Grammar → Text → Option Node

structure Job where
  parse : Parser
  policy : OverloadPolicy
  skip : ClassFilter

namespace Job

def sortText (job : Job) (path : Path) (text : String) : Except SortError SourceOutcome :=
  let source := text.toList
  match job.parse (Variant.ofPath path).grammar source with
  | some root => sortSource path source root job.policy job.skip
  | none => .error (.parse path .noTree)

def outcome (job : Job) (path : Path) (contents : Except FileFault String) :
    Except SortError SourceOutcome :=
  match contents with
  | .ok text => job.sortText path text
  | .error fault => .error (.read path fault)

end Job

inductive Event where
  | classReordered (file : Path) (className : String)
  | classSkipped (file : Path) (className : String)
  | classFailed (file : Path) (className : String) (message : String)
  | fileFailed (file : Path) (message : String)
  deriving DecidableEq, Repr

namespace Event

def isError : Event → Bool
  | classFailed _ _ _ => true
  | fileFailed _ _ => true
  | _ => false

def ofOutcome? (file : Path) : ClassOutcome → Option Event
  | .reordered className _ => some (classReordered file className)
  | .skipped className => some (classSkipped file className)
  | .failed className error => some (classFailed file className error.message)
  | .unchanged _ => none

def ofFile (file : Path) : Except SortError SourceOutcome → List Event
  | .ok outcome => outcome.classes.filterMap (ofOutcome? file)
  | .error error => [fileFailed file error.message]

/-- Fields in alphabetical order. -/
def toJson : Event → Json
  | classReordered file className =>
    .object [("class", .string className), ("event", .string "class_reordered"),
      ("file", .string file.text)]
  | classSkipped file className =>
    .object [("class", .string className), ("event", .string "class_skipped"),
      ("file", .string file.text)]
  | classFailed file className message =>
    .object [("class", .string className), ("error", .string message),
      ("event", .string "class_failed"), ("file", .string file.text)]
  | fileFailed file message =>
    .object [("error", .string message), ("event", .string "file_failed"),
      ("file", .string file.text)]

/-- The events in the order of their JSON texts, which no schedule changes. -/
def sorted (events : List Event) : List Event :=
  events.mergeSort fun a b => (compare a.toJson.compact b.toJson.compact).isLE

end Event

structure SortedFile where
  path : Path
  contents : String
  classes : List String
  deriving DecidableEq, Repr

structure FileFailure where
  path : Path
  error : SortError
  deriving DecidableEq, Repr

structure ClassFailure where
  path : Path
  className : String
  error : SortError
  deriving DecidableEq, Repr

inductive FileResult where
  | processed (sorted : Option SortedFile) (classFailures : List ClassFailure)
  | failed (failure : FileFailure)
  | cancelled
  deriving DecidableEq, Repr

namespace FileResult

def classFailure? (file : Path) : ClassOutcome → Option ClassFailure
  | .failed className error => some ⟨file, className, error⟩
  | _ => none

def ofOutcome (file : Path) : Except SortError SourceOutcome → FileResult
  | .ok outcome =>
    processed
      (outcome.contents.map fun contents => ⟨file, String.ofList contents, outcome.reordered⟩)
      (outcome.classes.filterMap (classFailure? file))
  | .error error => failed ⟨file, error⟩

end FileResult

structure Report where
  modified : List SortedFile
  failures : List FileFailure
  classFailures : List ClassFailure
  filesProcessed : Nat
  cancelled : Bool
  deriving DecidableEq, Repr

namespace Report

def empty : Report := ⟨[], [], [], 0, false⟩

def cons (result : FileResult) (report : Report) : Report :=
  match result with
  | .processed sorted classFailures =>
    { report with
      filesProcessed := report.filesProcessed + 1
      modified := sorted.toList ++ report.modified
      classFailures := classFailures ++ report.classFailures }
  | .failed failure =>
    { report with
      filesProcessed := report.filesProcessed + 1
      failures := failure :: report.failures }
  | .cancelled => { report with cancelled := true }

def ofResults (results : List FileResult) : Report := results.foldr cons empty

def hasErrors (r : Report) : Bool := !r.failures.isEmpty || !r.classFailures.isEmpty

/-- The new text of a file, by any way of writing its path. -/
def get? (r : Report) (path : Path) : Option String :=
  (r.modified.find? (·.path.same path)).map (·.contents)

end Report

namespace Batch

def sortFile {σ : Type} [FileSystem σ] (job : Job) (files : σ) (path : Path) :
    FileResult × List Event :=
  let outcome := job.outcome path (FileSystem.read files path)
  (.ofOutcome path outcome, Event.ofFile path outcome)

/-- Sorts the files one after the other. `signal n` says whether cancellation was asked for once
`n` files have been read. -/
def runFrom {σ : Type} [FileSystem σ] (job : Job) (files : σ) (signal : Nat → Bool) :
    Nat → List Path → List (FileResult × List Event)
  | _, [] => []
  | filesRead, path :: rest =>
    if signal filesRead then (.cancelled, []) :: runFrom job files signal filesRead rest
    else sortFile job files path :: runFrom job files signal (filesRead + 1) rest

structure Run where
  report : Report
  events : List Event
  deriving DecidableEq, Repr

def Run.ofResults (results : List (FileResult × List Event)) : Run :=
  ⟨.ofResults (results.map (·.1)), results.flatMap (·.2)⟩

def run {σ : Type} [FileSystem σ] (job : Job) (files : σ) (signal : Nat → Bool)
    (paths : List Path) : Run :=
  .ofResults (runFrom job files signal 0 paths)

def uncancelled : Nat → Bool := fun _ => false

/-- Cancellation asked for from the start, or while the given file is read, counted from one. -/
def cancelAfter (raised : Bool) (limit : Option Nat) : Nat → Bool := fun filesRead =>
  raised ||
    match limit with
    | some n => 0 < n && n ≤ filesRead
    | none => false

structure WriteSummary where
  written : List Path
  failures : List SortError
  deriving DecidableEq, Repr

/-- Overwrites the files in order; a failed write does not stop the others. -/
def writeAll {σ : Type} [FileSystem σ] : List SortedFile → σ → WriteSummary × σ
  | [], files => (⟨[], []⟩, files)
  | file :: rest, files =>
    let (result, files) := FileSystem.write files file.path file.contents
    let (summary, files) := writeAll rest files
    match result with
    | .ok () => ({ summary with written := file.path :: summary.written }, files)
    | .error fault =>
      ({ summary with failures := .write file.path fault :: summary.failures }, files)

end Batch

end MemberOrder
