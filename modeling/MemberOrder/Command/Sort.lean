import MemberOrder.Batch
import MemberOrder.Config.Search
import MemberOrder.Config.Toml
import MemberOrder.Summary
import MemberOrder.Walk

/-! The sort command: find the settings and the files, sort, write, format, and sum up.

It works on any files that can be searched, next to which a package runner can be called.
-/

set_option autoImplicit false

namespace MemberOrder

/-- A disk and a package runner that leaves it as it is. -/
structure World where
  disk : Disk
  runner : Runner

instance : Searchable World where
  read world := world.disk.read
  write world path text :=
    let (result, disk) := world.disk.write path text
    (result, { world with disk := disk })
  isFile world := world.disk.isFile
  find world := Walk.find world.disk

instance : Launcher World where
  call world args :=
    let (succeeded, runner) := world.runner.call args
    (succeeded, { world with runner := runner })

namespace Command

/-- One file is to be sorted, or all that are found below the root, where settings are searched for
too. A check only reports what would change. -/
structure SortOptions where
  file : Option Path
  root : Path
  config : Option Path
  overrides : Config.Overrides
  check : Bool
  deriving DecidableEq, Repr

inductive Error where
  | config (error : Config.Error)
  | fileNotFound (path : Path)
  | search (root : Path) (error : Walk.Error)
  | sort (path : Path) (error : SortError)
  | configExists
  | configNotWritten (fault : FileFault)
  deriving DecidableEq, Repr

/-- The cause behind an error that has one, told once more after its own message. -/
def causeOf : SortError → String
  | .read _ fault => ": " ++ fault.message
  | .write _ fault => ": " ++ fault.message
  | _ => ""

def Error.message : Error → String
  | config error => error.message
  | fileNotFound path => s!"File not found: {path.text}"
  | search root error => s!"Failed to search {root.text}: {error.message}"
  | sort path error => s!"Failed to sort {path.text}: {error.message}{causeOf error}"
  | configExists => "Configuration file already exists. Use --force to overwrite."
  | configNotWritten fault => fault.message

variable {σ : Type}

namespace SortOptions

def resolveConfig [FileSystem σ] (options : SortOptions) (world : σ) : Except Error Config :=
  let read := FileSystem.read world
  match options.config with
  | some path =>
    match Config.load Config.ofToml? read path with
    | .ok config => .ok (config.override options.overrides)
    | .error error => .error (.config error)
  | none => .ok ((Config.search Config.ofToml? read options.root).override options.overrides)

def collectFiles [Searchable σ] (options : SortOptions) (config : Config) (world : σ) :
    Except Error (List Path) :=
  match options.file with
  | some file =>
    if FileSystem.isFile world file then .ok [file] else .error (.fileNotFound file)
  | none =>
    match Searchable.find world options.root config.discovery with
    | .ok files => .ok files
    | .error error => .error (.search options.root error)

end SortOptions

/-- The summary of a report before anything is written. -/
def summarize (report : Report) (singleFile check : Bool) : RunSummary where
  singleFile := singleFile
  check := check
  filesProcessed := report.filesProcessed
  changed := report.modified.map fun file => ⟨file.path, file.classes⟩
  written := []
  formatted := []
  failures :=
    (report.failures.map fun failure => ⟨failure.path, none, failure.error.message⟩) ++
    report.classFailures.map fun failure =>
      ⟨failure.path, some failure.className, failure.error.message⟩
  cancelled := report.cancelled

def writeFailure (error : SortError) : Failure :=
  match error with
  | .write path _ => ⟨path, none, error.message⟩
  | _ => ⟨⟨""⟩, none, error.message⟩

/-- Writes the new texts, formats what was written and completes the summary. -/
def finish [FileSystem σ] [Launcher σ] (report : Report) (singleFile : Bool) (tool : Formatter)
    (world : σ) : RunSummary × σ :=
  let (writes, world) := Batch.writeAll report.modified world
  let (formats, world) := tool.formatFiles writes.written world
  let summary := summarize report singleFile false
  ({ summary with
      failures := summary.failures ++ writes.failures.map writeFailure
      written := writes.written
      formatted := formats.formatted },
    world)

def job (parse : Parser) (config : Config) : Job :=
  ⟨parse, config.sorting.overloads, config.sorting.skip⟩

def sort [Searchable σ] [Launcher σ] (parse : Parser) (options : SortOptions) (world : σ) :
    Except Error (RunSummary × σ) := do
  let config ← options.resolveConfig world
  let files ← options.collectFiles config world
  let report := (Batch.run (job parse config) world Batch.uncancelled files).report
  match options.file, report.failures.getLast? with
  | some _, some failure => .error (.sort failure.path failure.error)
  | _, _ =>
    if options.check then return (summarize report options.file.isSome true, world)
    else return finish report options.file.isSome config.formatter.tool world

end Command

end MemberOrder
