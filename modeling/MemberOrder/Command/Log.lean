import MemberOrder.Command.Sort
import MemberOrder.Log

/-! What a sort command logs: settings files that it passed over, what became of the classes and
files, and texts that could not be written.
-/

set_option autoImplicit false

namespace MemberOrder

def Event.logEntry : Event → Log.Entry
  | classReordered file className =>
    ⟨.info, "Sorting members in class", [("file", file.text), ("class", className)]⟩
  | classSkipped file className =>
    ⟨.debug, "Class excluded from sorting", [("file", file.text), ("class", className)]⟩
  | classFailed file className message =>
    ⟨.error, message, [("file", file.text), ("class", className)]⟩
  | fileFailed file message => ⟨.error, message, [("file", file.text)]⟩

def Config.Error.logEntry : Config.Error → Log.Entry
  | unreadable path fault =>
    ⟨.warning, s!"Failed to read config file {path.text}: {fault.message}", []⟩
  | invalid => ⟨.warning, invalid.message ++ ". Using defaults.", []⟩

namespace Command

variable {σ : Type}

/-- Entries about settings files, which are searched for only if none is named. -/
def SortOptions.settingsLog [FileSystem σ] (options : SortOptions) (world : σ) : List Log.Entry :=
  match options.config with
  | some _ => []
  | none =>
    (Config.passedOver Config.ofToml? (FileSystem.read world) options.root).map
      Config.Error.logEntry

/-- Entries about the files of a batch and, unless the command ends before, about writing them. -/
def SortOptions.batchLog [FileSystem σ] (options : SortOptions) (run : Batch.Run) (world : σ) :
    List Log.Entry :=
  let failed := options.file.isSome && !run.report.failures.isEmpty
  let writes :=
    if failed || options.check then [] else (Batch.writeAll run.report.modified world).1.failures
  run.events.map Event.logEntry ++ writes.map fun error => ⟨.error, error.message, []⟩

def log [Searchable σ] (parse : Parser) (options : SortOptions) (world : σ) : List Log.Entry :=
  let files := do
    let config ← options.resolveConfig world
    return (config, ← options.collectFiles config world)
  let batch := match files with
    | .ok (config, files) =>
      options.batchLog (Batch.run (job parse config) world Batch.uncancelled files) world
    | .error _ => []
  options.settingsLog world ++ batch

end Command

end MemberOrder
