import MemberOrder.Command.Arguments
import MemberOrder.Command.Init
import MemberOrder.Command.Log

/-! A command line run from start to end: what it prints, how it exits, and what it leaves behind.
-/

set_option autoImplicit false

namespace MemberOrder.Command

def programName : String := "tidyclass"

def versionText : String := programName ++ " 0.3.0\n"

def helpText : String :=
  "Sort TypeScript class members into a canonical order\n\n" ++
  "Usage: " ++ programName ++ " [OPTIONS] [FILE]\n\n" ++
  "Arguments:\n" ++
  "  [FILE]  Sort a single file instead of every file under the working directory\n\n" ++
  "Options:\n" ++
  "      --formatter <FORMATTER>  Formatter to run on sorted files " ++
  "[possible values: none, prettier, biome]\n" ++
  "      --prettier               Shorthand for --formatter prettier\n" ++
  "      --biome                  Shorthand for --formatter biome\n" ++
  "      --check                  Report files that would change without writing them\n" ++
  "      --reject-overloads       Refuse files that declare overloaded methods\n" ++
  "  -c, --config <CONFIG>        Configuration file (defaults to the nearest " ++
  Config.fileName ++ ")\n" ++
  "  -f, --format <FORMAT>        Output format for the run summary [default: terminal] " ++
  "[possible values: terminal, json]\n" ++
  "      --no-parallel            Process files sequentially\n" ++
  "  -j, --jobs <JOBS>            Number of worker threads (0 = all cores)\n" ++
  "  -v, --verbose...             Increase verbosity level (can be repeated: -v, -vv, -vvv)\n" ++
  "      --plain                  Disable coloured output\n" ++
  "      --init                   Write a default " ++ Config.fileName ++
  " to the working directory and exit\n" ++
  "      --force                  Overwrite an existing config file with --init\n" ++
  "  -h, --help                   Print help\n" ++
  "  -V, --version                Print version\n"

structure Transcript where
  exitCode : Nat
  output : String
  errors : List String
  deriving DecidableEq, Repr

def Parameter.usage : Parameter → String
  | file => "[FILE]"
  | formatter => "--formatter <FORMATTER>"
  | prettier => "--prettier"
  | biome => "--biome"
  | check => "--check"
  | rejectOverloads => "--reject-overloads"
  | config => "--config <CONFIG>"
  | format => "--format <FORMAT>"
  | noParallel => "--no-parallel"
  | jobs => "--jobs <JOBS>"
  | verbose => "--verbose..."
  | plain => "--plain"
  | init => "--init"
  | force => "--force"
  | help => "--help"
  | version => "--version"

def Parameter.choices : Parameter → List String
  | formatter => Config.formatters.map (·.1)
  | format => outputFormats.map (·.1)
  | _ => []

def Parameter.possibleValues (parameter : Parameter) : String :=
  if parameter.choices.isEmpty then ""
  else "\n  [possible values: " ++ ", ".intercalate parameter.choices ++ "]"

def numberFault (value : String) : String :=
  if value.isEmpty then "cannot parse integer from empty string"
  else if (Text.nat? (value.toList.dropWhile (· == '+'))).isSome then
    "number too large to fit in target type"
  else "invalid digit found in string"

def ArgumentError.reason : ArgumentError → String
  | invalidValue parameter value =>
    s!"invalid value '{value}' for '{parameter.usage}'{parameter.possibleValues}"
  | missingValue parameter =>
    s!"a value is required for '{parameter.usage}' but none was supplied" ++
      parameter.possibleValues
  | invalidNumber parameter value =>
    s!"invalid value '{value}' for '{parameter.usage}': {numberFault value}"
  | unknownArgument argument isOption =>
    s!"unexpected argument '{argument}' found" ++
      if isOption then s!"\n\n  tip: to pass '{argument}' as a value, use '-- {argument}'" else ""
  | conflict => "the arguments cannot be used together"
  | unexpectedValue parameter value =>
    s!"unexpected value '{value}' for '{parameter.usage}' found; no more were expected"
  | missingArgument =>
    s!"the following required arguments were not provided:\n  {Parameter.init.usage}"
  | helpRequested => "help was requested"
  | versionRequested => "the version was requested"

def ArgumentError.message (e : ArgumentError) : String :=
  s!"error: {e.reason}\n\nFor more information, try '--help'."

def ArgumentError.transcript (e : ArgumentError) : Transcript :=
  match e with
  | helpRequested => ⟨0, helpText, []⟩
  | versionRequested => ⟨0, versionText, []⟩
  | _ => ⟨2, "", [e.message]⟩

def Arguments.sortOptions (a : Arguments) (root : Path) : SortOptions :=
  ⟨a.file, root, a.config, a.overrides, a.check⟩

def printSummary (color : Bool) (format : OutputFormat) (s : RunSummary) : String :=
  match format with
  | .terminal => s.terminal color ++ "\n"
  | .json => s.toJson.pretty 0 ++ "\n"

def Arguments.run (parse : Parser) (terminal : Bool) (a : Arguments) (world : World) :
    Except Error (Transcript × World) := do
  let root := Disk.pathOf world.disk.workingDirectory
  if a.init then
    let (_, world) ← Command.init root a.force world
    return (⟨0, s!"Created {Config.fileName} configuration file\n", []⟩, world)
  else
    let (summary, world) ← Command.sort parse (a.sortOptions root) world
    let color := terminal && !a.plain
    return (⟨summary.exitCode, printSummary color a.outputFormat summary, []⟩, world)

def Arguments.shownLog (parse : Parser) (a : Arguments) (disk : Disk) : List String :=
  if a.init then []
  else
    let entries := Command.log parse (a.sortOptions (Disk.pathOf disk.workingDirectory)) disk
    (entries.filter (·.isShown a.verbosity)).map (·.text !a.plain)

/-- Runs a command line; `terminal` says whether it prints to one. -/
def runLine (parse : Parser) (terminal : Bool) (line : List String) (world : World) :
    Transcript × World :=
  match Arguments.parse line with
  | .error error => (error.transcript, world)
  | .ok arguments =>
    let shown := arguments.shownLog parse world.disk
    match arguments.run parse terminal world with
    | .ok (transcript, after) => ({ transcript with errors := shown ++ transcript.errors }, after)
    | .error error => (⟨1, "", shown ++ ["Error: " ++ error.message]⟩, world)

end MemberOrder.Command
