import MemberOrder.Config.Toml
import MemberOrder.Text.Digits

/-! The command line.

Arguments are read from left to right. An option that takes a value waits for it: the value may be
attached to the option, or be the next argument unless that one looks like an option itself. What
waits is looked at only when the next known argument arrives or the line ends, so an unknown
argument is reported before a bad value in front of it.
-/

set_option autoImplicit false

namespace MemberOrder.Command

inductive Parameter where
  | file
  | formatter
  | prettier
  | biome
  | check
  | rejectOverloads
  | config
  | format
  | noParallel
  | jobs
  | verbose
  | plain
  | init
  | force
  | help
  | version
  deriving DecidableEq, Repr

namespace Parameter

def takesValue : Parameter → Bool
  | file => true
  | formatter => true
  | config => true
  | format => true
  | jobs => true
  | _ => false

def ofLong? : String → Option Parameter
  | "formatter" => some formatter
  | "prettier" => some prettier
  | "biome" => some biome
  | "check" => some check
  | "reject-overloads" => some rejectOverloads
  | "config" => some config
  | "format" => some format
  | "no-parallel" => some noParallel
  | "jobs" => some jobs
  | "verbose" => some verbose
  | "plain" => some plain
  | "init" => some init
  | "force" => some force
  | "help" => some help
  | "version" => some version
  | _ => none

def ofShort? : Char → Option Parameter
  | 'c' => some config
  | 'f' => some format
  | 'j' => some jobs
  | 'v' => some verbose
  | 'h' => some help
  | 'V' => some version
  | _ => none

end Parameter

inductive ArgumentError where
  | invalidValue (parameter : Parameter) (value : String)
  | missingValue (parameter : Parameter)
  | invalidNumber (parameter : Parameter) (value : String)
  | unknownArgument (argument : String) (isOption : Bool)
  | conflict
  | unexpectedValue (parameter : Parameter) (value : String)
  | missingArgument
  | helpRequested
  | versionRequested
  deriving DecidableEq, Repr

inductive OutputFormat where
  | terminal
  | json
  deriving DecidableEq, Repr

structure Arguments where
  file : Option Path
  formatter : Option Formatter
  prettier : Bool
  biome : Bool
  check : Bool
  rejectOverloads : Bool
  config : Option Path
  format : Option OutputFormat
  noParallel : Bool
  jobs : Option Nat
  verbosity : Nat
  plain : Bool
  init : Bool
  force : Bool
  deriving DecidableEq, Repr

namespace Arguments

def empty : Arguments where
  file := none
  formatter := none
  prettier := false
  biome := false
  check := false
  rejectOverloads := false
  config := none
  format := none
  noParallel := false
  jobs := none
  verbosity := 0
  plain := false
  init := false
  force := false

/-- Whether a parameter was given that may be given once. -/
def has (a : Arguments) : Parameter → Bool
  | .file => a.file.isSome
  | .formatter => a.formatter.isSome
  | .prettier => a.prettier
  | .biome => a.biome
  | .check => a.check
  | .rejectOverloads => a.rejectOverloads
  | .config => a.config.isSome
  | .format => a.format.isSome
  | .noParallel => a.noParallel
  | .jobs => a.jobs.isSome
  | .plain => a.plain
  | .init => a.init
  | .force => a.force
  | .verbose => false
  | .help => false
  | .version => false

end Arguments

def path? (value : String) : Option Path := if value.isEmpty then none else some ⟨value⟩

def outputFormats : List (String × OutputFormat) := [("terminal", .terminal), ("json", .json)]

/-- Decimal digits after an optional plus sign, of a value that fits a machine word. -/
def count? (value : String) : Option Nat :=
  let digits := match value.toList with
    | '+' :: rest => rest
    | cs => cs
  (Text.nat? digits).filter (· < Text.wordLimit)

def orError {α : Type} (error : ArgumentError) : Option α → Except ArgumentError α
  | some value => .ok value
  | none => .error error

namespace Arguments

def setValue (a : Arguments) (parameter : Parameter) (value : String) :
    Except ArgumentError Arguments :=
  match parameter with
  | .file =>
    (orError (.missingValue parameter) (path? value)).map fun path => { a with file := some path }
  | .config =>
    (orError (.missingValue parameter) (path? value)).map fun path =>
      { a with config := some path }
  | .formatter =>
    (orError (.invalidValue parameter value) (Config.formatters.lookup value)).map fun tool =>
      { a with formatter := some tool }
  | .format =>
    (orError (.invalidValue parameter value) (outputFormats.lookup value)).map fun format =>
      { a with format := some format }
  | .jobs =>
    (orError (.invalidNumber parameter value) (count? value)).map fun count =>
      { a with jobs := some count }
  | _ => .error (.unexpectedValue parameter value)

def setFlag (a : Arguments) : Parameter → Except ArgumentError Arguments
  | .prettier => .ok { a with prettier := true }
  | .biome => .ok { a with biome := true }
  | .check => .ok { a with check := true }
  | .rejectOverloads => .ok { a with rejectOverloads := true }
  | .noParallel => .ok { a with noParallel := true }
  | .verbose => .ok { a with verbosity := min (a.verbosity + 1) 255 }
  | .plain => .ok { a with plain := true }
  | .init => .ok { a with init := true }
  | .force => .ok { a with force := true }
  | .help => .error .helpRequested
  | .version => .error .versionRequested
  | parameter => .error (.missingValue parameter)

/-- Takes in a parameter: a value it needs has to be there, and it may not be repeated. -/
def accept (a : Arguments) (parameter : Parameter) (value : Option String) :
    Except ArgumentError Arguments :=
  if parameter.takesValue && value.isNone then .error (.missingValue parameter)
  else if a.has parameter then .error .conflict
  else
    match value with
    | some value => a.setValue parameter value
    | none => a.setFlag parameter

def exclusive : List (Parameter × Parameter) := [
  (.formatter, .prettier), (.formatter, .biome), (.prettier, .biome), (.init, .file),
  (.init, .check)]

/-- Forcing is for writing new settings, unless something is given that rules those out. -/
def validate (a : Arguments) : Except ArgumentError Arguments :=
  if exclusive.any fun (first, second) => a.has first && a.has second then .error .conflict
  else if a.force && !a.init && a.file.isNone && !a.check then .error .missingArgument
  else .ok a

end Arguments

/-- A command line read so far. The value of the parameter that is pending, if it has come, was not
looked at yet. -/
structure Reading where
  arguments : Arguments
  pending : Option (Parameter × Option String)
  fileGiven : Bool
  filesOnly : Bool
  deriving DecidableEq, Repr

namespace Reading

def start : Reading := ⟨.empty, none, false, false⟩

def settle (r : Reading) : Except ArgumentError Reading :=
  match r.pending with
  | none => .ok r
  | some (parameter, value) =>
    (r.arguments.accept parameter value).map fun a => { r with arguments := a, pending := none }

def take (parameter : Parameter) (value : Option String) (r : Reading) :
    Except ArgumentError Reading := do
  let r ← r.settle
  let a ← r.arguments.accept parameter value
  return { r with arguments := a }

def await (parameter : Parameter) (value : Option String) (r : Reading) :
    Except ArgumentError Reading := do
  let r ← r.settle
  return { r with pending := some (parameter, value) }

/-- An argument that starts with two dashes, without them. -/
def readLong (body : List Char) (r : Reading) : Except ArgumentError Reading :=
  let name := String.ofList (body.takeWhile (· != '='))
  let value := match body.dropWhile (· != '=') with
    | _ :: value => some (String.ofList value)
    | [] => none
  match Parameter.ofLong? name with
  | none => .error (.unknownArgument ("--" ++ name) true)
  | some parameter =>
    if parameter.takesValue then
      match value with
      | some value => r.take parameter (some value)
      | none => r.await parameter none
    else
      match value with
      | some value => .error (.unexpectedValue parameter value)
      | none => r.take parameter none

/-- Letters behind one dash: flags, of which the last may be an option with its value. -/
def readShort (r : Reading) : List Char → Except ArgumentError Reading
  | [] => .ok r
  | letter :: rest =>
    match Parameter.ofShort? letter with
    | none => .error (.unknownArgument (String.ofList ['-', letter]) true)
    | some parameter =>
      if parameter.takesValue then
        match rest with
        | [] => r.await parameter none
        | '=' :: value => r.take parameter (some (String.ofList value))
        | value => r.take parameter (some (String.ofList value))
      else do
        let r ← r.take parameter none
        r.readShort rest

def readFile (argument : String) (r : Reading) : Except ArgumentError Reading := do
  if r.fileGiven then throw (.unknownArgument argument false)
  let r ← r.await .file (some argument)
  return { r with fileGiven := true }

def readPlain (argument : String) (r : Reading) : Except ArgumentError Reading :=
  match r.pending with
  | some (parameter, none) => .ok { r with pending := some (parameter, some argument) }
  | _ => r.readFile argument

def read (r : Reading) (argument : String) : Except ArgumentError Reading :=
  if r.filesOnly then r.readFile argument
  else
    match argument.toList with
    | ['-', '-'] => .ok { r with filesOnly := true }
    | '-' :: '-' :: body => r.readLong body
    | '-' :: c :: rest => r.readShort (c :: rest)
    | _ => r.readPlain argument

end Reading

def Arguments.parse (line : List String) : Except ArgumentError Arguments := do
  let r ← line.foldlM Reading.read .start
  let r ← r.settle
  r.arguments.validate

namespace Arguments

def formatterChoice (a : Arguments) : Option Formatter :=
  if a.prettier then some .prettier else if a.biome then some .biome else a.formatter

def overrides (a : Arguments) : Config.Overrides where
  formatter := a.formatterChoice
  overloads := if a.rejectOverloads then some .reject else none
  noParallel := a.noParallel
  jobs := a.jobs

def outputFormat (a : Arguments) : OutputFormat := a.format.getD .terminal

end Arguments

def logLevel : Nat → String
  | 0 => "warn"
  | 1 => "info"
  | 2 => "debug"
  | _ => "trace"

end MemberOrder.Command
