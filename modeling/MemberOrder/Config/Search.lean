import MemberOrder.Config.Basic
import MemberOrder.Files

/-! Where settings are found: in a file that is named, or in the nearest one up the directories.
-/

set_option autoImplicit false

namespace MemberOrder.Config

def fileName : String := ".tidyclass.toml"

def searchDepth : Nat := 10

inductive Error where
  | unreadable (path : Path) (fault : FileFault)
  | invalid
  deriving DecidableEq, Repr

def Error.message : Error → String
  | unreadable path fault => s!"Configuration error: Failed to read {path.text}: {fault.message}"
  | invalid => s!"Configuration error: Failed to parse {fileName}"

variable (parse : String → Option Config) (read : Path → Except FileFault String)

def load (path : Path) : Except Error Config :=
  match read path with
  | .error fault => .error (.unreadable path fault)
  | .ok text =>
    match parse text with
    | some config => .ok config
    | none => .error .invalid

/-- The settings of the nearest directory, from `start` upwards, whose file can be read and is
valid, and the standard ones if there is none. -/
def search (start : Path) : Config :=
  let candidate := fun (directory : Path) =>
    (load parse read (directory.join fileName)).toOption
  ((start.ancestors searchDepth).findSome? candidate).getD standard

/-- Why settings files nearer than the one that counts are passed over. That there is none is no
reason. -/
def passedOver (start : Path) : List Error :=
  let loaded := (start.ancestors searchDepth).map fun directory =>
    load parse read (directory.join fileName)
  (loaded.takeWhile fun settings => !settings.isOk).filterMap fun
    | .error (.unreadable _ .notFound) => none
    | .error error => some error
    | .ok _ => none

end MemberOrder.Config
