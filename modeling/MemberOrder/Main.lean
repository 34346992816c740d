import MemberOrder.Command.Line
import MemberOrder.Tree.Listing

/-! The program: a command line run on the files of the machine.

What a run may look at is read into a disk, the command runs on that, and the files that it
changed are written back. Syntax trees come from listings next to the sources. No formatter is
started, so one that is asked for counts as not installed.
-/

set_option autoImplicit false

namespace MemberOrder.Program

def isOfUse (directory entry : String) : Bool :=
  directory != "node_modules" && (directory != ".git" || entry == "info")

/-- Reads an entry of a directory. A link to a directory is not followed. -/
partial def loadEntry (entry : IO.FS.DirEntry) : IO (Option (String × FileTree)) := do
  match (← entry.path.symlinkMetadata).type with
  | .dir =>
    let children := (← entry.path.readDir).filter fun child =>
      isOfUse entry.fileName child.fileName
    return some (entry.fileName, .directory (← children.toList.filterMapM loadEntry))
  | _ =>
    if ← entry.path.isDir then return none
    else return some (entry.fileName, .file (← IO.FS.readBinFile entry.path))

def loadFile (disk : Disk) (path : Path) : IO Disk := do
  if disk.isFile path then return disk
  match ← (IO.FS.readBinFile path.text).toBaseIO with
  | .ok data => return disk.create path data
  | .error _ => return disk

def namesAbove : List String := [
  Config.fileName, ".ignore", ".gitignore", ".git", ".git/HEAD", ".git/info/exclude", ".jj",
  ".jj/working_copy/type"]

def filesAbove (place : List String) : List Path :=
  (List.range place.length).flatMap fun depth =>
    namesAbove.map fun name => (Disk.pathOf (place.take depth)).join name

def filesNamed (line : List String) : List Path :=
  match Command.Arguments.parse line with
  | .error _ => []
  | .ok arguments =>
    arguments.config.toList ++
      arguments.file.toList.flatMap fun file => [file, Tree.listingOf file]

def loadDisk (line : List String) : IO Disk := do
  let here ← IO.currentDir
  let place := (Path.mk here.toString).components.filterMap fun
    | .name name => some name
    | _ => none
  let entries ← (← here.readDir).toList.filterMapM loadEntry
  let bare := Disk.empty place
  let disk := { bare with
    root := (bare.root.replace (some (.directory entries)) place).getD bare.root }
  (filesAbove place ++ filesNamed line).foldlM loadFile disk

def store (before after : Disk) : IO Unit :=
  (before.changes after).forM fun (place, data) =>
    IO.FS.writeBinFile (Disk.pathOf place).text data

end MemberOrder.Program

open MemberOrder in
def main (line : List String) : IO UInt32 := do
  let disk ← Program.loadDisk line
  let terminal ← (← IO.getStdout).isTty
  let (transcript, after) := Command.runLine disk.parser terminal line ⟨disk, .absent⟩
  Program.store disk after.disk
  IO.print transcript.output
  transcript.errors.forM fun message => IO.eprintln message
  return transcript.exitCode.toUInt32
