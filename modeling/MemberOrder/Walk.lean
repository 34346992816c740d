import MemberOrder.Config.Basic
import MemberOrder.Disk
import MemberOrder.Grammar
import MemberOrder.Ignore.Level
import MemberOrder.Text.Lines

/-! The search for source files below a directory.

Ignore files are honoured, and two directories are never entered. Of the files met, those with a
wanted extension are taken, unless they only declare types or a pattern excludes them.
-/

set_option autoImplicit false

namespace MemberOrder

open Ignore (DirectoryRules Level)

def prunedDirectories : List String := ["node_modules", ".git"]

namespace Disk

def rulesIn (d : Disk) (path : Path) : List Ignore.Rule :=
  match d.bytes? path with
  | some data => Ignore.rules (Text.lines data)
  | none => []

def firstLine? (d : Disk) (path : Path) : Option Text :=
  (d.bytes? path).bind fun data => ((Text.lines data).head?).map String.toList

/-- Where a repository with its top at `directory` keeps its own exclusions. A file in the place
of the usual directory names another one, which in turn names the common one. -/
def exclusionsPath? (d : Disk) (directory : Path) : Option Path :=
  let usual := directory.join ".git"
  let common := if d.isFile usual then do
      let link ← d.firstLine? usual
      let named := "gitdir: ".toList
      guard (named.isPrefixOf link)
      let real : Path := ⟨String.ofList (link.drop named.length)⟩
      let common ← d.firstLine? (real.join "commondir")
      let text := String.ofList common
      return if common.head? = some '.' then real.join text else ⟨text⟩
    else some usual
  common.map (·.join "info/exclude")

def repositoryMarks : List String := [".git", ".jj"]

def directoryRules (d : Disk) (directory : Path) : DirectoryRules where
  always := d.rulesIn (directory.join ".ignore")
  versioned := d.rulesIn (directory.join ".gitignore")
  excluded := ((d.exclusionsPath? directory).map d.rulesIn).getD []
  isRepository := repositoryMarks.any fun mark => d.holds (directory.join mark)

end Disk

namespace Walk

def levelsAbove (disk : Disk) (place : List String) : List Level :=
  (List.range place.length).reverse.map fun depth =>
    let directory := Disk.pathOf (place.take depth)
    ⟨disk.directoryRules directory, directory, true⟩

def isPruned (name : String) (child : FileTree) : Bool :=
  child.isDirectory && prunedDirectories.contains name

structure Search where
  disk : Disk
  root : Path
  place : Path

mutual

/-- The files at and below a path that no ignore file leaves out, or the directory that could not
be read. A file that cannot be reached is not met. -/
def filesBelow (s : Search) (path : Path) (levels : List Level) :
    FileTree → Except (Path × FileFault) (List Path)
  | .file _ => .ok (if s.disk.isFile path then [path] else [])
  | .directory entries =>
    match s.disk.lookup path with
    | .error fault => .error (path, fault)
    | .ok _ => filesAmong s path (⟨s.disk.directoryRules path, path, false⟩ :: levels) entries

def filesAmong (s : Search) (directory : Path) (levels : List Level) :
    List (String × FileTree) → Except (Path × FileFault) (List Path)
  | [] => .ok []
  | (name, child) :: rest => do
    let path := directory.join name
    let entry := Ignore.Entry.of s.root s.place path child.isDirectory
    let files ←
      if Ignore.leavesOut levels entry || isPruned name child then pure []
      else filesBelow s path levels child
    return files ++ (← filesAmong s directory levels rest)

end

/-- The path from `root` to a path below it, as patterns see it: a backslash counts as a slash. -/
def relativeText (root path : Path) : Text :=
  let names := (path.components.drop root.components.length).filterMap fun
    | .name name => some name.toList
    | _ => none
  (Text.join ['/'] names).map fun c => if c = '\\' then '/' else c

def isWanted (root : Path) (extensions : List String) (ignore : List Glob.Pattern) (path : Path) :
    Bool :=
  !path.isDeclaration &&
    (match path.extension? with
      | some extension => extensions.contains extension
      | none => false) &&
    !ignore.any fun pattern => pattern.fits (relativeText root path)

inductive Error where
  | pattern (error : Glob.PatternError)
  | unreadable (path : Path) (fault : FileFault)
  deriving DecidableEq, Repr

def Error.message : Error → String
  | pattern error => error.message
  | unreadable path fault =>
    s!"{path.text}: IO error for operation on {path.text}: {fault.message}"

def parsePatterns (patterns : List String) : Except Error (List Glob.Pattern) :=
  patterns.mapM fun pattern =>
    match Glob.Pattern.parse pattern with
    | .ok parsed => .ok parsed
    | .error error => .error (.pattern error)

/-- A dash stands for the standard input. -/
def isStandardInput (root : Path) : Bool := root.components == [.name "-"]

def meet (disk : Disk) (root : Path) : Except (Path × FileFault) (List Path) :=
  if isStandardInput root then .ok []
  else
    match disk.lookup root, disk.place root with
    | .ok tree, .ok place =>
      filesBelow ⟨disk, root, Disk.pathOf place⟩ root (levelsAbove disk place) tree
    | .error fault, _ => .error (root, fault)
    | _, .error fault => .error (root, fault)

def find (disk : Disk) (root : Path) (settings : Config.Discovery) :
    Except Error (List Path) := do
  let ignore ← parsePatterns settings.ignore
  match meet disk root with
  | .error (path, fault) => .error (.unreadable path fault)
  | .ok paths =>
    return (paths.filter (isWanted root settings.extensions ignore)).mergeSort Path.le

end Walk

/-- Files among which the sources below a directory can be searched for. -/
class Searchable (σ : Type) extends FileSystem σ where
  find : σ → Path → Config.Discovery → Except Walk.Error (List Path)

instance : Searchable Disk where
  find := Walk.find

end MemberOrder
