import MemberOrder.Files

/-! A disk: directories, files of bytes, and a working directory.
-/

set_option autoImplicit false

namespace MemberOrder

inductive FileTree where
  | file (data : ByteArray)
  | directory (entries : List (String × FileTree))

namespace FileTree

def isDirectory : FileTree → Bool
  | file _ => false
  | directory _ => true

def entries : FileTree → List (String × FileTree)
  | file _ => []
  | directory entries => entries

def child? (t : FileTree) (name : String) : Option FileTree := t.entries.lookup name

def find? (t : FileTree) : List String → Option FileTree
  | [] => some t
  | name :: rest => (t.child? name).bind fun child => child.find? rest

/-- The entries with one changed, added or removed. -/
def setEntry (name : String) (child : Option FileTree) (entries : List (String × FileTree)) :
    List (String × FileTree) :=
  match child with
  | none => entries.filter (·.1 != name)
  | some child =>
    if (entries.lookup name).isSome then
      entries.map fun entry => if entry.1 = name then (name, child) else entry
    else entries ++ [(name, child)]

/-- The tree with something else at a place below; directories on the way are made. -/
def replace (content : Option FileTree) : List String → FileTree → Option FileTree
  | [], _ => content
  | name :: rest, t =>
    let child := (t.child? name).getD (directory [])
    some (directory (setEntry name (child.replace content rest) t.entries))
termination_by place _ => place.length

end FileTree

/-- A tree of files and the place of the working directory in it. No file can grow beyond the write
limit, which counts bytes. -/
structure Disk where
  root : FileTree
  workingDirectory : List String
  writeLimit : Option Nat

namespace Disk

def pathOf (place : List String) : Path := ⟨"/" ++ "/".intercalate place⟩

/-- The way from the root down to some place, the last name first, with what is there under each
name. -/
abbrev Trail := List (String × Option FileTree)

def reached (d : Disk) : Trail → Option FileTree
  | [] => some d.root
  | (_, found) :: _ => found

/-- Goes on to an entry, which need not be there. -/
def step (d : Disk) (trail : Trail) (name : String) : Trail :=
  (name, (d.reached trail).bind (·.child? name)) :: trail

def enter (d : Disk) (trail : Trail) : Except FileFault Unit :=
  match d.reached trail with
  | none => .error .notFound
  | some (.file _) => .error .notDirectory
  | some (.directory _) => .ok ()

def nameLimit : Nat := 255

/-- The first number of bytes that a path may not have. -/
def pathLimit : Nat := 4096

/-- Follows components. Everything passed through has to be a directory. -/
def follow (d : Disk) : Trail → List Path.Component → Except FileFault Trail
  | trail, [] => .ok trail
  | _, .root :: rest => d.follow [] rest
  | trail, .current :: rest => do
    d.enter trail
    d.follow trail rest
  | trail, .parent :: rest => do
    d.enter trail
    d.follow trail.tail rest
  | trail, .name name :: rest => do
    d.enter trail
    if nameLimit < name.utf8ByteSize then .error .nameTooLong
    else d.follow (d.step trail name) rest

def meansDirectory (path : Path) : Bool :=
  match path.text.toList.reverse with
  | '/' :: _ => true
  | '.' :: '/' :: _ => true
  | _ => false

def trail (d : Disk) (path : Path) : Except FileFault Trail :=
  if path.text.toList.contains '\x00' then .error .nulInName
  else if path.text.isEmpty then .error .notFound
  else if pathLimit ≤ path.text.utf8ByteSize then .error .nameTooLong
  else d.follow (d.workingDirectory.foldl d.step []) path.components

def place (d : Disk) (path : Path) : Except FileFault (List String) := do
  let trail ← d.trail path
  return (trail.map (·.1)).reverse

def lookup (d : Disk) (path : Path) : Except FileFault FileTree := do
  match d.reached (← d.trail path) with
  | none => .error .notFound
  | some (.file data) =>
    if meansDirectory path then .error .notDirectory else .ok (.file data)
  | some tree => .ok tree

def bytes? (d : Disk) (path : Path) : Option ByteArray :=
  match d.lookup path with
  | .ok (.file data) => some data
  | _ => none

def isFile (d : Disk) (path : Path) : Bool := (d.bytes? path).isSome

def holds (d : Disk) (path : Path) : Bool := (d.lookup path).isOk

def read (d : Disk) (path : Path) : Except FileFault String := do
  match ← d.lookup path with
  | .directory _ => .error .isDirectory
  | .file data =>
    match String.fromUTF8? data with
    | some text => .ok text
    | none => .error .notText

def setFile (d : Disk) (place : List String) (data : ByteArray) : Disk :=
  { d with root := (d.root.replace (some (.file data)) place).getD d.root }

/-- Overwrites a file. What does not fit is cut off, and then the write has failed. -/
def write (d : Disk) (path : Path) (text : String) : Except FileFault Unit × Disk :=
  match d.place path with
  | .error fault => (.error fault, d)
  | .ok place =>
    match d.root.find? place with
    | some (.directory _) => (.error .isDirectory, d)
    | _ =>
      let data := text.toUTF8
      match d.writeLimit with
      | some limit =>
        if limit < data.size then (.error .tooLarge, d.setFile place (data.extract 0 limit))
        else (.ok (), d.setFile place data)
      | none => (.ok (), d.setFile place data)

instance : FileSystem Disk where
  read := Disk.read
  write := Disk.write
  isFile := Disk.isFile

/-- The place that components name without looking at the disk. -/
def plainPlace (base : List String) : List Path.Component → List String
  | [] => base
  | .root :: rest => plainPlace [] rest
  | .current :: rest => plainPlace base rest
  | .parent :: rest => plainPlace base.dropLast rest
  | .name name :: rest => plainPlace (base ++ [name]) rest

def create (d : Disk) (path : Path) (data : ByteArray) : Disk :=
  d.setFile (plainPlace d.workingDirectory path.components) data

def makeDirectory (d : Disk) (path : Path) : Disk :=
  let place := plainPlace d.workingDirectory path.components
  match d.root.find? place with
  | some (.directory _) => d
  | _ => { d with root := (d.root.replace (some (.directory [])) place).getD d.root }

def remove (d : Disk) (path : Path) : Disk :=
  let place := plainPlace d.workingDirectory path.components
  match d.root.find? place with
  | none => d
  | some _ => { d with root := (d.root.replace none place).getD (.directory []) }

def empty (workingDirectory : List String) : Disk :=
  { root := ((FileTree.directory []).replace (some (.directory [])) workingDirectory).getD
      (.directory [])
    workingDirectory := workingDirectory
    writeLimit := none }

end Disk

mutual

def FileTree.allFiles (place : List String) : FileTree → List (List String × ByteArray)
  | .file data => [(place, data)]
  | .directory entries => allFilesAmong place entries

def allFilesAmong (place : List String) :
    List (String × FileTree) → List (List String × ByteArray)
  | [] => []
  | (name, child) :: rest => child.allFiles (place ++ [name]) ++ allFilesAmong place rest

end

namespace Disk

def bytesAt? (d : Disk) (place : List String) : Option ByteArray :=
  match d.root.find? place with
  | some (.file data) => some data
  | _ => none

def changes (before after : Disk) : List (List String × ByteArray) :=
  (after.root.allFiles []).filter fun (place, data) => before.bytesAt? place != some data

def pathFromHere? (d : Disk) (place : List String) : Option Path :=
  if d.workingDirectory.isPrefixOf place then
    some ⟨"/".intercalate (place.drop d.workingDirectory.length)⟩
  else none

end Disk

end MemberOrder
