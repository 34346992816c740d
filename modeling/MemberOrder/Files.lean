import MemberOrder.Error

/-! What the sorter needs of files, and files kept in memory.
-/

set_option autoImplicit false

namespace MemberOrder

/-- Files that can be read and overwritten. A write tells whether it succeeded and leaves the
files behind it, also when it failed half-way. -/
class FileSystem (σ : Type) where
  read : σ → Path → Except FileFault String
  write : σ → Path → String → Except FileFault Unit × σ
  isFile : σ → Path → Bool

/-- Files in memory. Paths that are written differently but are the same name one file. -/
structure Store where
  files : List (Path × String)
  locked : List Path
  deriving DecidableEq, Repr

namespace Store

def empty : Store := ⟨[], []⟩

def get? (s : Store) (path : Path) : Option String :=
  (s.files.find? fun file => file.1.same path).map (·.2)

def isFile (s : Store) (path : Path) : Bool := (s.get? path).isSome

def put (s : Store) (path : Path) (text : String) : Store :=
  { s with files := s.files.filter (fun file => !file.1.same path) ++ [(path, text)] }

def remove (s : Store) (path : Path) : Store :=
  { s with files := s.files.filter fun file => !file.1.same path }

def isLocked (s : Store) (path : Path) : Bool := s.locked.any (·.same path)

def lock (s : Store) (path : Path) : Store :=
  if s.isLocked path then s else { s with locked := path :: s.locked }

def unlock (s : Store) (path : Path) : Store :=
  { s with locked := s.locked.filter fun other => !other.same path }

instance : FileSystem Store where
  read s path :=
    match s.get? path with
    | some text => .ok text
    | none => .error .absent
  write s path text :=
    if s.isLocked path then (.error .readOnly, s) else (.ok (), s.put path text)
  isFile := Store.isFile

end Store

end MemberOrder
