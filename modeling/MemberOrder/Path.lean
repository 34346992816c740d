/-! Slash-separated paths.

A path is kept as it was written and shown so. Its meaning is the list of its components: empty
ones and `.` inside a path do not count, so `dir//a` and `dir/./a` are the path `dir/a`, while a
leading `.` does count, so `./a` is not `a`.
-/

set_option autoImplicit false

namespace MemberOrder

structure Path where
  text : String
  deriving DecidableEq, Repr, Inhabited

namespace Path

inductive Component where
  | root
  | current
  | parent
  | name (text : String)
  deriving DecidableEq, Repr

namespace Component

def rank : Component → Nat
  | root => 0
  | current => 1
  | parent => 2
  | name _ => 3

def compare : Component → Component → Ordering
  | name a, name b => Ord.compare a b
  | a, b => Ord.compare a.rank b.rank

end Component

/-- The parts between slashes, each with the offset in characters at which it ends. -/
def segments : Nat → List Char → List Char → List (List Char × Nat)
  | offset, part, [] => [(part.reverse, offset)]
  | offset, part, c :: rest =>
    if c = '/' then (part.reverse, offset) :: segments (offset + 1) [] rest
    else segments (offset + 1) (c :: part) rest

def component? (leading : Bool) (part : List Char) : Option Component :=
  if part = [] then none
  else if part = ['.'] then (if leading then some .current else none)
  else if part = ['.', '.'] then some .parent
  else some (.name (String.ofList part))

def spans (p : Path) : List (Component × Nat) :=
  let parts := segments 0 [] p.text.toList
  let read := fun (leading : Bool) (part : List Char × Nat) =>
    (component? leading part.1).map fun c => (c, part.2)
  match parts with
  | [] => []
  | first :: rest =>
    if p.text.toList.head? = some '/' then (.root, 1) :: rest.filterMap (read false)
    else (read true first).toList ++ rest.filterMap (read false)

def components (p : Path) : List Component := p.spans.map (·.1)

/-- Two ways of writing one path. -/
def same (p q : Path) : Bool := p.components == q.components

def fileName? (p : Path) : Option String :=
  match p.components.getLast? with
  | some (.name n) => some n
  | _ => none

/-- What follows the last dot of the file name. A name whose only dot comes first has none. -/
def extension? (p : Path) : Option String :=
  match p.fileName? with
  | none => none
  | some n =>
    let chars := n.toList
    if chars.contains '.' then
      let after := (chars.reverse.takeWhile (· != '.')).reverse
      if after.length + 1 = chars.length then none else some (String.ofList after)
    else none

/-- The path without its last component, as far as it was written. The root and the empty path
have no parent. -/
def parent? (p : Path) : Option Path :=
  match p.spans.reverse with
  | [] => none
  | (.root, _) :: _ => none
  | _ :: [] => some ⟨""⟩
  | _ :: (_, stop) :: _ => some ⟨String.ofList (p.text.toList.take stop)⟩

def ancestors (p : Path) : Nat → List Path
  | 0 => []
  | depth + 1 =>
    p :: match p.parent? with
      | some parent => parent.ancestors depth
      | none => []

def join (dir : Path) (name : String) : Path :=
  match dir.text.toList.getLast? with
  | none => ⟨name⟩
  | some '/' => ⟨dir.text ++ name⟩
  | some _ => ⟨dir.text ++ "/" ++ name⟩

def compare (p q : Path) : Ordering :=
  List.compareLex Component.compare p.components q.components

def le (p q : Path) : Bool := (p.compare q).isLE

end Path

end MemberOrder
