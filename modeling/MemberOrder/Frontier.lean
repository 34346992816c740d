/-! Matching by frontiers.

A frontier marks the positions in a text at which the part of a pattern read so far can end. Each
token of a pattern moves the frontier in one pass along the text, so that a match takes time in
proportion to the sizes of pattern and text, whatever the wildcards.
-/

set_option autoImplicit false

namespace MemberOrder

/-- A mark for every position in a text, from before its first element to behind its last. -/
abbrev Frontier := List Bool

namespace Frontier

variable {α σ : Type}

def start (text : List α) : Frontier := true :: text.map fun _ => false

def isComplete (f : Frontier) : Bool := f.getLast? == some true

def union (f g : Frontier) : Frontier := List.zipWith (· || ·) f g

/-- A pass along a text. What is carried along decides, with the old mark of a position, on its
new mark, and changes from one position to the next by the element between them. -/
def pass (mark : σ → Bool → Bool) (next : σ → Bool → α → σ) : σ → List α → Frontier → Frontier
  | _, _, [] => []
  | carried, [], old :: _ => [mark carried old]
  | carried, a :: text, old :: marks =>
    mark carried old :: pass mark next (next carried old a) text marks

/-- Moves behind one element of a kind. -/
def one (f : Frontier) (isMember : α → Bool) (text : List α) : Frontier :=
  pass (fun arrived _ => arrived) (fun _ old a => old && isMember a) false text f

def many (f : Frontier) (isMember : α → Bool) (text : List α) : Frontier :=
  pass (fun arrived old => arrived || old) (fun arrived old a => (arrived || old) && isMember a)
    false text f

/-- Stays, or moves behind any later element of a kind. -/
def behind (f : Frontier) (isMember : α → Bool) (text : List α) : Frontier :=
  pass (fun carried old => carried.2 || old)
    (fun carried old a => (carried.1 || old, (carried.1 || old) && isMember a))
    (false, false) text f

def orEnd (f : Frontier) : Frontier := if f.any id then f.dropLast ++ [true] else f

end Frontier

end MemberOrder
