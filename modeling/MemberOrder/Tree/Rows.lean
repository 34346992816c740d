import MemberOrder.Tree.Basic

/-! Trees written as rows: the nodes in preorder, each with the number of its children.
-/

set_option autoImplicit false

namespace MemberOrder.Tree

structure Row where
  info : NodeInfo
  childCount : Nat
  deriving DecidableEq, Repr

/-- Puts a node in front of the trees that follow it, taking its children from them. -/
def Row.graft (row : Row) (following : List Node) : Option (List Node) :=
  if row.childCount ≤ following.length then
    some (.mk row.info (following.take row.childCount) :: following.drop row.childCount)
  else none

def ofRows? (rows : List Row) : Option Node :=
  match rows.foldr (fun row following => following.bind row.graft) (some []) with
  | some [root] => some root
  | _ => none

end MemberOrder.Tree
