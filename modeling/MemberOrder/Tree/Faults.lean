import MemberOrder.Error
import MemberOrder.Tree.Basic

/-! Syntax errors in a tree.

A tree with an error or missing node anywhere is not sorted: moving members of a class that was
only partly understood could tear it apart.
-/

set_option autoImplicit false

namespace MemberOrder.Node

/-- The node stands for text that could not be parsed, or for a token that is not there. -/
def isFault (n : Node) : Bool := n.info.isError || n.info.isMissing

mutual

/-- The line of the first faulty node. Only nodes marked as having an error are entered. -/
def firstFaultLine? : Node → Option Nat
  | mk info children =>
    if info.isError || info.isMissing then some (info.startRow + 1)
    else firstFaultLineAmong? children

def firstFaultLineAmong? : List Node → Option Nat
  | [] => none
  | child :: rest =>
    if child.info.hasError then
      match child.firstFaultLine? with
      | some line => some line
      | none => firstFaultLineAmong? rest
    else firstFaultLineAmong? rest

end

def fault? (root : Node) : Option ParseFault :=
  if root.info.hasError then some (.nearLine (root.firstFaultLine?.getD 1)) else none

end MemberOrder.Node
