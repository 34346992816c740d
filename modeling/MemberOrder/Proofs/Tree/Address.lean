import MemberOrder.Proofs.Tree.Layout

/-! Addresses of the nodes of a tree.

Equal nodes can stand at several places of a tree. The address of a node tells its place: which child
to take at each step down from the root. As lists, the addresses of a tree are ordered as its nodes
are in preorder.
-/

set_option autoImplicit false

namespace MemberOrder

abbrev Address := List Nat

def Node.at? : Node → Address → Option Node
  | n, [] => some n
  | n, i :: rest => n.children[i]?.bind fun child => child.at? rest

mutual

/-- The addresses of a node and of everything below it, in preorder. -/
def Node.addresses : Node → List Address
  | .mk _ children => [] :: addressesAmong 0 children

def addressesAmong (first : Nat) : List Node → List Address
  | [] => []
  | child :: rest => child.addresses.map (first :: ·) ++ addressesAmong (first + 1) rest

end

namespace Node

@[simp] theorem at?_nil (n : Node) : n.at? [] = some n := rfl

theorem at?_cons (n : Node) (i : Nat) (rest : Address) :
    n.at? (i :: rest) = n.children[i]?.bind fun child => child.at? rest := rfl

theorem at?_append (n : Node) (a b : Address) :
    n.at? (a ++ b) = (n.at? a).bind fun middle => middle.at? b := by
  induction a generalizing n with
  | nil => rfl
  | cons i a ih =>
    rw [List.cons_append, at?_cons, at?_cons, Option.bind_assoc]
    exact Option.bind_congr fun child _ => ih child

theorem at?_concat {n parent : Node} {above : Address} (here : n.at? above = some parent) (i : Nat) :
    n.at? (above ++ [i]) = parent.children[i]? := by
  rw [at?_append, here, Option.bind_some, at?_cons]
  cases parent.children[i]? <;> rfl

end Node

theorem mem_addressesAmong {first : Nat} {a : Address} {children : List Node} :
    a ∈ addressesAmong first children ↔
      ∃ i rest child, a = (first + i) :: rest ∧ children[i]? = some child ∧
        rest ∈ child.addresses := by
  induction children generalizing first with
  | nil => simp [addressesAmong]
  | cons child others ih =>
    rw [addressesAmong, List.mem_append, List.mem_map, ih]
    constructor
    · rintro (⟨rest, below, rfl⟩ | ⟨i, rest, other, rfl, found, below⟩)
      · exact ⟨0, rest, child, rfl, rfl, below⟩
      · exact ⟨i + 1, rest, other, by rw [Nat.add_assoc, Nat.add_comm 1], found, below⟩
    · rintro ⟨i, rest, other, rfl, found, below⟩
      cases i with
      | zero =>
        cases found
        exact Or.inl ⟨rest, below, rfl⟩
      | succ i =>
        exact Or.inr ⟨i, rest, other, by rw [Nat.add_assoc, Nat.add_comm 1], found, below⟩

/-- Every node of the tree has its address in the list. -/
theorem Node.mem_addresses {n : Node} {a : Address} :
    a ∈ n.addresses ↔ (n.at? a).isSome = true := by
  induction a generalizing n with
  | nil => cases n with | mk info children => simp [Node.addresses]
  | cons i rest ih =>
    cases n with
    | mk info children =>
      rw [Node.addresses, List.mem_cons, mem_addressesAmong, Node.at?_cons, Node.children]
      cases found : children[i]? with
      | none => simp [found]
      | some child => simp [found, ih]

mutual

theorem Node.addresses_pairwise : (n : Node) → n.addresses.Pairwise (· < ·)
  | .mk info children => by
    rw [Node.addresses]
    refine .cons (fun a member => ?_) (addressesAmong_pairwise 0 children)
    obtain ⟨i, rest, child, rfl, -⟩ := mem_addressesAmong.mp member
    exact List.nil_lt_cons _ _

theorem addressesAmong_pairwise (first : Nat) :
    (children : List Node) → (addressesAmong first children).Pairwise (· < ·)
  | [] => by rw [addressesAmong]; exact .nil
  | child :: rest => by
    rw [addressesAmong, List.pairwise_append]
    refine ⟨?_, addressesAmong_pairwise (first + 1) rest, ?_⟩
    · exact child.addresses_pairwise.map _ fun a b less =>
        List.cons_lt_cons_iff.mpr (Or.inr ⟨rfl, less⟩)
    · intro a here b later
      obtain ⟨a, -, rfl⟩ := List.mem_map.mp here
      obtain ⟨i, b, other, rfl, -⟩ := mem_addressesAmong.mp later
      exact List.cons_lt_cons_iff.mpr (Or.inl (by omega))

end

theorem Node.getElem?_of_split {parent child : Node} {front rest : List Node}
    (split : parent.children = front ++ child :: rest) :
    parent.children[front.length]? = some child := by
  rw [split, List.getElem?_append_right (Nat.le_refl _), Nat.sub_self]
  rfl

mutual

theorem Node.addresses_at? : (n : Node) → n.addresses.map n.at? = n.preorder.map some
  | .mk info children => by
    rw [Node.addresses, Node.preorder, List.map_cons, List.map_cons]
    exact congrArg _ (addressesAmong_at? (.mk info children) children [] rfl)

theorem addressesAmong_at? (parent : Node) : (children front : List Node) →
    parent.children = front ++ children →
    (addressesAmong front.length children).map parent.at? = (preorderAmong children).map some
  | [], _, _ => by rw [addressesAmong, preorderAmong]; rfl
  | child :: rest, front, split => by
    have later := addressesAmong_at? parent rest (front ++ [child]) (by simp [split])
    rw [List.length_append, List.length_singleton] at later
    have below : parent.at? ∘ (front.length :: ·) = child.at? := by
      funext a
      rw [Function.comp, Node.at?_cons, Node.getElem?_of_split split, Option.bind_some]
    rw [addressesAmong, preorderAmong, List.map_append, List.map_append, List.map_map, below,
      child.addresses_at?, later]

end

end MemberOrder
