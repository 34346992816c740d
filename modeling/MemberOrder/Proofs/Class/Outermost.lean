import Mathlib.Data.List.Infix
import Mathlib.Data.List.Forall2
import MemberOrder.Proofs.Tree.Address

/-! Which classes of a tree are collected.

The walk down the tree stops at the first class node on every branch. Seen from the whole tree, it
collects the class nodes with a body that have no class node above them, each once and in preorder.
What stands in front of an `export`, such as a decorator, is not below the class node.
-/

set_option autoImplicit false

namespace MemberOrder

def classKinds : List String := ["class_declaration", "abstract_class_declaration", "class"]

namespace Node

/-- A class, as a declaration or as an expression. The keyword token is of the same kind as the
expression, but it is not named. -/
def IsClassNode (n : Node) : Prop := n.info.isNamed = true ∧ n.kind ∈ classKinds

instance (n : Node) : Decidable n.IsClassNode := inferInstanceAs (Decidable (_ ∧ _))

theorem isClass_iff {n : Node} : n.isClass = true ↔ n.IsClassNode := by
  simp [isClass, IsClassNode, classKinds, or_assoc]

/-- At the address there is a class with a body that is not inside another class. -/
structure OutermostClass (root : Node) (a : Address) : Prop where
  hasBody : ∃ n ∈ root.at? a, n.IsClassNode ∧ (n.field? "body").isSome = true
  outermost : ∀ b, b <+: a → b ≠ a → ∀ above ∈ root.at? b, ¬ above.IsClassNode

instance (root : Node) : DecidablePred root.OutermostClass := fun a =>
  decidable_of_iff ((∃ n ∈ root.at? a, n.IsClassNode ∧ (n.field? "body").isSome = true) ∧
    ∀ b ∈ a.inits, b ≠ a → ∀ above ∈ root.at? b, ¬ above.IsClassNode)
    ⟨fun ⟨hasBody, outermost⟩ =>
      ⟨hasBody, fun b begins => outermost b ((List.mem_inits b a).mpr begins)⟩,
    fun ⟨hasBody, outermost⟩ =>
      ⟨hasBody, fun b listed => outermost b ((List.mem_inits b a).mp listed)⟩⟩

theorem outermostClass_nil {n : Node} :
    n.OutermostClass [] ↔ n.IsClassNode ∧ (n.field? "body").isSome = true := by
  constructor
  · rintro ⟨⟨_, ⟨⟩, here⟩, -⟩
    exact here
  · intro here
    exact ⟨⟨n, rfl, here⟩, fun b begins differs => absurd (List.prefix_nil.mp begins) differs⟩

theorem outermostClass_cons {n : Node} {i : Nat} {rest : Address} :
    n.OutermostClass (i :: rest) ↔
      ¬ n.IsClassNode ∧ ∃ child, n.children[i]? = some child ∧ child.OutermostClass rest := by
  constructor
  · rintro ⟨⟨node, found, here⟩, outermost⟩
    rw [Option.mem_def, at?_cons, Option.bind_eq_some_iff] at found
    obtain ⟨child, taken, below⟩ := found
    refine ⟨outermost [] List.nil_prefix (by simp) n rfl, child, taken, ⟨node, below, here⟩, ?_⟩
    intro b begins differs above found
    refine outermost (i :: b) (List.cons_prefix_cons.mpr ⟨rfl, begins⟩) (by simpa using differs)
      above ?_
    rwa [at?_cons, taken]
  · rintro ⟨ordinary, child, taken, ⟨node, below, here⟩, outermost⟩
    refine ⟨⟨node, by rwa [at?_cons, taken], here⟩, ?_⟩
    intro b begins differs above found
    rcases List.prefix_cons_iff.mp begins with rfl | ⟨b', rfl, begins'⟩
    · cases found
      exact ordinary
    · rw [at?_cons, taken] at found
      exact outermost b' begins' (by simpa using differs) above found

def outermostClasses (root : Node) : List Address :=
  root.addresses.filter fun a => root.OutermostClass a

theorem mem_outermostClasses {root : Node} {a : Address} :
    a ∈ root.outermostClasses ↔ root.OutermostClass a := by
  rw [outermostClasses, List.mem_filter, mem_addresses, decide_eq_true_iff]
  constructor
  · exact And.right
  · intro here
    obtain ⟨n, found, -⟩ := here.hasBody
    exact ⟨Option.isSome_iff_exists.mpr ⟨n, found⟩, here⟩

/-- Nothing below a class is outermost. -/
theorem outermostClasses_of_isClassNode {n : Node} (isClass : n.IsClassNode) :
    n.outermostClasses = if (n.field? "body").isSome then [[]] else [] := by
  cases n with
  | mk info children =>
    have below : (addressesAmong 0 children).filter
        (fun a => (Node.mk info children).OutermostClass a) = [] := by
      refine List.filter_eq_nil_iff.mpr fun a member => ?_
      obtain ⟨i, rest, child, rfl, -⟩ := mem_addressesAmong.mp member
      simp [outermostClass_cons, isClass]
    rw [outermostClasses, addresses, List.filter_cons, below]
    simp [outermostClass_nil, isClass]

theorem filter_outermostClass_below {parent child : Node} {i : Nat} (ordinary : ¬ parent.IsClassNode)
    (taken : parent.children[i]? = some child) :
    (child.addresses.map (i :: ·)).filter (fun a => parent.OutermostClass a) =
      child.outermostClasses.map (i :: ·) := by
  have below : (fun a => decide (parent.OutermostClass a)) ∘ (i :: ·) =
      fun a => decide (child.OutermostClass a) := by
    funext a
    simp [outermostClass_cons, ordinary, taken]
  rw [List.filter_map, below, outermostClasses]

/-- What stands directly before a node, or before the outermost of the declarations that wrap it. The
address of the node is read from the node up. -/
def leading? (root : Node) : List Nat → Option Node
  | [] => none
  | i :: up => (root.at? up.reverse).bind fun parent =>
    if parent.wrapsDeclaration then root.leading? up else (parent.children.take i).getLast?

def before? (root : Node) (a : Address) : Option Node := root.leading? a.reverse

theorem before?_concat {root parent : Node} {above : Address} (here : root.at? above = some parent)
    (i : Nat) : root.before? (above ++ [i]) =
      if parent.wrapsDeclaration then root.before? above else (parent.children.take i).getLast? := by
  rw [before?, List.reverse_append, List.reverse_singleton, List.singleton_append, leading?,
    List.reverse_reverse, here, Option.bind_some, before?]

/-- The class at the address is read as the declaration, with its parent and with what stands
before it. -/
def Declares (source : Text) (root : Node) (a : Address) (c : ClassDecl) : Prop :=
  ∃ parent node, root.at? a.dropLast = some parent ∧ root.at? a = some node ∧
    ClassDecl.ofNode? source parent (root.before? a) node = some c

theorem declares_ofNode? (source : Text) {root parent node : Node} {above : Address} {i : Nat}
    (here : root.at? above = some parent) (place : root.at? (above ++ [i]) = some node)
    (isClass : node.IsClassNode) :
    List.Forall₂ (root.Declares source) (node.outermostClasses.map (above ++ [i] ++ ·))
      (ClassDecl.ofNode? source parent (root.before? (above ++ [i])) node).toList := by
  have bodied : (ClassDecl.ofNode? source parent (root.before? (above ++ [i])) node).isSome =
      (node.field? "body").isSome := Option.isSome_map
  rw [outermostClasses_of_isClassNode isClass, ← bodied]
  cases read : ClassDecl.ofNode? source parent (root.before? (above ++ [i])) node with
  | none => exact .nil
  | some c =>
    have declares : root.Declares source (above ++ [i]) c :=
      ⟨parent, node, by rwa [List.dropLast_concat], place, read⟩
    exact .cons (by simpa using declares) .nil

end Node

mutual

theorem Node.declares_classesBelow (source : Text) (root : Node) {above : Address} : (n : Node) →
    root.at? above = some n → ¬ n.IsClassNode →
    List.Forall₂ (root.Declares source) (n.outermostClasses.map (above ++ ·))
      (n.classesBelow source (root.before? above))
  | .mk info children, here, ordinary => by
    have among := declares_classesAmong source root here ordinary children [] rfl
    have self : ¬ (Node.mk info children).OutermostClass [] := fun outermost =>
      ordinary (Node.outermostClass_nil.mp outermost).1
    rw [Node.outermostClasses, Node.addresses, List.filter_cons_of_neg (by simpa using self),
      Node.classesBelow]
    exact among

theorem declares_classesAmong (source : Text) (root : Node) {above : Address} {parent : Node}
    (here : root.at? above = some parent) (ordinary : ¬ parent.IsClassNode) :
    (children front : List Node) → parent.children = front ++ children →
    List.Forall₂ (root.Declares source)
      (((addressesAmong front.length children).filter fun a => parent.OutermostClass a).map
        (above ++ ·))
      (classesAmong source parent (root.before? above) front.getLast? children)
  | [], _, _ => by rw [addressesAmong, classesAmong]; exact .nil
  | child :: rest, front, split => by
    have taken := Node.getElem?_of_split split
    have place : root.at? (above ++ [front.length]) = some child :=
      (Node.at?_concat here _).trans taken
    have before : root.before? (above ++ [front.length]) =
        if parent.wrapsDeclaration then root.before? above else front.getLast? := by
      rw [Node.before?_concat here, split, List.take_left]
    have address : (above ++ ·) ∘ (front.length :: ·) = (above ++ [front.length] ++ ·) := by
      funext a
      simp
    have later := declares_classesAmong source root here ordinary rest (front ++ [child])
      (by simp [split])
    rw [List.length_append, List.length_singleton, List.getLast?_concat] at later
    rw [addressesAmong, List.filter_append, Node.filter_outermostClass_below ordinary taken,
      List.map_append, List.map_map, address, classesAmong, ← before]
    refine List.rel_append ?_ later
    split
    case isTrue isClass => exact Node.declares_ofNode? source here place (Node.isClass_iff.mp isClass)
    case isFalse other =>
      exact Node.declares_classesBelow source root child place (mt Node.isClass_iff.mpr other)

end

/-- The collected classes are the class nodes with a body that have no class node above them, each
collected once and in preorder, and read where it stands. No keyword is collected, and nothing inside a
collected class. -/
theorem collectClasses_outermost (source : Text) {root : Node} (ordinary : ¬ root.IsClassNode) :
    List.Forall₂ (root.Declares source) root.outermostClasses (collectClasses source root) ∧
      (∀ a, a ∈ root.outermostClasses ↔ root.OutermostClass a) ∧
      root.outermostClasses.Pairwise (· < ·) ∧
      (root.outermostClasses.map root.at?).Sublist (root.preorder.map some) ∧
      (∀ a, ∀ token ∈ root.at? a, token.info.isNamed = false → a ∉ root.outermostClasses) ∧
      ∀ a ∈ root.outermostClasses, ∀ b, a <+: b → b ≠ a → b ∉ root.outermostClasses := by
  refine ⟨?_, fun a => Node.mem_outermostClasses, ?_, ?_, ?_, ?_⟩
  · have declared : List.Forall₂ (root.Declares source) (root.outermostClasses.map ([] ++ ·))
        (collectClasses source root) := Node.declares_classesBelow source root root rfl ordinary
    simpa using declared
  · exact root.addresses_pairwise.sublist List.filter_sublist
  · rw [← root.addresses_at?]
    exact List.filter_sublist.map _
  · intro a token found unnamed member
    obtain ⟨n, here, ⟨named, -⟩, -⟩ := (Node.mem_outermostClasses.mp member).hasBody
    cases Option.some.inj (found.symm.trans here)
    rw [unnamed] at named
    cases named
  · intro a member b below differs inside
    obtain ⟨n, here, isClass, -⟩ := (Node.mem_outermostClasses.mp member).hasBody
    exact (Node.mem_outermostClasses.mp inside).outermost a below differs.symm n here isClass

namespace Nested

/-- A class with others in its heritage and in a member, and a class without a name. -/
def source : Text :=
  ("/** d */ export class A extends f(class \x7b\x7d) \x7b m() \x7b class B \x7b\x7d \x7d \x7d\n" ++
    "x = class \x7b\x7d;\n").toList

def emptyBody (start row : Nat) : Node :=
  .named "class_body" "body" ⟨start, start + 2⟩ row row
    [.token "\x7b" ⟨start, start + 1⟩ row, .token "\x7d" ⟨start + 1, start + 2⟩ row]

def tree : Node :=
  .named "program" "" ⟨0, 81⟩ 0 2 [
    .named "comment" "" ⟨0, 8⟩ 0 0 [],
    .named "export_statement" "" ⟨9, 66⟩ 0 0 [
      .token "export" ⟨9, 15⟩ 0,
      .named "class_declaration" "declaration" ⟨16, 66⟩ 0 0 [
        .token "class" ⟨16, 21⟩ 0,
        .named "type_identifier" "name" ⟨22, 23⟩ 0 0 [],
        .named "class_heritage" "" ⟨24, 43⟩ 0 0 [
          .named "extends_clause" "" ⟨24, 43⟩ 0 0 [
            .token "extends" ⟨24, 31⟩ 0,
            .named "call_expression" "value" ⟨32, 43⟩ 0 0 [
              .named "identifier" "function" ⟨32, 33⟩ 0 0 [],
              .named "arguments" "arguments" ⟨33, 43⟩ 0 0 [
                .token "(" ⟨33, 34⟩ 0,
                .named "class" "" ⟨34, 42⟩ 0 0 [.token "class" ⟨34, 39⟩ 0, emptyBody 40 0],
                .token ")" ⟨42, 43⟩ 0]]]],
        .named "class_body" "body" ⟨44, 66⟩ 0 0 [
          .token "\x7b" ⟨44, 45⟩ 0,
          .named "method_definition" "" ⟨46, 64⟩ 0 0 [
            .named "property_identifier" "name" ⟨46, 47⟩ 0 0 [],
            .named "formal_parameters" "parameters" ⟨47, 49⟩ 0 0
              [.token "(" ⟨47, 48⟩ 0, .token ")" ⟨48, 49⟩ 0],
            .named "statement_block" "body" ⟨50, 64⟩ 0 0 [
              .token "\x7b" ⟨50, 51⟩ 0,
              .named "class_declaration" "" ⟨52, 62⟩ 0 0 [
                .token "class" ⟨52, 57⟩ 0,
                .named "type_identifier" "name" ⟨58, 59⟩ 0 0 [],
                emptyBody 60 0],
              .token "\x7d" ⟨63, 64⟩ 0]],
          .token "\x7d" ⟨65, 66⟩ 0]]],
    .named "expression_statement" "" ⟨67, 80⟩ 1 1 [
      .named "assignment_expression" "" ⟨67, 79⟩ 1 1 [
        .named "identifier" "left" ⟨67, 68⟩ 1 1 [],
        .token "=" ⟨69, 70⟩ 1,
        .named "class" "right" ⟨71, 79⟩ 1 1 [.token "class" ⟨71, 76⟩ 1, emptyBody 77 1]],
      .token ";" ⟨79, 80⟩ 1]]

theorem outermostClasses_eq : tree.outermostClasses = [[1, 1], [2, 0, 2]] := by decide +kernel

end Nested

theorem collectClasses_outermost_nested :
    ¬ Nested.tree.IsClassNode ∧
      List.Forall₂ (Nested.tree.Declares Nested.source) [[1, 1], [2, 0, 2]]
        (collectClasses Nested.source Nested.tree) ∧
      (collectClasses Nested.source Nested.tree).map (fun c => (c.displayName, c.doc)) =
        [("A", some "/** d */".toList), ("<anonymous>", none)] := by
  have ordinary : ¬ Nested.tree.IsClassNode := by decide
  obtain ⟨declared, -⟩ := collectClasses_outermost Nested.source ordinary
  rw [Nested.outermostClasses_eq] at declared
  exact ⟨ordinary, declared, by decide +kernel⟩

end MemberOrder
