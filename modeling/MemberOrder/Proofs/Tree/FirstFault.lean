import MemberOrder.Proofs.Tree.Layout
import MemberOrder.Source.Sort

/-! The line that a syntax error is reported at.

The search for an error enters only nodes that are marked as having one. Where the marks are right
it finds the first faulty node of the whole tree, so the line of a parse failure is never a guess.
-/

set_option autoImplicit false

namespace MemberOrder

namespace Node

/-- A node is marked as having an error exactly if it or a node below it is faulty. -/
def MarksFaults (root : Node) : Prop :=
  ∀ n ∈ root.preorder, n.info.hasError = true ↔ ∃ m ∈ n.preorder, m.isFault = true

instance (root : Node) : Decidable root.MarksFaults :=
  inferInstanceAs (Decidable (∀ n ∈ root.preorder, _))

def firstFault? (root : Node) : Option Node := root.preorder.find? isFault

theorem MarksFaults.child {parent child : Node} (marked : parent.MarksFaults)
    (member : child ∈ parent.children) : child.MarksFaults :=
  fun n below => marked n (mem_preorder_of_child member below)

theorem MarksFaults.firstFault?_isSome {n : Node} (marked : n.MarksFaults) :
    n.firstFault?.isSome = true ↔ n.info.hasError = true := by
  rw [firstFault?, List.find?_isSome, marked n n.mem_preorder_self]

theorem MarksFaults.firstFault?_eq_none {n : Node} (marked : n.MarksFaults)
    (unmarked : ¬ n.info.hasError = true) : n.firstFault? = none := by
  rwa [← marked.firstFault?_isSome, Option.not_isSome_iff_eq_none] at unmarked

end Node

open Node (isFault firstFaultLine? firstFaultLineAmong?)

mutual

theorem Node.firstFaultLine?_eq : (n : Node) → n.MarksFaults →
    n.firstFaultLine? = n.firstFault?.map Node.line
  | .mk info children, marked => by
    rw [Node.firstFaultLine?, Node.firstFault?, Node.preorder, List.find?_cons]
    cases faulty : isFault (.mk info children) with
    | true => exact if_pos faulty
    | false =>
      have sound : ¬ (info.isError || info.isMissing) = true := Bool.eq_false_iff.mp faulty
      rw [if_neg sound]
      exact firstFaultLineAmong?_eq children fun child member => marked.child member

theorem firstFaultLineAmong?_eq : (children : List Node) →
    (∀ child ∈ children, child.MarksFaults) →
    firstFaultLineAmong? children = ((preorderAmong children).find? isFault).map Node.line
  | [], _ => by rw [firstFaultLineAmong?, preorderAmong]; rfl
  | child :: rest, marked => by
    obtain ⟨here, others⟩ := List.forall_mem_cons.mp marked
    have later := firstFaultLineAmong?_eq rest others
    rw [firstFaultLineAmong?, preorderAmong, List.find?_append, ← Node.firstFault?]
    split
    case isTrue entered =>
      -- There is a fault below a marked child, so the search ends there.
      obtain ⟨first, found⟩ := Option.isSome_iff_exists.mp (here.firstFault?_isSome.mpr entered)
      rw [Node.firstFaultLine?_eq child here, found]
      rfl
    case isFalse pruned =>
      rw [here.firstFault?_eq_none pruned, Option.none_or, later]

end

theorem Node.MarksFaults.fault?_eq {root : Node} (marked : root.MarksFaults) :
    root.fault? = root.firstFault?.map fun first => .nearLine first.line := by
  rw [Node.fault?, root.firstFaultLine?_eq marked]
  split
  case isTrue faulty =>
    obtain ⟨first, found⟩ := Option.isSome_iff_exists.mp (marked.firstFault?_isSome.mpr faulty)
    rw [found]
    rfl
  case isFalse clean => rw [marked.firstFault?_eq_none clean, Option.map_none]

/-- Where the marks are right, the search answers exactly if the root is marked, and then with the
line of the first faulty node of the whole tree. Reading the classes fails for these trees alone and
reports that line, whatever line would be reported if the search had no answer. -/
theorem firstFault_reported {root : Node} (marked : root.MarksFaults) :
    (root.firstFaultLine?.isSome = true ↔ root.info.hasError = true) ∧
      root.firstFaultLine? = root.firstFault?.map Node.line ∧
      (root.info.hasError = true → ∀ fallback,
        root.fault? = some (.nearLine (root.firstFaultLine?.getD fallback))) ∧
      ∀ path source error, parseClasses path source root = .error error ↔
        ∃ first, root.firstFault? = some first ∧ error = .parse path (.nearLine first.line) := by
  have line := root.firstFaultLine?_eq marked
  refine ⟨?_, line, ?_, ?_⟩
  · rw [line, Option.isSome_map, marked.firstFault?_isSome]
  · intro faulty fallback
    obtain ⟨first, found⟩ := Option.isSome_iff_exists.mp (marked.firstFault?_isSome.mpr faulty)
    rw [marked.fault?_eq, line, found]
    rfl
  · intro path source error
    rw [parseClasses, marked.fault?_eq]
    cases root.firstFault? with
    | none => simp
    | some first => simp [eq_comm]

namespace Torn

def marked (kind field : String) (span : Span) (startRow endRow : Nat) (children : List Node) :
    Node :=
  .mk ⟨kind, true, false, false, true, field, span, startRow, endRow⟩ children

def missing (kind : String) (place row : Nat) : Node :=
  .mk ⟨kind, false, false, true, true, "", ⟨place, place⟩, row, row⟩ []

/-- A method that returns `<div/>`, read by a grammar that knows no markup: a bracket and a brace are
missing, and between them stands text that could not be parsed. -/
def tree : Node :=
  marked "program" "" ⟨0, 51⟩ 0 4 [
    marked "class_declaration" "" ⟨0, 50⟩ 0 3 [
      .token "class" ⟨0, 5⟩ 0,
      .named "type_identifier" "name" ⟨6, 7⟩ 0 0 [],
      marked "class_body" "body" ⟨8, 50⟩ 0 3 [
        .token "\x7b" ⟨8, 9⟩ 0,
        marked "method_definition" "" ⟨12, 50⟩ 1 3 [
          .named "property_identifier" "name" ⟨12, 18⟩ 1 1 [],
          .named "formal_parameters" "parameters" ⟨18, 20⟩ 1 1
            [.token "(" ⟨18, 19⟩ 1, .token ")" ⟨19, 20⟩ 1],
          marked "statement_block" "body" ⟨21, 50⟩ 1 3 [
            .token "\x7b" ⟨21, 22⟩ 1,
            marked "return_statement" "" ⟨23, 48⟩ 1 2 [
              .token "return" ⟨23, 29⟩ 1,
              marked "type_assertion" "" ⟨30, 47⟩ 1 2 [
                marked "type_arguments" "" ⟨30, 34⟩ 1 1 [
                  .token "<" ⟨30, 31⟩ 1,
                  .named "type_identifier" "" ⟨31, 34⟩ 1 1 [],
                  missing ">" 34 1],
                .mk ⟨"ERROR", true, true, false, true, "", ⟨34, 39⟩, 1, 1⟩ [
                  .token "/" ⟨34, 35⟩ 1,
                  .named "regex_pattern" "" ⟨35, 39⟩ 1 1 []],
                .named "assignment_expression" "" ⟨42, 47⟩ 2 2 [
                  .named "identifier" "left" ⟨42, 43⟩ 2 2 [],
                  .token "=" ⟨44, 45⟩ 2,
                  .named "number" "right" ⟨46, 47⟩ 2 2 []]],
              .token ";" ⟨47, 48⟩ 2],
            .token "\x7d" ⟨49, 50⟩ 3]],
        missing "\x7d" 50 3]]]

end Torn

theorem firstFault_reported_torn :
    Torn.tree.MarksFaults ∧ Torn.tree.firstFault? = some (Torn.missing ">" 34 1) ∧
      Torn.tree.firstFaultLine? = some 2 ∧
      ∀ path source, parseClasses path source Torn.tree = .error (.parse path (.nearLine 2)) :=
  have marked : Torn.tree.MarksFaults := by decide
  have first : Torn.tree.firstFault? = some (Torn.missing ">" 34 1) := rfl
  have reported := firstFault_reported marked
  ⟨marked, first, by rw [reported.2.1, first]; rfl,
    fun path source => (reported.2.2.2 path source _).mpr ⟨_, first, rfl⟩⟩

end MemberOrder
