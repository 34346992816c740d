import Mathlib.Data.List.Forall2
import Mathlib.Data.List.Induction
import MemberOrder.Proofs.Tree.Layout

/-! What belongs to each member of a class body.

Reading a body cuts its children, braces aside, into what stays with the header, one block of
adjacent children for each entry, and what waits in vain for a member at the end. An entry is
determined by its block: it begins with the first child of the block and ends with the last.
-/

set_option autoImplicit false

namespace MemberOrder

/-- A child that is neither brace, comment, decorator nor separator. -/
def Node.isMember (n : Node) : Bool :=
  !(BodyScan.isBrace n || n.isComment || n.kind = "decorator" || BodyScan.isSeparator n)

def Node.isLineComment (source : Text) (n : Node) : Bool :=
  n.isComment && ['/', '/'].isPrefixOf (n.text source)

def Node.content (body : Node) : List Node := body.children.filter fun n => !BodyScan.isBrace n

/-- A member with the children that move with it. -/
structure Block where
  leading : List Node
  member : Node
  trailing : List Node

namespace Block

def nodes (b : Block) : List Node := b.leading ++ b.member :: b.trailing

/-- Only the member of a block is one. -/
structure Proper (b : Block) : Prop where
  leading : ∀ n ∈ b.leading, n.isMember = false
  member : b.member.isMember = true
  trailing : ∀ n ∈ b.trailing, n.isMember = false

def first (b : Block) : Node := b.leading.head?.getD b.member

def last (b : Block) : Node := b.trailing.getLast?.getD b.member

/-- A `//` comment behind the member ends the block. -/
def endsWithLineComment (source : Text) (b : Block) : Bool :=
  b.trailing.getLast?.any (·.isLineComment source)

def entry (source : Text) (ambient : Bool) (endRow : Nat) (b : Block) : Entry :=
  { b.member.toEntry source ambient b.first.span.start with
    stop := b.last.span.stop
    endRow := endRow
    endsWithLineComment := b.endsWithLineComment source }

def Yields (source : Text) (ambient : Bool) (b : Block) (e : Entry) : Prop :=
  ∃ endRow, e = b.entry source ambient endRow

def extend (child : Node) (b : Block) : Block := { b with trailing := b.trailing ++ [child] }

theorem nodes_extend (child : Node) (b : Block) : (b.extend child).nodes = b.nodes ++ [child] := by
  simp [nodes, extend]

@[simp] theorem member_extend (child : Node) (b : Block) : (b.extend child).member = b.member := rfl

@[simp] theorem last_extend (child : Node) (b : Block) : (b.extend child).last = child := by
  simp [last, extend]

@[simp] theorem first_extend (child : Node) (b : Block) : (b.extend child).first = b.first := rfl

@[simp] theorem endsWithLineComment_extend (source : Text) (child : Node) (b : Block) :
    (b.extend child).endsWithLineComment source = child.isLineComment source := by
  simp [endsWithLineComment, extend]

theorem Proper.extend {child : Node} {b : Block} (proper : b.Proper)
    (plain : child.isMember = false) : (b.extend child).Proper where
  leading := proper.leading
  member := proper.member
  trailing := List.forall_mem_append.mpr ⟨proper.trailing, List.forall_mem_singleton.mpr plain⟩

/-- What a trailing child does to the entry of a block. -/
theorem Yields.extend {source : Text} {ambient : Bool} {b : Block} {e : Entry} {child : Node}
    (yields : b.Yields source ambient e) (endRow : Nat) :
    (b.extend child).Yields source ambient
      { e with
        stop := child.span.stop
        endRow := endRow
        endsWithLineComment := child.isLineComment source } := by
  obtain ⟨row, rfl⟩ := yields
  exact ⟨endRow, by simp [entry]⟩

end Block

/-- The children read so far, latest block first: `header` precedes every block, and `waiting`
follows the latest. -/
structure BodyScan.Reads (source : Text) (ambient : Bool) (nodes : List Node) (scan : BodyScan)
    (header : List Node) (blocks : List Block) (waiting : List Node) : Prop where
  split : nodes = header ++ (blocks.reverse.flatMap Block.nodes ++ waiting)
  entries : List.Forall₂ (Block.Yields source ambient) blocks scan.entries
  pending : scan.pending = waiting.head?.map (·.span.start)
  header : ∀ n ∈ header, n.isMember = false
  blocks : ∀ b ∈ blocks, b.Proper
  waiting : ∀ n ∈ waiting, n.isMember = false

namespace BodyScan

variable {source : Text} {ambient : Bool} {nodes header waiting : List Node} {scan : BodyScan}
  {blocks : List Block} {child : Node}

theorem Reads.empty : Reads source ambient [] .empty [] [] [] where
  split := rfl
  entries := .nil
  pending := rfl
  header := by simp
  blocks := by simp
  waiting := by simp

theorem Reads.waiting_eq_nil (reads : Reads source ambient nodes scan header blocks waiting)
    (idle : scan.pending.isNone = true) : waiting = [] := by
  have pending := reads.pending
  cases waiting with
  | nil => rfl
  | cons n rest =>
    rw [pending] at idle
    exact absurd idle (by simp)

/-- A child before the first block stays with the header. -/
theorem Reads.toHeader (reads : Reads source ambient nodes scan header [] waiting)
    (idle : scan.pending.isNone = true) (plain : child.isMember = false) :
    Reads source ambient (nodes ++ [child]) scan (header ++ [child]) [] [] where
  split := by
    have none := reads.waiting_eq_nil idle
    simp [reads.split, none]
  entries := reads.entries
  pending := by simpa using idle
  header := List.forall_mem_append.mpr ⟨reads.header, List.forall_mem_singleton.mpr plain⟩
  blocks := reads.blocks
  waiting := by simp

/-- A child behind the latest block joins it. -/
theorem Reads.toLatest {b : Block} {last : Entry} {earlier : List Entry} {endRow : Nat}
    (reads : Reads source ambient nodes scan header (b :: blocks) waiting)
    (idle : scan.pending.isNone = true) (latest : scan.entries = last :: earlier)
    (plain : child.isMember = false) :
    Reads source ambient (nodes ++ [child])
      { scan with entries :=
          { last with
            stop := child.span.stop
            endRow := endRow
            endsWithLineComment := child.isLineComment source } :: earlier }
      header (b.extend child :: blocks) [] where
  split := by
    have none := reads.waiting_eq_nil idle
    simp [reads.split, none, Block.nodes_extend]
  entries := by
    have entries := reads.entries
    rw [latest, List.forall₂_cons] at entries
    exact .cons (entries.1.extend endRow) entries.2
  pending := by simpa using idle
  header := reads.header
  blocks := by
    obtain ⟨proper, others⟩ := List.forall_mem_cons.mp reads.blocks
    exact List.forall_mem_cons.mpr ⟨proper.extend plain, others⟩
  waiting := by simp

/-- A child that waits for the next member, behind others that wait if there are any. -/
theorem Reads.toWaiting (reads : Reads source ambient nodes scan header blocks waiting)
    (plain : child.isMember = false) :
    Reads source ambient (nodes ++ [child]) (scan.await child.span.start) header blocks
      (waiting ++ [child]) where
  split := by simp [reads.split]
  entries := reads.entries
  pending := by
    cases waiting with
    | nil => simp [await, reads.pending]
    | cons n rest => simp [await, reads.pending]
  header := reads.header
  blocks := reads.blocks
  waiting := List.forall_mem_append.mpr ⟨reads.waiting, List.forall_mem_singleton.mpr plain⟩

/-- A member takes what waits and begins a block. -/
theorem Reads.toMember (reads : Reads source ambient nodes scan header blocks waiting)
    (member : child.isMember = true) :
    Reads source ambient (nodes ++ [child])
      { entries := child.toEntry source ambient (scan.pending.getD child.span.start) :: scan.entries
        pending := none }
      header (⟨waiting, child, []⟩ :: blocks) [] where
  split := by simp [reads.split, Block.nodes]
  entries := by
    refine .cons ⟨child.info.endRow, ?_⟩ reads.entries
    rw [reads.pending]
    cases waiting with
    | nil => simp [Block.entry, Block.first, Block.last, Block.endsWithLineComment, Node.toEntry]
    | cons n rest =>
      simp [Block.entry, Block.first, Block.last, Block.endsWithLineComment, Node.toEntry]
  pending := rfl
  header := reads.header
  blocks := List.forall_mem_cons.mpr ⟨⟨reads.waiting, member, by simp⟩, reads.blocks⟩
  waiting := by simp

/-- Amending the latest entry joins the child to its block; with no entry the child stays with the
header. -/
theorem Reads.amend (reads : Reads source ambient nodes scan header blocks waiting)
    (endRow : Nat → Nat) (flag : Bool) (idle : scan.pending.isNone = true)
    (plain : child.isMember = false) (flagged : flag = child.isLineComment source) :
    ∃ header' blocks', Reads source ambient (nodes ++ [child])
      (scan.amend fun last =>
        { last with
          stop := child.span.stop
          endRow := endRow last.endRow
          endsWithLineComment := flag }) header' blocks' [] := by
  have entries := reads.entries
  cases blocks with
  | nil =>
    have none : scan.entries = [] := List.forall₂_nil_left_iff.mp entries
    refine ⟨header ++ [child], [], ?_⟩
    rw [BodyScan.amend, none]
    exact reads.toHeader idle plain
  | cons b earlier =>
    obtain ⟨last, others, _, _, latest⟩ := List.forall₂_cons_left_iff.mp entries
    refine ⟨header, b.extend child :: earlier, ?_⟩
    rw [BodyScan.amend, latest, flagged]
    exact reads.toLatest idle latest plain

theorem await_of_pending {start : Nat} (busy : scan.pending.isNone = false) :
    scan.await start = scan := by
  obtain ⟨entries, pending⟩ := scan
  cases pending with
  | none => exact absurd busy (by simp)
  | some first => rfl

/-- Reading one more child keeps the children cut into blocks. -/
theorem Reads.step (reads : Reads source ambient nodes scan header blocks waiting)
    (headerRow : Nat) (brace : isBrace child = false) :
    ∃ header' blocks' waiting', Reads source ambient (nodes ++ [child])
      (scan.step source ambient headerRow child) header' blocks' waiting' := by
  unfold BodyScan.step
  split
  case isTrue skipped =>
    -- A comment behind the opening brace, as the child is not a brace.
    simp only [brace, Bool.false_or, isHeaderComment, Bool.and_eq_true,
      List.isEmpty_iff] at skipped
    obtain ⟨⟨⟨comment, empty⟩, idle⟩, -⟩ := skipped
    have entries := reads.entries
    rw [empty, List.forall₂_nil_right_iff] at entries
    subst entries
    exact ⟨_, _, _, reads.toHeader idle (by simp [Node.isMember, comment])⟩
  case isFalse =>
    split
    case isTrue trivia =>
      have plain : child.isMember = false := by
        rcases Bool.or_eq_true_iff.mp trivia with comment | decorator
        · simp [Node.isMember, comment]
        · simp [Node.isMember, decorator]
      split
      case isTrue trailing =>
        -- A comment on the line where the latest entry ends.
        simp only [isTrailing, Bool.and_eq_true] at trailing
        have flagged : ['/', '/'].isPrefixOf (child.text source) = child.isLineComment source := by
          simp [Node.isLineComment, trailing.1.1]
        obtain ⟨header', blocks', amended⟩ := reads.amend id _ trailing.1.2 plain flagged
        exact ⟨_, _, _, amended⟩
      case isFalse => exact ⟨_, _, _, reads.toWaiting plain⟩
    case isFalse solid =>
      split
      case isTrue separator =>
        have plain : child.isMember = false := by simp [Node.isMember, separator]
        split
        case isTrue idle =>
          have flagged : false = child.isLineComment source := by
            simp only [Bool.or_eq_true, not_or, Bool.not_eq_true] at solid
            simp [Node.isLineComment, solid.1]
          obtain ⟨header', blocks', amended⟩ :=
            reads.amend (fun _ => child.info.endRow) _ idle plain flagged
          exact ⟨_, _, _, amended⟩
        case isFalse busy =>
          -- A separator between waiting comments changes nothing, and waits with them.
          have waits := reads.toWaiting plain
          rw [await_of_pending (Bool.eq_false_iff.mpr busy)] at waits
          exact ⟨_, _, _, waits⟩
      case isFalse separator =>
        have member : child.isMember = true := by
          simp only [Bool.or_eq_true, not_or, Bool.not_eq_true] at solid separator
          simp [Node.isMember, brace, solid.1, solid.2, separator]
        exact ⟨_, _, _, reads.toMember member⟩

end BodyScan

/-- Braces have no part in the reading of a body. -/
theorem Node.bodyEntries_content (source : Text) (ambient : Bool) (body : Node) :
    body.bodyEntries source ambient =
      (body.content.foldl (BodyScan.step source ambient body.info.startRow)
        .empty).entries.reverse := by
  have skips (scan : BodyScan) (children : List Node) :
      children.foldl (BodyScan.step source ambient body.info.startRow) scan =
        (children.filter fun n => !BodyScan.isBrace n).foldl
          (BodyScan.step source ambient body.info.startRow) scan := by
    induction children generalizing scan with
    | nil => rfl
    | cons child rest ih =>
      cases brace : BodyScan.isBrace child with
      | true => simp [BodyScan.step, brace, ih]
      | false => simp [brace, ih]
  rw [Node.bodyEntries, skips, Node.content]

/-- The content of a body is a header, a block for each entry, and a rest without members. -/
structure Node.Blocked (source : Text) (ambient : Bool) (body : Node) (header : List Node)
    (blocks : List Block) (rest : List Node) : Prop where
  split : body.content = header ++ (blocks.flatMap Block.nodes ++ rest)
  entries : List.Forall₂ (Block.Yields source ambient) blocks (body.bodyEntries source ambient)
  header : ∀ n ∈ header, n.isMember = false
  blocks : ∀ b ∈ blocks, b.Proper
  rest : ∀ n ∈ rest, n.isMember = false

theorem Node.blocked (source : Text) (ambient : Bool) (body : Node) :
    ∃ header blocks rest, body.Blocked source ambient header blocks rest := by
  have reads (nodes : List Node) (solid : ∀ n ∈ nodes, BodyScan.isBrace n = false) :
      ∃ header blocks waiting, BodyScan.Reads source ambient nodes
        (nodes.foldl (BodyScan.step source ambient body.info.startRow) .empty)
        header blocks waiting := by
    -- The fold reads from the left, so the induction takes the last child off.
    induction nodes using List.reverseRecOn with
    | nil => exact ⟨_, _, _, .empty⟩
    | append_singleton nodes child ih =>
      obtain ⟨earlier, last⟩ := List.forall_mem_append.mp solid
      obtain ⟨header, blocks, waiting, reads⟩ := ih earlier
      rw [List.foldl_concat]
      exact reads.step _ (last child List.mem_cons_self)
  have solid : ∀ n ∈ body.content, BodyScan.isBrace n = false := by
    intro n member
    simpa using (List.mem_filter.mp member).2
  obtain ⟨header, blocks, waiting, reads⟩ := reads body.content solid
  refine ⟨header, blocks.reverse, waiting, reads.split, ?_, reads.header, ?_, reads.waiting⟩
  · rw [body.bodyEntries_content]
    exact List.forall₂_reverse_iff.mpr reads.entries
  · intro b member
    exact reads.blocks b (List.mem_reverse.mp member)

theorem exists_related {α β : Type} {R : α → β → Prop} {xs : List α} {ys : List β} {y : β}
    (related : List.Forall₂ R xs ys) (member : y ∈ ys) : ∃ x ∈ xs, R x y := by
  induction related with
  | nil => cases member
  | @cons x y' xs ys here _ ih =>
    rcases List.mem_cons.mp member with rfl | later
    · exact ⟨x, List.mem_cons_self, here⟩
    · obtain ⟨x', inside, found⟩ := ih later
      exact ⟨x', List.mem_cons_of_mem _ inside, found⟩

theorem Node.Blocked.adjacent {source : Text} {ambient : Bool} {body : Node}
    {header rest : List Node} {blocks : List Block} {b : Block}
    (blocked : body.Blocked source ambient header blocks rest) (inside : b ∈ blocks) :
    b.nodes <:+: body.content := by
  obtain ⟨before, after, split⟩ := List.append_of_mem inside
  rw [blocked.split, split]
  exact ⟨header ++ before.flatMap Block.nodes, after.flatMap Block.nodes ++ rest, by simp⟩

/-- Every entry is that of a block of adjacent children. -/
theorem Node.exists_block {source : Text} {ambient : Bool} {body : Node} {e : Entry}
    (member : e ∈ body.bodyEntries source ambient) :
    ∃ b : Block, b.nodes <:+: body.content ∧ b.Proper ∧ b.Yields source ambient e := by
  obtain ⟨header, blocks, rest, blocked⟩ := body.blocked source ambient
  obtain ⟨b, inside, yields⟩ := exists_related blocked.entries member
  exact ⟨b, blocked.adjacent inside, blocked.blocks b inside, yields⟩

end MemberOrder
