import MemberOrder.Proofs.Class.Block

/-! Where the member lists of the collected classes stand.

Every member list lies between the braces of its class, and the braces of different classes do not
interlock: the lists of the collected classes follow one another in the source.
-/

set_option autoImplicit false

namespace MemberOrder

namespace Block

/-- The bytes from the first child of the block to the last. -/
def span (b : Block) : Span := ⟨b.first.span.start, b.last.span.stop⟩

theorem head?_nodes (b : Block) : b.nodes.head? = some b.first := by
  obtain ⟨leading, member, trailing⟩ := b
  cases leading <;> rfl

theorem getLast?_nodes (b : Block) : b.nodes.getLast? = some b.last := by
  simp [nodes, last, List.getLast?_append, List.getLast?_cons]

theorem head?_spans (b : Block) : (b.nodes.map Node.span).head? = some b.first.span := by
  rw [List.head?_map, b.head?_nodes, Option.map_some]

theorem getLast?_spans (b : Block) : (b.nodes.map Node.span).getLast? = some b.last.span := by
  rw [List.getLast?_map, b.getLast?_nodes, Option.map_some]

theorem inOrder_span {low high : Nat} {b : Block}
    (ordered : Span.InOrder low (b.nodes.map Node.span) high) :
    low ≤ b.span.start ∧ b.span.start ≤ b.span.stop ∧ b.span.stop ≤ high := by
  have bounds := ordered.ends b.head?_spans b.getLast?_spans
  exact bounds

theorem inOrder_spans {low high : Nat} {blocks : List Block}
    (ordered : Span.InOrder low ((blocks.flatMap nodes).map Node.span) high) :
    Span.InOrder low (blocks.map span) high := by
  induction blocks generalizing low with
  | nil => exact ordered
  | cons b rest ih =>
    rw [List.flatMap_cons, List.map_append] at ordered
    obtain ⟨middle, inside, beyond⟩ := Span.inOrder_append.mp ordered
    obtain ⟨start, width, stop⟩ := inOrder_span inside
    exact ⟨start, width, (ih beyond).weaken stop⟩

end Block

def Entry.span (e : Entry) : Span := ⟨e.start, e.stop⟩

theorem Entry.head?_spans {entries : List Entry} {first : Entry}
    (head : entries.head? = some first) : (entries.map Entry.span).head? = some first.span := by
  rw [List.head?_map, head, Option.map_some]

theorem Entry.getLast?_spans {entries : List Entry} {last : Entry}
    (tail : entries.getLast? = some last) :
    (entries.map Entry.span).getLast? = some last.span := by
  rw [List.getLast?_map, tail, Option.map_some]

theorem Entry.bounds {low high : Nat} {entries : List Entry} {first last : Entry}
    (ordered : Span.InOrder low (entries.map Entry.span) high) (head : entries.head? = some first)
    (tail : entries.getLast? = some last) :
    low ≤ first.start ∧ first.start ≤ last.stop ∧ last.stop ≤ high := by
  have bounds := ordered.ends (Entry.head?_spans head) (Entry.getLast?_spans tail)
  exact bounds

theorem Block.Yields.span_eq {source : Text} {ambient : Bool} {b : Block} {e : Entry}
    (yields : b.Yields source ambient e) : e.span = b.span := by
  obtain ⟨row, rfl⟩ := yields
  rfl

theorem Block.spans_eq {source : Text} {ambient : Bool} {blocks : List Block}
    {entries : List Entry} (yields : List.Forall₂ (Block.Yields source ambient) blocks entries) :
    entries.map Entry.span = blocks.map Block.span := by
  induction yields with
  | nil => rfl
  | cons yields _ ih => rw [List.map_cons, List.map_cons, yields.span_eq, ih]

theorem Node.bodyEntries_inOrder {source : Text} {ambient : Bool} {body : Node} {low high : Nat}
    (ordered : Span.InOrder low (body.content.map Node.span) high) :
    Span.InOrder low ((body.bodyEntries source ambient).map Entry.span) high := by
  obtain ⟨header, blocks, rest, blocked⟩ := body.blocked source ambient
  rw [blocked.split, List.map_append, List.map_append] at ordered
  obtain ⟨middle, first, later⟩ := Span.inOrder_append.mp ordered
  obtain ⟨middle', inside, beyond⟩ := Span.inOrder_append.mp later
  rw [Block.spans_eq blocked.entries]
  have blocks := (Block.inOrder_spans inside).weaken first.le
  have joined := Span.inOrder_append.mpr ⟨middle', blocks, beyond⟩
  exact joined.sublist (List.sublist_append_left _ _)

theorem Node.WellFormed.content_inOrder {source : Text} {body : Node}
    (formed : body.WellFormed source) :
    Span.InOrder body.span.start (body.content.map Node.span) body.span.stop :=
  formed.self.children.sublist (List.filter_sublist.map Node.span)

theorem Block.ends_mem {body : Node} {b : Block} (adjacent : b.nodes <:+: body.content) :
    b.first ∈ body.children ∧ b.last ∈ body.children := by
  have child (n : Node) (part : n ∈ b.nodes) : n ∈ body.children :=
    List.mem_of_mem_filter (adjacent.subset part)
  exact ⟨child _ (List.mem_of_head? b.head?_nodes), child _ (List.mem_of_getLast? b.getLast?_nodes)⟩

/-- An entry begins where a child of the body does and ends where a child does. -/
theorem Node.bodyEntries_ends {source : Text} {ambient : Bool} {body : Node} {e : Entry}
    (member : e ∈ body.bodyEntries source ambient) :
    ∃ first ∈ body.children, ∃ last ∈ body.children,
      e.start = first.span.start ∧ e.stop = last.span.stop := by
  obtain ⟨b, adjacent, -, row, rfl⟩ := Node.exists_block member
  obtain ⟨first, last⟩ := Block.ends_mem adjacent
  exact ⟨b.first, first, b.last, last, rfl, rfl⟩

theorem Node.WellFormed.bodyEntries_cut {source : Text} {body : Node}
    (formed : body.WellFormed source) {ambient : Bool} {e : Entry}
    (member : e ∈ body.bodyEntries source ambient) :
    source.IsCut e.start ∧ source.IsCut e.stop := by
  obtain ⟨first, firstChild, last, lastChild, start, stop⟩ := Node.bodyEntries_ends member
  rw [start, stop]
  exact ⟨(formed.child firstChild).self.startCut, (formed.child lastChild).self.stopCut⟩

/-! ## Braces -/

def Text.At (source : Text) (offset : Nat) (c : Char) : Prop :=
  source.IsCut offset ∧ ∃ rest, source.dropBytes offset = c :: rest

theorem Text.At.afterCode {source : Text} {offset : Nat} (opening : source.At offset '\x7b') :
    source.IsCut (offset + 1) ∧ source.AfterCode (offset + 1) := by
  obtain ⟨cut, rest, follows⟩ := opening
  have cut' : source.IsCut (offset + 1) := Text.IsCut.add cut (s := ['\x7b']) follows
  have piece : source.slice ⟨offset, offset + 1⟩ = ['\x7b'] :=
    Text.slice_of_dropBytes (s := ['\x7b']) follows
  refine ⟨cut', Text.afterCode_of_slice cut cut' (Nat.le_succ _) ?_⟩
  rw [piece]
  decide

theorem Text.at_of_slice {source : Text} {span : Span} {c : Char} (start : source.IsCut span.start)
    (stop : source.IsCut span.stop) (le : span.start ≤ span.stop) (single : c.utf8Size = 1)
    (piece : source.slice span = [c]) :
    source.At span.start c ∧ span.stop = span.start + 1 := by
  have follows := Text.slice_append_dropBytes start stop le
  have size := Text.byteSize_slice start stop le
  rw [piece] at follows size
  refine ⟨⟨start, source.dropBytes span.stop, follows.symm⟩, ?_⟩
  simp only [Text.byteSize_cons, single, Text.byteSize_nil] at size
  omega

theorem Node.content_eq {body opening closing : Node} {middle : List Node}
    (split : body.children = opening :: (middle ++ [closing])) (openingKind : opening.kind = "\x7b")
    (closingKind : closing.kind = "\x7d") :
    body.content = middle.filter fun n => !BodyScan.isBrace n := by
  have openingBrace : BodyScan.isBrace opening = true := by
    simp [BodyScan.isBrace, openingKind]
  have closingBrace : BodyScan.isBrace closing = true := by
    simp [BodyScan.isBrace, closingKind]
  simp [Node.content, split, openingBrace, closingBrace]

/-- The first and the last child are single characters, and the children but for braces lie between
them. -/
theorem Node.Braced.between {source : Text} {body : Node} (braced : body.Braced source)
    (formed : body.WellFormed source) :
    ∃ opening ∈ body.children.head?, ∃ closing ∈ body.children.getLast?,
      body.span.start ≤ opening.span.start ∧ opening.span.stop = opening.span.start + 1 ∧
      closing.span.stop = closing.span.start + 1 ∧ closing.span.stop ≤ body.span.stop ∧
      source.At opening.span.start '\x7b' ∧ source.At closing.span.start '\x7d' ∧
      Span.InOrder opening.span.stop (body.content.map Node.span) closing.span.start := by
  obtain ⟨opening, middle, closing, split, openingKind, openingText, closingKind, closingText⟩ :=
    braced.split
  have ordered := formed.self.children
  rw [split, List.map_cons, List.map_append] at ordered
  obtain ⟨openingStart, openingWidth, later⟩ := ordered
  obtain ⟨between, inside, closingStart, closingWidth, closingStop⟩ := Span.inOrder_append.mp later
  have openingMember : opening ∈ body.children := by simp [split]
  have closingMember : closing ∈ body.children := by simp [split]
  have openingPlaced := (formed.child openingMember).self
  have closingPlaced := (formed.child closingMember).self
  obtain ⟨openingAt, openingEnd⟩ := Text.at_of_slice openingPlaced.startCut openingPlaced.stopCut
    openingWidth (by decide) openingText
  obtain ⟨closingAt, closingEnd⟩ := Text.at_of_slice closingPlaced.startCut closingPlaced.stopCut
    closingWidth (by decide) closingText
  have content : body.content.Sublist middle := by
    rw [Node.content_eq split openingKind closingKind]
    exact List.filter_sublist
  have last : body.children.getLast? = some closing := by
    rw [split, ← List.cons_append, List.getLast?_concat]
  refine ⟨opening, by simp [split], closing, last, openingStart, openingEnd, closingEnd,
    closingStop, openingAt, closingAt, ?_⟩
  have reaches : Span.InOrder opening.span.stop (middle.map Node.span) closing.span.start := by
    have joined := Span.inOrder_append.mpr
      ⟨between, inside, (show Span.InOrder between [] closing.span.start from closingStart)⟩
    simpa using joined
  exact reaches.sublist (content.map Node.span)

/-- The children of a body but for braces lie between its two braces. -/
theorem Node.Braced.interior {source : Text} {body : Node} (braced : body.Braced source)
    (formed : body.WellFormed source) :
    ∃ opening closing, body.span.start ≤ opening ∧ closing + 1 ≤ body.span.stop ∧
      source.At opening '\x7b' ∧ source.At closing '\x7d' ∧
      Span.InOrder (opening + 1) (body.content.map Node.span) closing := by
  obtain ⟨opening, -, closing, -, start, openingEnd, closingEnd, stop, openingAt, closingAt,
    content⟩ := braced.between formed
  rw [openingEnd] at content
  rw [closingEnd] at stop
  exact ⟨_, _, start, stop, openingAt, closingAt, content⟩

/-! ## Member lists -/

namespace ClassDecl

def gapOf (closing : Option ClosingLine) : Text :=
  match closing with
  | some line => line.gap
  | none => []

theorem gapOf_isPrefix (source : Text) (stop classStart : Nat) :
    gapOf (closingLine? source stop classStart) <+:
      (source.dropBytes stop).takeWhile Text.isIndent := by
  simp only [closingLine?]
  split
  case isTrue => exact List.nil_prefix
  case isFalse =>
    simp only [gapOf, Text.takeWhile_isIndent_firstLine]
    exact List.prefix_rfl

theorem gapOf_follows (source : Text) (stop classStart : Nat) :
    ∃ rest, source.dropBytes stop = gapOf (closingLine? source stop classStart) ++ rest := by
  obtain ⟨more, joined⟩ := gapOf_isPrefix source stop classStart
  refine ⟨more ++ (source.dropBytes stop).dropWhile Text.isIndent, ?_⟩
  rw [← List.append_assoc, joined, List.takeWhile_append_dropWhile]

theorem extent_of_ends {source : Text} {classStart : Nat} {entries : List Entry}
    {first last : Entry} (head : entries.head? = some first) (tail : entries.getLast? = some last) :
    extent source classStart entries =
      (some ⟨source.toLineStart first.start,
        last.stop + Text.byteSize (gapOf (closingLine? source last.stop classStart))⟩,
        closingLine? source last.stop classStart) := by
  simp only [extent, head, tail, gapOf]
  cases closingLine? source last.stop classStart <;> rfl

/-- The declaration is read off a class node that has the given body. -/
structure ReadFrom (source : Text) (node body : Node) (ambient : Bool) (c : ClassDecl) : Prop where
  hasBody : node.classBody? = some body
  members : c.members = groupOverloads source (body.bodyEntries source ambient)
  extent : (c.span, c.closing) =
    ClassDecl.extent source node.span.start (body.bodyEntries source ambient)
  lineEnding : c.lineEnding = .ofText source

theorem readFrom_of_classBody? {source : Text} {parent node body : Node} {before : Option Node}
    {c : ClassDecl} (hasBody : node.classBody? = some body)
    (built : ofNode? source parent before node = some c) :
    c.ReadFrom source node body (parent.kind = "ambient_declaration") := by
  rw [ofNode?, (Node.classBody?_eq_some_iff.mp hasBody).2, Option.map_some] at built
  cases built
  exact ⟨hasBody, rfl, rfl, rfl⟩

theorem readFrom_of_ofNode? {source : Text} {parent node : Node} {before : Option Node}
    {c : ClassDecl} (isClass : node.isClass = true)
    (read : ofNode? source parent before node = some c) :
    ∃ body ambient, c.ReadFrom source node body ambient := by
  obtain ⟨body, found, -⟩ := Option.map_eq_some_iff.mp read
  exact ⟨body, _, readFrom_of_classBody? (Node.classBody?_eq_some_iff.mpr ⟨isClass, found⟩) read⟩

/-- A body without entries has no member list, and any other has one from its first entry to its
last. -/
theorem ReadFrom.extent_cases {source : Text} {node body : Node} {ambient : Bool} {c : ClassDecl}
    (read : c.ReadFrom source node body ambient) :
    (body.bodyEntries source ambient = [] ∧ c.span = none) ∨
      ∃ first last, (body.bodyEntries source ambient).head? = some first ∧
        (body.bodyEntries source ambient).getLast? = some last ∧
        c.span = some ⟨source.toLineStart first.start,
          last.stop + Text.byteSize (gapOf (closingLine? source last.stop node.span.start))⟩ ∧
        c.closing = closingLine? source last.stop node.span.start := by
  have extent := read.extent
  cases entries : body.bodyEntries source ambient with
  | nil =>
    rw [entries] at extent
    exact Or.inl ⟨rfl, congrArg Prod.fst extent⟩
  | cons first rest =>
    have tail : (first :: rest).getLast? = some ((first :: rest).getLast (by simp)) :=
      List.getLast?_eq_some_getLast _
    rw [entries, extent_of_ends rfl tail, Prod.mk.injEq] at extent
    exact Or.inr ⟨first, _, rfl, tail, extent.1, extent.2⟩

theorem ReadFrom.span_eq {source : Text} {node body : Node} {ambient : Bool} {c : ClassDecl}
    {span : Span} (read : c.ReadFrom source node body ambient) (found : c.span = some span) :
    ∃ first last, (body.bodyEntries source ambient).head? = some first ∧
      (body.bodyEntries source ambient).getLast? = some last ∧
      span = ⟨source.toLineStart first.start,
        last.stop + Text.byteSize (gapOf (closingLine? source last.stop node.span.start))⟩ ∧
      c.closing = closingLine? source last.stop node.span.start := by
  rcases read.extent_cases with ⟨-, none⟩ | ⟨first, last, head, tail, span, closing⟩
  · rw [none] at found
    cases found
  · exact ⟨first, last, head, tail, Option.some.inj (found.symm.trans span), closing⟩

/-- The gap reaches at most to the next character that is no indentation, such as the closing
brace. -/
theorem gapOf_stop {source : Text} {stop next : Nat} {c : Char} (cut : source.IsCut stop)
    (nextAt : source.At next c) (code : Text.isIndent c = false) (le : stop ≤ next)
    (classStart : Nat) :
    source.IsCut (stop + Text.byteSize (gapOf (closingLine? source stop classStart))) ∧
      stop + Text.byteSize (gapOf (closingLine? source stop classStart)) ≤ next := by
  obtain ⟨nextCut, after, follows⟩ := nextAt
  obtain ⟨more, joined⟩ := gapOf_isPrefix source stop classStart
  obtain ⟨rest, split⟩ := gapOf_follows source stop classStart
  refine ⟨cut.add split, ?_⟩
  -- The gap is made of indentation, so it ends before that character.
  have inside : gapOf (closingLine? source stop classStart) ++ more <+:
      source.slice ⟨stop, next⟩ := by
    rw [joined, ← Text.slice_append_dropBytes cut nextCut le, follows,
      List.takeWhile_append]
    split
    · simp [code]
    · exact List.takeWhile_prefix _
  obtain ⟨rest, piece⟩ := inside
  have size := Text.byteSize_slice cut nextCut le
  rw [← piece, Text.byteSize_append, Text.byteSize_append] at size
  omega

/-- The span lies between braces, and these between two offsets. -/
def Fenced (source : Text) (low : Nat) (span : Span) (high : Nat) : Prop :=
  ∃ opening closing, low ≤ opening ∧ opening < span.start ∧ span.start ≤ span.stop ∧
    span.stop ≤ closing ∧ closing < high ∧ source.At opening '\x7b' ∧ source.At closing '\x7d' ∧
    source.IsCut span.start ∧ source.IsCut span.stop

theorem Fenced.le {source : Text} {low high : Nat} {span : Span}
    (fenced : Fenced source low span high) : low ≤ high := by
  obtain ⟨opening, closing, start, inside⟩ := fenced
  omega

theorem Fenced.cuts {source : Text} {low high : Nat} {span : Span}
    (fenced : Fenced source low span high) :
    source.IsCut span.start ∧ source.IsCut span.stop := by
  obtain ⟨opening, closing, -, -, -, -, -, -, -, cuts⟩ := fenced
  exact cuts

theorem Fenced.widen {source : Text} {low low' high high' : Nat} {span : Span}
    (fenced : Fenced source low span high) (le : low' ≤ low) (le' : high ≤ high') :
    Fenced source low' span high' := by
  obtain ⟨opening, closing, start, after, width, before, stop, braces⟩ := fenced
  exact ⟨opening, closing, Nat.le_trans le start, after, width, before,
    Nat.lt_of_lt_of_le stop le', braces⟩

/-- A member list stays between the braces that the entries stay between. -/
theorem ReadFrom.span_between {source : Text} {node body : Node} {ambient : Bool} {c : ClassDecl}
    {span : Span} {opening closing : Nat} (read : c.ReadFrom source node body ambient)
    (formed : body.WellFormed source) (openingAt : source.At opening '\x7b')
    (closingAt : source.At closing '\x7d')
    (content : Span.InOrder (opening + 1) (body.content.map Node.span) closing)
    (found : c.span = some span) :
    opening < span.start ∧ span.start ≤ span.stop ∧ span.stop ≤ closing ∧
      source.IsCut span.start ∧ source.IsCut span.stop := by
  have ordered : Span.InOrder (opening + 1)
      ((body.bodyEntries source ambient).map Entry.span) closing :=
    Node.bodyEntries_inOrder content
  obtain ⟨first, last, head, tail, rfl, -⟩ := read.span_eq found
  obtain ⟨start, width, stop⟩ := Entry.bounds ordered head tail
  have startCut := (formed.bodyEntries_cut (List.mem_of_head? head)).1
  have stopCut := (formed.bodyEntries_cut (List.mem_of_getLast? tail)).2
  -- The opening brace stands before the first entry, on its line or on an earlier one.
  obtain ⟨openingCut, openingCode⟩ := openingAt.afterCode
  have lineStart := openingCode.le_toLineStart openingCut startCut start
  have lineStart' := source.toLineStart_le first.start
  obtain ⟨gapCut, gapStop⟩ := gapOf_stop stopCut closingAt (by decide) stop node.span.start
  refine ⟨?_, ?_, gapStop, Text.isCut_toLineStart startCut, gapCut⟩
  · change opening < source.toLineStart first.start
    omega
  · change source.toLineStart first.start ≤ last.stop + _
    omega

theorem ReadFrom.fenced {source : Text} {node body : Node} {ambient : Bool} {c : ClassDecl}
    {span : Span} (read : c.ReadFrom source node body ambient) (formed : node.WellFormed source)
    (found : c.span = some span) :
    Fenced source node.span.start span node.span.stop := by
  have member := Node.mem_of_classBody? read.hasBody
  have bodyFormed := formed.child member
  have inside := formed.self.children.bounds (List.mem_map_of_mem member)
  obtain ⟨opening, closing, low, high, openingAt, closingAt, content⟩ :=
    (formed.braced node node.mem_preorder_self body read.hasBody).interior bodyFormed
  obtain ⟨start, width, stop, startCut, stopCut⟩ :=
    read.span_between bodyFormed openingAt closingAt content found
  exact ⟨opening, closing, Nat.le_trans inside.1 low, start, width, stop, by omega, openingAt,
    closingAt, startCut, stopCut⟩

/-! ## Collected classes -/

/-- The spans lie between braces of their own, which follow one another between two offsets. -/
def FencedInOrder (source : Text) : Nat → List Span → Nat → Prop
  | low, [], high => low ≤ high
  | low, span :: rest, high =>
    ∃ middle, Fenced source low span middle ∧ FencedInOrder source middle rest high

theorem FencedInOrder.weaken {source : Text} {low low' high : Nat} {spans : List Span}
    (le : low' ≤ low) (fenced : FencedInOrder source low spans high) :
    FencedInOrder source low' spans high := by
  cases spans with
  | nil => exact Nat.le_trans le fenced
  | cons span rest =>
    obtain ⟨middle, inside, later⟩ := fenced
    exact ⟨middle, inside.widen le (Nat.le_refl middle), later⟩

theorem FencedInOrder.append {source : Text} {low middle high : Nat} {first last : List Span}
    (before : FencedInOrder source low first middle)
    (after : FencedInOrder source middle last high) :
    FencedInOrder source low (first ++ last) high := by
  induction first generalizing low with
  | nil => exact after.weaken before
  | cons span rest ih =>
    obtain ⟨between, fenced, later⟩ := before
    exact ⟨between, fenced, ih later⟩

theorem FencedInOrder.split {source : Text} {low high : Nat} {first last : List Span}
    (fenced : FencedInOrder source low (first ++ last) high) :
    ∃ middle, FencedInOrder source middle last high := by
  induction first generalizing low with
  | nil => exact ⟨low, fenced⟩
  | cons span rest ih =>
    obtain ⟨between, -, later⟩ := fenced
    exact ih later

theorem FencedInOrder.sublist {source : Text} {low high : Nat} {some all : List Span}
    (sub : some.Sublist all) (fenced : FencedInOrder source low all high) :
    FencedInOrder source low some high := by
  induction sub generalizing low with
  | slnil => exact fenced
  | cons span sub ih =>
    obtain ⟨middle, inside, later⟩ := fenced
    exact (ih later).weaken inside.le
  | cons_cons span sub ih =>
    obtain ⟨middle, inside, later⟩ := fenced
    exact ⟨middle, inside, ih later⟩

theorem FencedInOrder.inOrder {source : Text} {low high : Nat} {spans : List Span}
    (fenced : FencedInOrder source low spans high) : Span.InOrder low spans high := by
  induction spans generalizing low with
  | nil => exact fenced
  | cons span rest ih =>
    obtain ⟨middle, ⟨opening, closing, start, inside⟩, later⟩ := fenced
    exact ⟨by omega, by omega, (ih later).weaken (by omega)⟩

theorem FencedInOrder.fenced {source : Text} {low high : Nat} {spans : List Span} {span : Span}
    (fenced : FencedInOrder source low spans high) (member : span ∈ spans) :
    Fenced source low span high := by
  induction spans generalizing low with
  | nil => cases member
  | cons first rest ih =>
    obtain ⟨middle, inside, later⟩ := fenced
    have low_le := inside.le
    have le_high := later.inOrder.le
    rcases List.mem_cons.mp member with same | member
    · rw [same]
      exact inside.widen (Nat.le_refl low) le_high
    · exact (ih later member).widen low_le (Nat.le_refl high)

theorem FencedInOrder.pairwise {source : Text} {low high : Nat} {spans : List Span}
    (fenced : FencedInOrder source low spans high) :
    spans.Pairwise fun s t => s.stop < t.start := by
  induction spans generalizing low with
  | nil => exact .nil
  | cons span rest ih =>
    obtain ⟨middle, ⟨opening, closing, inside⟩, later⟩ := fenced
    refine .cons (fun t member => ?_) (ih later)
    obtain ⟨opening', closing', inside'⟩ := later.fenced member
    omega

theorem ReadFrom.fencedInOrder {source : Text} {node body : Node} {ambient : Bool} {c : ClassDecl}
    (read : c.ReadFrom source node body ambient) (formed : node.WellFormed source) :
    FencedInOrder source node.span.start c.span.toList node.span.stop := by
  cases found : c.span with
  | none => exact formed.self.children.le
  | some span => exact ⟨node.span.stop, read.fenced formed found, Nat.le_refl _⟩

end ClassDecl

open ClassDecl (FencedInOrder readFrom_of_ofNode?)

mutual

theorem Node.classesBelow_fenced (source : Text) (outer : Option Node) :
    (n : Node) → n.WellFormed source →
    FencedInOrder source n.span.start ((n.classesBelow source outer).flatMap (·.span.toList))
      n.span.stop
  | .mk info children, formed => by
    rw [Node.classesBelow]
    exact classesAmong_fenced source _ outer none children (fun _ member => formed.child member)
      formed.self.children

theorem classesAmong_fenced (source : Text) (parent : Node) (outer previous : Option Node)
    {low high : Nat} : (children : List Node) → (∀ child ∈ children, child.WellFormed source) →
    Span.InOrder low (children.map Node.span) high →
    FencedInOrder source low
      ((classesAmong source parent outer previous children).flatMap (·.span.toList)) high
  | [], _, ordered => ordered
  | child :: rest, formed, ordered => by
    obtain ⟨start, width, later⟩ := ordered
    have childFormed := formed child List.mem_cons_self
    have others := classesAmong_fenced source parent outer (some child) rest
      (fun n member => formed n (List.mem_cons_of_mem _ member)) later
    rw [classesAmong, List.flatMap_append]
    refine FencedInOrder.append (FencedInOrder.weaken start ?_) others
    split
    case isTrue isClass =>
      cases read : ClassDecl.ofNode? source parent
          (if parent.wrapsDeclaration then outer else previous) child with
      | none => exact width
      | some c =>
        obtain ⟨body, ambient, readFrom⟩ := readFrom_of_ofNode? isClass read
        simpa using readFrom.fencedInOrder childFormed
    case isFalse => exact child.classesBelow_fenced source _ childFormed

end

/-- The member lists of the collected classes follow one another, each between braces of its
own. -/
theorem collectClasses_fenced {source : Text} {root : Node} (formed : root.WellFormed source) :
    FencedInOrder source root.span.start
      ((collectClasses source root).filterMap (·.span)) root.span.stop := by
  rw [List.filterMap_eq_flatMap_toList]
  exact root.classesBelow_fenced source none formed

mutual

theorem Node.readFrom_of_mem_classesBelow {source : Text} {outer : Option Node} {c : ClassDecl} :
    {n : Node} → c ∈ n.classesBelow source outer →
    ∃ node ∈ n.preorder, ∃ body ambient, c.ReadFrom source node body ambient
  | .mk info children, member => by
    rw [Node.classesBelow] at member
    obtain ⟨node, below, read⟩ := readFrom_of_mem_classesAmong member
    rw [Node.preorder]
    exact ⟨node, List.mem_cons_of_mem _ below, read⟩

theorem readFrom_of_mem_classesAmong {source : Text} {parent : Node}
    {outer previous : Option Node} {c : ClassDecl} :
    {children : List Node} → c ∈ classesAmong source parent outer previous children →
    ∃ node ∈ preorderAmong children, ∃ body ambient, c.ReadFrom source node body ambient
  | [], member => by simp [classesAmong] at member
  | child :: rest, member => by
    rw [classesAmong, List.mem_append] at member
    rw [preorderAmong]
    rcases member with here | later
    · split at here
      case isTrue isClass =>
        have read := readFrom_of_ofNode? isClass (Option.mem_toList.mp here)
        exact ⟨child, List.mem_append_left _ child.mem_preorder_self, read⟩
      case isFalse =>
        obtain ⟨node, below, read⟩ := Node.readFrom_of_mem_classesBelow here
        exact ⟨node, List.mem_append_left _ below, read⟩
    · obtain ⟨node, below, read⟩ := readFrom_of_mem_classesAmong later
      exact ⟨node, List.mem_append_right _ below, read⟩

end

/-- Every collected class is read off a class node of the tree. -/
theorem readFrom_of_mem_collectClasses {source : Text} {root : Node} {c : ClassDecl}
    (member : c ∈ collectClasses source root) :
    ∃ node ∈ root.preorder, ∃ body ambient, c.ReadFrom source node body ambient :=
  Node.readFrom_of_mem_classesBelow member

end MemberOrder
