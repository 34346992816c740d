import MemberOrder.Proofs.Class.Extent

/-! Reading classes with slices that can fail.

A piece of a text can be cut out only if its range is in order, inside the text and between
characters. The functions of `Guarded` read classes as the library does but give up at the first
slice with another range. Over a well-formed tree they never give up, so they find the same classes.
-/

set_option autoImplicit false

namespace MemberOrder

/-! ## Slices -/

namespace Text

def InRange (t : Text) (span : Span) : Prop :=
  t.IsCut span.start ∧ t.IsCut span.stop ∧ span.start ≤ span.stop

instance (t : Text) (span : Span) : Decidable (t.InRange span) :=
  inferInstanceAs (Decidable (_ ∧ _ ∧ _))

theorem isCut_end (t : Text) : t.IsCut (byteSize t) := by
  simpa using isCut_byteSize t []

theorem IsCut.inRange_before {t : Text} {n : Nat} (cut : t.IsCut n) : t.InRange ⟨0, n⟩ :=
  ⟨t.isCut_zero, cut, Nat.zero_le n⟩

theorem IsCut.inRange_behind {t : Text} {n : Nat} (cut : t.IsCut n) :
    t.InRange ⟨n, byteSize t⟩ := by
  refine ⟨cut, t.isCut_end, ?_⟩
  have whole := congrArg byteSize (takeBytes_append_dropBytes n t)
  rw [byteSize_append, cut] at whole
  change n ≤ byteSize t
  omega

theorem slice_before (t : Text) (n : Nat) : t.slice ⟨0, n⟩ = takeBytes n t := by
  simp [slice]

theorem IsCut.slice_behind {t : Text} {n : Nat} (cut : t.IsCut n) :
    t.slice ⟨n, byteSize t⟩ = dropBytes n t := by
  have rest := slice_append_dropBytes cut t.isCut_end cut.inRange_behind.2.2
  have nothing : dropBytes (byteSize t) t = [] := by
    simpa using dropBytes_byteSize t []
  rwa [nothing, List.append_nil] at rest

theorem IsCut.inRange_line {t : Text} {n : Nat} (cut : t.IsCut n) :
    t.InRange ⟨t.lineStart n, n⟩ :=
  ⟨cut.line.1, cut, Nat.sub_le _ _⟩

end Text

/-! ## The guarded reading -/

namespace Guarded

def slice (t : Text) (span : Span) : Option Text :=
  if t.InRange span then some (t.slice span) else none

def lineStart (t : Text) (n : Nat) : Option Nat := do
  let before ← slice t ⟨0, n⟩
  return n - Text.byteSize (Text.lastLine before)

def toLineStart (t : Text) (n : Nat) : Option Nat := do
  let start ← lineStart t n
  let line ← slice t ⟨start, n⟩
  return if line.all Text.isIndent then start else n

def nodeText (source : Text) (n : Node) : Option Text := slice source n.span

def nodeString (source : Text) (n : Node) : Option String :=
  (nodeText source n).map String.ofList

def isPrivateModifier (source : Text) (n : Node) : Option Bool :=
  if n.kind = "accessibility_modifier" then
    (nodeText source n).map fun text => Text.trim text == "private".toList
  else some false

def isPrivateMember (source : Text) (name : String) (n : Node) : Option Bool :=
  if name.toList.head? = some '#' then some true
  else n.children.anyM (isPrivateModifier source)

def toEntry (source : Text) (ambient : Bool) (start : Nat) (n : Node) : Option Entry := do
  let name ← match n.nameNode? with
    | some node => nodeString source node
    | none => some n.kind
  let isPrivate ← isPrivateMember source name n
  return {
    shape := n.memberShape ambient name
    nodeKind := n.kind
    name := name
    isStatic := n.isStaticMember
    isPrivate := isPrivate
    start := start
    stop := n.span.stop
    endRow := n.info.endRow
    line := n.line
    endsWithLineComment := false }

def step (source : Text) (ambient : Bool) (headerRow : Nat) (scan : BodyScan) (child : Node) :
    Option BodyScan :=
  if BodyScan.isBrace child || scan.isHeaderComment headerRow child then some scan
  else if child.isComment || child.kind = "decorator" then
    if scan.isTrailing child then do
      let text ← nodeText source child
      return scan.amend fun last =>
        { last with
          stop := child.span.stop
          endsWithLineComment := ['/', '/'].isPrefixOf text }
    else some (scan.await child.span.start)
  else if BodyScan.isSeparator child then
    if scan.pending.isNone then
      some (scan.amend fun last =>
        { last with
          stop := child.span.stop
          endRow := child.info.endRow
          endsWithLineComment := false })
    else some scan
  else do
    let entry ← toEntry source ambient (scan.pending.getD child.span.start) child
    return { entries := entry :: scan.entries, pending := none }

def bodyEntries (source : Text) (ambient : Bool) (body : Node) : Option (List Entry) := do
  let scan ← body.children.foldlM (step source ambient body.info.startRow) .empty
  return scan.entries.reverse

def entryText (source : Text) (e : Entry) : Option Text := do
  let start ← toLineStart source e.start
  slice source ⟨start, e.stop⟩

def toHandle (source : Text) (overloads : List Text) (e : Entry) : Option Handle := do
  let text ← entryText source e
  return {
    kind := e.handleKind
    name := e.name
    isStatic := e.isStatic
    isPrivate := e.isPrivate
    text := text
    overloads := overloads
    line := e.line
    endsWithLineComment := e.endsWithLineComment }

def orphans (source : Text) (waiting : List Entry) : Option (List Handle) :=
  waiting.mapM (toHandle source [])

def groupFrom (source : Text) : List Entry → List Entry → Option (List Handle)
  | waiting, [] => orphans source waiting
  | waiting, e :: rest =>
    if e.shape = .signature then
      match waiting.getLast? with
      | some last =>
        if last.name = e.name then groupFrom source (waiting ++ [e]) rest
        else do
          let alone ← orphans source waiting
          let later ← groupFrom source [e] rest
          return alone ++ later
      | none => groupFrom source [e] rest
    else if e.implements waiting then do
      let overloads ← waiting.mapM (entryText source)
      let handle ← toHandle source overloads e
      let later ← groupFrom source [] rest
      return handle :: later
    else do
      let alone ← orphans source waiting
      let handle ← toHandle source [] e
      let later ← groupFrom source [] rest
      return alone ++ handle :: later

def closingLine (source : Text) (stop classStart : Nat) : Option (Option ClosingLine) := do
  let rest ← slice source ⟨stop, Text.byteSize source⟩
  let line := Text.firstLine rest
  let code := line.dropWhile Text.isIndent
  if code.all Text.isBlank then return none
  else
    let start ← lineStart source classStart
    let first ← slice source ⟨start, Text.byteSize source⟩
    let gap ← slice line ⟨0, Text.byteSize line - Text.byteSize code⟩
    return some { gap := gap, indent := first.takeWhile Text.isIndent }

def extent (source : Text) (classStart : Nat) (entries : List Entry) :
    Option (Option Span × Option ClosingLine) :=
  match entries.head?, entries.getLast? with
  | some first, some last => do
    let closing ← closingLine source last.stop classStart
    let start ← toLineStart source first.start
    return (some ⟨start, last.stop + Text.byteSize (ClassDecl.gapOf closing)⟩, closing)
  | _, _ => some (none, none)

def nameOf (source : Text) (parent node : Node) : Option (Option String) :=
  match node.field? "name" with
  | some name => (nodeString source name).map some
  | none =>
    if parent.kind = "variable_declarator" then
      match parent.field? "name" with
      | some name => (nodeString source name).map some
      | none => some none
    else some none

def docOf (source : Text) (before : Option Node) : Option (Option Text) :=
  match before.filter Node.isComment with
  | some comment => (nodeText source comment).map some
  | none => some none

def ofNode (source : Text) (parent : Node) (before : Option Node) (node : Node) :
    Option (Option ClassDecl) :=
  match node.field? "body" with
  | none => some none
  | some body => do
    let entries ← bodyEntries source (parent.kind = "ambient_declaration") body
    let (span, closing) ← extent source node.span.start entries
    let name ← nameOf source parent node
    let doc ← docOf source before
    let members ← groupFrom source [] entries
    return some {
      name := name
      line := node.line
      doc := doc
      members := members
      span := span
      closing := closing
      lineEnding := .ofText source }

mutual

def classesBelow (source : Text) (outer : Option Node) : Node → Option (List ClassDecl)
  | .mk info children => classesAmong source (.mk info children) outer none children

def classesAmong (source : Text) (parent : Node) (outer previous : Option Node) :
    List Node → Option (List ClassDecl)
  | [] => some []
  | child :: rest => do
    let before := if parent.wrapsDeclaration then outer else previous
    let here ←
      if child.isClass then (ofNode source parent before child).map Option.toList
      else classesBelow source before child
    let later ← classesAmong source parent outer (some child) rest
    return here ++ later

end

def collectClasses (source : Text) (root : Node) : Option (List ClassDecl) :=
  classesBelow source none root

/-! ## Nothing is refused -/

variable {source : Text}

theorem slice_of_inRange {t : Text} {span : Span} (inRange : t.InRange span) :
    slice t span = some (t.slice span) :=
  if_pos inRange

theorem lineStart_eq {t : Text} {n : Nat} (cut : t.IsCut n) :
    lineStart t n = some (t.lineStart n) := by
  simp [lineStart, slice_of_inRange cut.inRange_before, Text.slice_before, Text.lineStart]

theorem toLineStart_eq {t : Text} {n : Nat} (cut : t.IsCut n) :
    toLineStart t n = some (t.toLineStart n) := by
  simp [toLineStart, lineStart_eq cut, slice_of_inRange cut.inRange_line, cut.line.2,
    Text.toLineStart]

theorem nodeText_eq {n : Node} (placed : n.Placed source) :
    nodeText source n = some (n.text source) :=
  slice_of_inRange ⟨placed.startCut, placed.stopCut, placed.children.le⟩

theorem nodeString_eq {n : Node} (placed : n.Placed source) :
    nodeString source n = some (n.textString source) := by
  rw [nodeString, nodeText_eq placed]
  rfl

section Lists

variable {α β : Type}

theorem mapM_eq_some {f : α → Option β} {g : α → β} {xs : List α}
    (each : ∀ x ∈ xs, f x = some (g x)) : xs.mapM f = some (xs.map g) := by
  induction xs with
  | nil => rfl
  | cons x xs ih =>
    obtain ⟨here, others⟩ := List.forall_mem_cons.mp each
    rw [List.mapM_cons, here, ih others]
    rfl

theorem anyM_eq_some {f : α → Option Bool} {g : α → Bool} {xs : List α}
    (each : ∀ x ∈ xs, f x = some (g x)) : xs.anyM f = some (xs.any g) := by
  induction xs with
  | nil => rfl
  | cons x xs ih =>
    obtain ⟨here, others⟩ := List.forall_mem_cons.mp each
    rw [List.anyM, here, List.any_cons]
    cases g x with
    | true => rfl
    | false => exact ih others

theorem foldlM_eq_some {f : β → α → Option β} {g : β → α → β} {xs : List α}
    (each : ∀ y, ∀ x ∈ xs, f y x = some (g y x)) (y : β) :
    xs.foldlM f y = some (xs.foldl g y) := by
  induction xs generalizing y with
  | nil => rfl
  | cons x xs ih =>
    rw [List.foldlM_cons, each y x List.mem_cons_self]
    exact ih (fun y x member => each y x (List.mem_cons_of_mem _ member)) (g y x)

end Lists

/-! ### Entries -/

theorem field?_placed {n node : Node} {name : String} (formed : n.WellFormed source)
    (found : n.field? name = some node) : node.Placed source :=
  (formed.child (List.mem_of_find?_eq_some found)).self

theorem nameNode?_placed {n node : Node} (formed : n.WellFormed source)
    (found : n.nameNode? = some node) : node.Placed source := by
  rcases Option.or_eq_some_iff.mp found with own | ⟨-, property⟩
  · exact field?_placed formed own
  · exact field?_placed formed property

theorem isPrivateMember_eq {n : Node} (formed : n.WellFormed source) (name : String) :
    isPrivateMember source name n = some (n.isPrivateMember source name) := by
  have modifiers : n.children.anyM (isPrivateModifier source) =
      some (n.children.any (Node.isPrivateModifier source)) := by
    apply anyM_eq_some
    intro child member
    unfold isPrivateModifier Node.isPrivateModifier
    split
    case isTrue kind => simp [nodeText_eq (formed.child member).self, kind]
    case isFalse kind => simp [kind]
  unfold isPrivateMember Node.isPrivateMember
  split
  case isTrue hash => simp [hash]
  case isFalse plain => simp [plain, modifiers]

theorem toEntry_eq {n : Node} (formed : n.WellFormed source) (ambient : Bool) (start : Nat) :
    toEntry source ambient start n = some (n.toEntry source ambient start) := by
  unfold toEntry Node.toEntry
  cases found : n.nameNode? with
  | none => simp [isPrivateMember_eq formed]
  | some node =>
    simp [nodeString_eq (nameNode?_placed formed found), isPrivateMember_eq formed]

theorem step_eq {child : Node} (formed : child.WellFormed source) (ambient : Bool)
    (headerRow : Nat) (scan : BodyScan) :
    step source ambient headerRow scan child = some (scan.step source ambient headerRow child) := by
  unfold step BodyScan.step
  rw [nodeText_eq formed.self, toEntry_eq formed]
  simp only [apply_ite some]
  rfl

theorem bodyEntries_eq {body : Node} (formed : body.WellFormed source) (ambient : Bool) :
    bodyEntries source ambient body = some (body.bodyEntries source ambient) := by
  have read := foldlM_eq_some (y := BodyScan.empty)
    fun scan child member => step_eq (formed.child member) ambient body.info.startRow scan
  rw [bodyEntries, read]
  rfl

/-! ### Handles -/

theorem entryText_eq {e : Entry} (inRange : source.InRange e.span) :
    entryText source e = some (e.text source) := by
  obtain ⟨startCut, stopCut, width⟩ := inRange
  have back := source.toLineStart_le e.start
  have inRange' : source.InRange ⟨source.toLineStart e.start, e.stop⟩ :=
    ⟨Text.isCut_toLineStart startCut, stopCut, Nat.le_trans back width⟩
  rw [entryText, toLineStart_eq (n := e.start) startCut]
  exact slice_of_inRange inRange'

theorem toHandle_eq {e : Entry} (inRange : source.InRange e.span) (overloads : List Text) :
    toHandle source overloads e = some (e.toHandle source overloads) := by
  rw [toHandle, entryText_eq inRange]
  rfl

theorem orphans_eq {waiting : List Entry} (inRange : ∀ e ∈ waiting, source.InRange e.span) :
    orphans source waiting = some (MemberOrder.orphans source waiting) :=
  mapM_eq_some fun e member => toHandle_eq (inRange e member) []

theorem groupFrom_eq {waiting entries : List Entry}
    (inRange : ∀ e ∈ waiting ++ entries, source.InRange e.span) :
    groupFrom source waiting entries = some (MemberOrder.groupFrom source waiting entries) := by
  fun_induction MemberOrder.groupFrom source waiting entries with
  | case1 waiting =>
    rw [groupFrom, orphans_eq (by simpa using inRange)]
  | case2 waiting e rest signature last latest same ih =>
    simp only [groupFrom, if_pos signature, latest, if_pos same]
    exact ih (by simpa using inRange)
  | case3 waiting e rest signature last latest differs ih =>
    obtain ⟨waits, later⟩ := List.forall_mem_append.mp inRange
    simp only [groupFrom, if_pos signature, latest, if_neg differs]
    rw [orphans_eq waits, ih later]
    rfl
  | case4 waiting e rest signature none ih =>
    simp only [groupFrom, if_pos signature, none]
    exact ih (List.forall_mem_append.mp inRange).2
  | case5 waiting e rest other implementing ih =>
    obtain ⟨waits, later⟩ := List.forall_mem_append.mp inRange
    obtain ⟨here, others⟩ := List.forall_mem_cons.mp later
    have overloads := mapM_eq_some fun e member => entryText_eq (waits e member)
    simp only [groupFrom, if_neg other, if_pos implementing]
    rw [overloads, ih others]
    simp only [Option.bind_eq_bind, Option.bind_some, toHandle_eq here]
    rfl
  | case6 waiting e rest other alone ih =>
    obtain ⟨waits, later⟩ := List.forall_mem_append.mp inRange
    obtain ⟨here, others⟩ := List.forall_mem_cons.mp later
    simp only [groupFrom, if_neg other, if_neg alone]
    rw [orphans_eq waits, toHandle_eq here, ih others]
    rfl

/-! ### Classes -/

theorem slice_behind {t : Text} {n : Nat} (cut : t.IsCut n) :
    slice t ⟨n, Text.byteSize t⟩ = some (t.dropBytes n) := by
  rw [slice_of_inRange cut.inRange_behind, cut.slice_behind]

/-- The gap is what remains of a line when the code is taken off its end. -/
theorem slice_gap (line : Text) :
    slice line ⟨0, Text.byteSize line - Text.byteSize (line.dropWhile Text.isIndent)⟩ =
      some (line.takeWhile Text.isIndent) := by
  have whole := List.takeWhile_append_dropWhile (p := Text.isIndent) (l := line)
  generalize line.takeWhile Text.isIndent = gap at whole ⊢
  generalize line.dropWhile Text.isIndent = code at whole ⊢
  have cut := Text.isCut_byteSize gap code
  rw [← whole, Text.byteSize_append, Nat.add_sub_cancel, slice_of_inRange cut.inRange_before,
    Text.slice_before, Text.takeBytes_byteSize]

theorem closingLine_eq {stop classStart : Nat} (stopCut : source.IsCut stop)
    (startCut : source.IsCut classStart) :
    closingLine source stop classStart = some (ClassDecl.closingLine? source stop classStart) := by
  simp only [closingLine, ClassDecl.closingLine?, slice_behind stopCut, lineStart_eq startCut,
    slice_behind startCut.line.1, slice_gap, Option.bind_eq_bind, Option.bind_some]
  split <;> rfl

theorem extent_eq {classStart : Nat} {entries : List Entry}
    (inRange : ∀ e ∈ entries, source.InRange e.span) (startCut : source.IsCut classStart) :
    extent source classStart entries = some (ClassDecl.extent source classStart entries) := by
  cases head : entries.head? with
  | none => simp [extent, ClassDecl.extent, head]
  | some first =>
    cases tail : entries.getLast? with
    | none => simp [extent, ClassDecl.extent, head, tail]
    | some last =>
      have firstCut : source.IsCut first.start := (inRange first (List.mem_of_head? head)).1
      have lastCut : source.IsCut last.stop := (inRange last (List.mem_of_getLast? tail)).2.1
      rw [ClassDecl.extent_of_ends head tail]
      simp only [extent, head, tail]
      rw [closingLine_eq lastCut startCut, toLineStart_eq firstCut]
      rfl

theorem nameOf_eq {parent node : Node} (parentFormed : parent.WellFormed source)
    (formed : node.WellFormed source) :
    nameOf source parent node = some (ClassDecl.nameOf? source parent node) := by
  cases own : node.field? "name" with
  | some name => simp [nameOf, ClassDecl.nameOf?, own, nodeString_eq (field?_placed formed own)]
  | none =>
    cases bound : parent.field? "name" with
    | some name =>
      simp [nameOf, ClassDecl.nameOf?, own, bound,
        nodeString_eq (field?_placed parentFormed bound), apply_ite some]
    | none => simp [nameOf, ClassDecl.nameOf?, own, bound]

theorem docOf_eq {before : Option Node} (placed : ∀ n ∈ before, n.Placed source) :
    docOf source before = some ((before.filter Node.isComment).map (·.text source)) := by
  unfold docOf
  cases found : before.filter Node.isComment with
  | none => rfl
  | some comment =>
    have member := (Option.filter_eq_some_iff.mp found).1
    simp [nodeText_eq (placed comment member)]

/-- Entries of a well-formed body can be cut out. -/
theorem bodyEntries_inRange {body : Node} (formed : body.WellFormed source) (ambient : Bool) :
    ∀ e ∈ body.bodyEntries source ambient, source.InRange e.span := by
  intro e member
  obtain ⟨startCut, stopCut⟩ := formed.bodyEntries_cut member
  have ordered : Span.InOrder _ ((body.bodyEntries source ambient).map Entry.span) _ :=
    Node.bodyEntries_inOrder formed.content_inOrder
  exact ⟨startCut, stopCut, (ordered.bounds (List.mem_map_of_mem member)).2.1⟩

theorem ofNode_eq {parent node : Node} {before : Option Node}
    (parentFormed : parent.WellFormed source) (formed : node.WellFormed source)
    (placed : ∀ n ∈ before, n.Placed source) :
    ofNode source parent before node = some (ClassDecl.ofNode? source parent before node) := by
  unfold ofNode ClassDecl.ofNode?
  cases found : node.field? "body" with
  | none => rfl
  | some body =>
    have bodyFormed := formed.child (List.mem_of_find?_eq_some found)
    have inRange := bodyEntries_inRange bodyFormed (parent.kind = "ambient_declaration")
    have members := groupFrom_eq (List.forall_mem_append.mpr ⟨List.forall_mem_nil _, inRange⟩)
    simp only [bodyEntries_eq bodyFormed, extent_eq inRange formed.self.startCut,
      nameOf_eq parentFormed formed, docOf_eq placed, members, Option.bind_eq_bind,
      Option.bind_some]
    rfl

mutual

theorem classesBelow_eq (outer : Option Node) :
    (n : Node) → n.WellFormed source → (∀ o ∈ outer, o.Placed source) →
    classesBelow source outer n = some (n.classesBelow source outer)
  | .mk info children, formed, placed => by
    rw [classesBelow, Node.classesBelow]
    exact classesAmong_eq _ outer none children formed (fun _ member => formed.child member) placed
      (by simp)

theorem classesAmong_eq (parent : Node) (outer previous : Option Node) :
    (children : List Node) → parent.WellFormed source →
    (∀ child ∈ children, child.WellFormed source) → (∀ o ∈ outer, o.Placed source) →
    (∀ p ∈ previous, p.Placed source) →
    classesAmong source parent outer previous children =
      some (MemberOrder.classesAmong source parent outer previous children)
  | [], _, _, _, _ => by rw [classesAmong, MemberOrder.classesAmong]
  | child :: rest, parentFormed, formed, outerPlaced, previousPlaced => by
    obtain ⟨here, others⟩ := List.forall_mem_cons.mp formed
    have placed : ∀ n ∈ (if parent.wrapsDeclaration then outer else previous),
        n.Placed source := by
      split
      · exact outerPlaced
      · exact previousPlaced
    have later := classesAmong_eq parent outer (some child) rest parentFormed others outerPlaced
      (by simpa using here.self)
    rw [classesAmong, MemberOrder.classesAmong, ofNode_eq parentFormed here placed,
      classesBelow_eq _ child here placed, later]
    split <;> rfl

end

/-- Reading the classes of a well-formed tree asks for no slice that cannot be cut out. -/
theorem collectClasses_eq {root : Node} (formed : root.WellFormed source) :
    collectClasses source root = some (MemberOrder.collectClasses source root) :=
  classesBelow_eq none root formed (by simp)

end Guarded

end MemberOrder
