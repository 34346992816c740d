import MemberOrder.Proofs.Class.Tiling
import MemberOrder.Proofs.Source.Frame
import MemberOrder.Proofs.Text.LineBreak

/-! What a `//` comment at the end of a new member list does to the code behind it.

The code behind the member list stays clear of the comment if it stands on a later line. Where it
shared the last line of the old list, that depends on the comment: one that is a child of the class
body is seen, and one inside a member is not.
-/

set_option autoImplicit false

namespace MemberOrder

/-! ## Line breaks -/

namespace Text

/-- A line break stands before the first character that is not blank. -/
def BreaksFirst (t : Text) : Prop := '\n' ∈ t.takeWhile isBlank

instance (t : Text) : Decidable t.BreaksFirst := inferInstanceAs (Decidable (_ ∈ _))

theorem breaksFirst_iff (t : Text) :
    t.BreaksFirst ↔ (firstLine t).all isBlank = true ∧ '\n' ∈ t := by
  unfold BreaksFirst firstLine
  induction t with
  | nil => simp
  | cons c t ih =>
    by_cases break_ : c = '\n'
    · subst break_
      have blank : isBlank '\n' = true := by decide
      simp [blank]
    · by_cases blank : isBlank c = true
      · simp [blank, break_, Ne.symm break_, ih]
      · simp [blank, break_]

theorem breaksFirst_append {s t : Text} (blank : AllBlank s) :
    (s ++ t).BreaksFirst ↔ '\n' ∈ s ∨ t.BreaksFirst := by
  rw [BreaksFirst, BreaksFirst, List.takeWhile_append_of_pos blank, List.mem_append]

/-- Only what stands before a solid character counts. -/
theorem breaksFirst_congr {s u v : Text} {c : Char} (solid : isBlank c = false) :
    (s ++ c :: u).BreaksFirst ↔ (s ++ c :: v).BreaksFirst := by
  simp [BreaksFirst, List.takeWhile_append, solid]

theorem head?_solid_congr {s u v : Text} {c : Char} (isSolid : isBlank c = false) :
    (solid (s ++ c :: u)).head? = (solid (s ++ c :: v)).head? := by
  simp [solid, List.head?_append, isSolid]

theorem newline_mem_lineEnding (ending : LineEnding) : '\n' ∈ ending.text := by
  cases ending <;> decide

theorem firstLine_append {s : Text} (unbroken : '\n' ∉ s) (t : Text) :
    firstLine (s ++ t) = s ++ firstLine t := by
  apply List.takeWhile_append_of_pos
  intro c member
  have differs : c ≠ '\n' := fun same => unbroken (same ▸ member)
  simpa using differs

theorem firstLine_eq_self {t : Text} (unbroken : '\n' ∉ t) : firstLine t = t := by
  simpa [firstLine] using firstLine_append unbroken []

end Text

namespace ClassDecl

/-! ## The closing line -/

theorem closingLine?_eq_none_iff (source : Text) (stop classStart : Nat) :
    closingLine? source stop classStart = none ↔
      (Text.firstLine (source.dropBytes stop)).all Text.isBlank = true := by
  generalize lineOf : Text.firstLine (source.dropBytes stop) = line
  have indent : Text.AllBlank (line.takeWhile Text.isIndent) :=
    Text.allBlank_of_isIndent List.all_takeWhile
  have whole : line.all Text.isBlank =
      (line.dropWhile Text.isIndent).all Text.isBlank := by
    conv => lhs; rw [← List.takeWhile_append_dropWhile (p := Text.isIndent) (l := line)]
    rw [List.all_append, List.all_eq_true.mpr indent, Bool.true_and]
  rw [whole, closingLine?, lineOf]
  simp

/-- Code on the line is what stands behind the gap. -/
theorem closingLine?_eq_some {source : Text} {stop classStart : Nat} {line : ClosingLine}
    (found : closingLine? source stop classStart = some line) :
    ∃ rest, source.dropBytes stop = line.gap ++ rest ∧ '\n' ∉ line.gap ∧
      (Text.firstLine rest).all Text.isBlank = false := by
  obtain ⟨rest, follows⟩ := gapOf_follows source stop classStart
  rw [found] at follows
  have indented := (closingLine?_indented found).1
  have unbroken := Text.newline_notMem_of_isIndent indented
  refine ⟨rest, follows, unbroken, ?_⟩
  have code : ¬ (Text.firstLine (source.dropBytes stop)).all Text.isBlank = true := by
    rw [← closingLine?_eq_none_iff source stop classStart, found]
    exact Option.some_ne_none line
  have blank := List.all_eq_true.mpr (Text.allBlank_of_isIndent indented)
  rw [follows, gapOf, Text.firstLine_append unbroken, List.all_append, blank] at code
  simpa using code

theorem Fenced.behind {source : Text} {low high : Nat} {span : Span}
    (fenced : Fenced source low span high) :
    ∃ kept rest, source.dropBytes span.stop = kept ++ '\x7d' :: rest ∧
      span.stop + Text.byteSize (kept ++ ['\x7d']) ≤ high := by
  obtain ⟨opening, closing, -, -, -, inside, below, -, ⟨closingCut, rest, follows⟩, -, stopCut⟩ :=
    fenced
  refine ⟨source.slice ⟨span.stop, closing⟩, rest, ?_, ?_⟩
  · rw [← Text.slice_append_dropBytes stopCut closingCut inside, follows]
  · have size := Text.byteSize_slice stopCut closingCut inside
    rw [Text.byteSize_append, size]
    change span.stop + (closing - span.stop + 1) ≤ high
    omega

variable {source : Text} {node body : Node} {ambient : Bool} {c : ClassDecl}

/-- The separator and the source behind the member list have a line break in front of the code if
that code is on a later line, or if the separator brings one. -/
theorem ReadFrom.breaksFirst_separator {span : Span} (read : c.ReadFrom source node body ambient)
    (formed : node.WellFormed source) (spanned : c.span = some span) (last : Option Member) :
    (c.separator last ++ source.dropBytes span.stop).BreaksFirst ↔
      c.closing = none ∨ last.any (·.endsWithLineComment) = true := by
  have blank := read.separator_blank spanned last
  obtain ⟨kept, rest, behind, -⟩ := (read.fenced formed spanned).behind
  obtain ⟨first, final, -, tail, rfl, closing⟩ := read.span_eq spanned
  have stopCut := ((formed.child (Node.mem_of_classBody? read.hasBody)).bodyEntries_cut
    (List.mem_of_getLast? tail)).2
  cases found : c.closing with
  | none =>
    rw [closing] at found
    have line := (closingLine?_eq_none_iff source final.stop node.span.start).mp found
    simp only [found, gapOf, Text.byteSize_nil, Nat.add_zero] at behind ⊢
    -- The closing brace is not on the blank line, so the line ends before it.
    have break_ : '\n' ∈ source.dropBytes final.stop := by
      by_contra unbroken
      rw [Text.firstLine_eq_self unbroken, behind] at line
      have brace := List.all_eq_true.mp line '\x7d' (by simp)
      exact absurd brace (by decide)
    simp [separator, closing, found, Text.breaksFirst_iff, line, break_]
  | some line =>
    have read := found
    rw [closing] at read
    obtain ⟨code, follows, unbroken, solid⟩ := closingLine?_eq_some read
    have dropped := stopCut.dropBytes_add follows
    simp only [read, gapOf, dropped]
    rw [Text.breaksFirst_append blank, Text.breaksFirst_iff code]
    simp only [separator, found, solid]
    split
    case isTrue flagged => simp [flagged, Text.newline_mem_lineEnding]
    case isFalse unflagged => simp [unflagged, unbroken]

end ClassDecl

/-! ## Members and their blocks -/

/-- The member is made of the children of the block: its text ends where the last of them does. -/
structure Member.Holds (source : Text) (body : Node) (m : Member) (b : Block) : Prop where
  adjacent : b.nodes <:+: body.content
  text : m.text = source.slice ⟨source.toLineStart b.first.span.start, b.last.span.stop⟩
  lineComment : m.endsWithLineComment = b.last.isLineComment source

theorem Block.Proper.endsWithLineComment_eq {source : Text} {b : Block} (proper : b.Proper) :
    b.endsWithLineComment source = b.last.isLineComment source := by
  unfold Block.endsWithLineComment Block.last
  cases b.trailing.getLast? with
  | none =>
    have comment : b.member.isComment = false := by
      have member := proper.member
      simp only [Node.isMember, Bool.not_eq_true', Bool.or_eq_false_iff] at member
      exact member.1.1.2
    simp [Node.isLineComment, comment]
  | some n => rfl

theorem ClassDecl.ReadFrom.holds {source : Text} {node body : Node} {ambient : Bool}
    {c : ClassDecl} {policy : OverloadPolicy} {members : List Member} {m : Member}
    (read : c.ReadFrom source node body ambient) (extracted : c.extract policy = .ok members)
    (member : m ∈ members) : ∃ b, m.Holds source body b := by
  obtain ⟨h, handle, made⟩ := exists_related (ClassDecl.extract_eq_ok extracted) member
  obtain ⟨-, text, flag⟩ := Handle.toMember_eq_ok made
  rw [read.members] at handle
  obtain ⟨e, entry, overloads, rfl⟩ := mem_groupFrom handle
  obtain ⟨b, adjacent, proper, row, rfl⟩ := Node.exists_block entry
  exact ⟨b, adjacent, text, flag.trans proper.endsWithLineComment_eq⟩

/-! ## The code behind the last member -/

theorem Text.join_getLast? (separator : Text) {t : Text} {ts : List Text}
    (last : ts.getLast? = some t) :
    ∃ earlier, Text.join separator ts = earlier ++ t := by
  induction ts with
  | nil => cases last
  | cons first rest ih =>
    cases rest with
    | nil =>
      cases last
      exact ⟨[], rfl⟩
    | cons next rest =>
      rw [List.getLast?_cons_cons] at last
      obtain ⟨earlier, joined⟩ := ih last
      exact ⟨first ++ separator ++ earlier, by simp [joined]⟩

/-- A member list ends with the text of its last member and the separator. -/
theorem ClassDecl.rebuild_getLast? (c : ClassDecl) {members : List Member} {last : Member}
    (isLast : (canonicalOrder members).getLast? = some last) :
    ∃ earlier, c.rebuild (Buckets.ofMembers members).sorted =
      earlier ++ (last.text ++ c.separator (some last)) := by
  have rendered : ((canonicalOrder members).map (Member.render c.lineEnding.text)).getLast? =
      some (last.render c.lineEnding.text) := by
    rw [List.getLast?_map, isLast, Option.map_some]
  have own : (last.overloads ++ [last.text]).getLast? = some last.text := List.getLast?_concat
  obtain ⟨others, list⟩ := Text.join_getLast? (c.lineEnding.text ++ c.lineEnding.text) rendered
  obtain ⟨overloads, unit⟩ := Text.join_getLast? c.lineEnding.text own
  refine ⟨others ++ overloads, ?_⟩
  rw [rebuild_eq, list, isLast, Member.render, unit]
  simp

/-- The new text goes on behind a replaced member list as the source does, at least to the brace
that closes the class: the next replaced list stands behind that brace. -/
theorem ClassDecl.FencedInOrder.kept_behind {source after : Text} {low high : Nat}
    {r : Replacement} {more : List Replacement}
    (fenced : FencedInOrder source low (r.span :: more.map (·.span)) high)
    (patched : Text.Patched r.span.stop (source.dropBytes r.span.stop) more after) :
    ∃ kept old new, source.dropBytes r.span.stop = kept ++ '\x7d' :: old ∧
      after = kept ++ '\x7d' :: new := by
  obtain ⟨middle, here, later⟩ := fenced
  obtain ⟨kept, old, behind, bound⟩ := here.behind
  rw [behind, List.append_cons] at patched
  obtain ⟨new, joined⟩ := patched.keeps fun s member =>
    Nat.le_trans bound (later.inOrder.bounds (List.mem_map_of_mem member)).1
  exact ⟨kept, old, new, behind, by rw [joined, ← List.append_cons]⟩

/-- In the new text the last member of a reordered class stands before `following`, which is a
separator and then what becomes of the source behind the member list. -/
structure ClassDecl.EndsWith (policy : OverloadPolicy) (skip : ClassFilter)
    (source contents : Text) (replacements : List Replacement) (c : ClassDecl) (last : Member)
    (following : Text) : Prop where
  isLast : ∃ members, c.extract policy = .ok members ∧
    (canonicalOrder members).getLast? = some last
  stands : ∃ front r more before earlier separator after,
    replacements = front ++ r :: more ∧ c.Rewrites policy skip r ∧
    contents = before ++ (r.text ++ after) ∧ r.text = earlier ++ (last.text ++ separator) ∧
    following = separator ++ after ∧
    Text.Patched r.span.stop (source.dropBytes r.span.stop) more after ∧
    (Text.solid following).head? = (Text.solid (source.dropBytes r.span.stop)).head?

/-- A line break stands between the last member of a reordered class and the code behind the member
list if that code was on a later line already, or if the last child of the class body that went into
the member is a `//` comment. A `//` comment deeper in the member brings none. -/
theorem sortSource_breaksFirst_iff {path : Path} {source contents : Text} {root : Node}
    {policy : OverloadPolicy} {skip : ClassFilter} {outcome : SourceOutcome} {c : ClassDecl}
    (formed : root.WellFormed source)
    (sorted : sortSource path source root policy skip = .ok outcome)
    (changed : outcome.contents = some contents) (member : c ∈ collectClasses source root)
    (reordered : c.isReordered policy skip = true) :
    ∃ replacements,
      outcome.Framed policy skip source (collectClasses source root) replacements ∧
      ∃ node ∈ root.preorder, ∃ body ambient, c.ReadFrom source node body ambient ∧
        ∃ last b following, c.EndsWith policy skip source contents replacements last following ∧
          last.Holds source body b ∧
          (following.BreaksFirst ↔
            c.closing = none ∨ b.last.isLineComment source = true) := by
  obtain ⟨node, below, body, ambient, read⟩ := readFrom_of_mem_collectClasses member
  obtain ⟨replacements, framed, fenced⟩ := framed_of_sortSource formed sorted
  obtain ⟨r, inside, spanned, newText⟩ := exists_related framed.rewrites.flip
    (List.mem_filter.mpr ⟨member, reordered⟩)
  obtain ⟨front, more, split⟩ := List.append_of_mem inside
  -- The last member, the children it is made of, and the end of the new member list.
  obtain ⟨members, extracted, nonempty, rebuilt⟩ := ClassDecl.newText?_eq_some newText
  have isLast := List.getLast?_eq_some_getLast (canonicalOrder_ne_nil nonempty)
  generalize (canonicalOrder members).getLast _ = last at isLast
  obtain ⟨b, holds⟩ := read.holds extracted
    ((canonicalOrder_perm members).mem_iff.mp (List.mem_of_getLast? isLast))
  obtain ⟨earlier, ends⟩ := c.rebuild_getLast? isLast
  have blank := read.separator_blank spanned (some last)
  -- What follows the list in the new text.
  obtain ⟨before, after, joined, patched⟩ := (framed.patched contents changed).at_replacement
    source.isCut_zero (Text.dropBytes_zero source) split
  rw [split, List.map_append, List.map_cons] at fenced
  obtain ⟨low, fenced⟩ := fenced.split
  obtain ⟨kept, old, new, behind, continues⟩ := fenced.kept_behind patched
  have solid : Text.isBlank '\x7d' = false := by decide
  have next : (Text.solid (c.separator (some last) ++ after)).head? =
      (Text.solid (source.dropBytes r.span.stop)).head? := by
    rw [Text.solid_append, blank.solid_eq_nil, List.nil_append, continues, behind]
    exact Text.head?_solid_congr solid
  have breaks : (c.separator (some last) ++ after).BreaksFirst ↔
      (c.separator (some last) ++ source.dropBytes r.span.stop).BreaksFirst := by
    rw [continues, behind, ← List.append_assoc, ← List.append_assoc]
    exact Text.breaksFirst_congr solid
  refine ⟨replacements, framed, node, below, body, ambient, read, last, b,
    c.separator (some last) ++ after, ⟨⟨members, extracted, isLast⟩, front, r, more, before,
      earlier, c.separator (some last), after, split, ⟨spanned, newText⟩, joined,
      rebuilt.trans ends, rfl, patched, next⟩, holds, ?_⟩
  rw [breaks, read.breaksFirst_separator (formed.below below) spanned, ← holds.lineComment]
  simp

namespace Swallowed

/-- A method that ends with a comment, and a field before the closing brace on the same line. -/
def source : Text := "class P \x7b\n  b() \x7b\x7d // x\n  a = 1; \x7d\n".toList

/-- The parser puts the comment into the body of the method. -/
def tree : Node :=
  .named "program" "" ⟨0, 35⟩ 0 3 [
    .named "class_declaration" "" ⟨0, 34⟩ 0 2 [
      .token "class" ⟨0, 5⟩ 0,
      .named "type_identifier" "name" ⟨6, 7⟩ 0 0 [],
      .named "class_body" "body" ⟨8, 34⟩ 0 2 [
        .token "\x7b" ⟨8, 9⟩ 0,
        .named "method_definition" "" ⟨12, 23⟩ 1 1 [
          .named "property_identifier" "name" ⟨12, 13⟩ 1 1 [],
          .named "formal_parameters" "parameters" ⟨13, 15⟩ 1 1
            [.token "(" ⟨13, 14⟩ 1, .token ")" ⟨14, 15⟩ 1],
          .named "statement_block" "body" ⟨16, 23⟩ 1 1
            [.token "\x7b" ⟨16, 17⟩ 1, .token "\x7d" ⟨17, 18⟩ 1,
              .named "comment" "" ⟨19, 23⟩ 1 1 []]],
        .named "public_field_definition" "" ⟨26, 31⟩ 2 2 [
          .named "property_identifier" "name" ⟨26, 27⟩ 2 2 [],
          .token "=" ⟨28, 29⟩ 2,
          .named "number" "value" ⟨30, 31⟩ 2 2 []],
        .token ";" ⟨31, 32⟩ 2,
        .token "\x7d" ⟨33, 34⟩ 2]]]

def method : Member := ⟨.method, "b", false, false, "  b() \x7b\x7d // x".toList, [], false⟩

def field : Member := ⟨.field, "a", false, false, "  a = 1;".toList, [], false⟩

def declaration : ClassDecl where
  name := some "P"
  line := 1
  doc := none
  members := [
    ⟨.member .method, "b", false, false, "  b() \x7b\x7d // x".toList, [], 2, false⟩,
    ⟨.member .field, "a", false, false, "  a = 1;".toList, [], 3, false⟩]
  span := some ⟨10, 33⟩
  closing := some ⟨[' '], []⟩
  lineEnding := .lf

theorem collectClasses_eq : collectClasses source tree = [declaration] := by decide +kernel

theorem extract_eq : declaration.extract .group = .ok [method, field] := rfl

theorem canonicalOrder_eq : canonicalOrder [method, field] = [field, method] :=
  canonicalOrder_eq_of_perm (by decide) (by decide)

theorem signatures_ne : [method, field].map Member.signature ≠
    (canonicalOrder [method, field]).map Member.signature := by
  rw [canonicalOrder_eq]
  decide

def replacement : Replacement := ⟨⟨10, 33⟩, "  a = 1;\n\n  b() \x7b\x7d // x ".toList⟩

theorem newText?_eq : declaration.newText? .group (fun _ => false) = some replacement.text := by
  rw [ClassDecl.newText?_of_extract rfl extract_eq signatures_ne, ClassDecl.rebuild_eq,
    canonicalOrder_eq]
  rfl

def sorted : Text := "class P \x7b\n  a = 1;\n\n  b() \x7b\x7d // x \x7d\n".toList

theorem sortSource_eq : sortSource ⟨"a.ts"⟩ source tree .group (fun _ => false) =
    .ok ⟨some sorted, [.reordered "P" 1]⟩ := by
  rw [sortSource_singleton rfl collectClasses_eq rfl extract_eq rfl signatures_ne,
    ClassDecl.rebuild_eq, canonicalOrder_eq]
  rfl

end Swallowed

theorem sortSource_breaksFirst_iff_swallowed :
    Swallowed.tree.WellFormed Swallowed.source ∧
      sortSource ⟨"a.ts"⟩ Swallowed.source Swallowed.tree .group (fun _ => false) =
        .ok ⟨some Swallowed.sorted, [.reordered "P" 1]⟩ ∧
      Swallowed.declaration ∈ collectClasses Swallowed.source Swallowed.tree ∧
      Swallowed.declaration.isReordered .group (fun _ => false) = true ∧
      ∃ replacements,
        SourceOutcome.Framed .group (fun _ => false) Swallowed.source
          (collectClasses Swallowed.source Swallowed.tree)
          ⟨some Swallowed.sorted, [.reordered "P" 1]⟩ replacements ∧
        ∃ node ∈ Swallowed.tree.preorder, ∃ body ambient,
          Swallowed.declaration.ReadFrom Swallowed.source node body ambient ∧
          ∃ last b following, Swallowed.declaration.EndsWith .group (fun _ => false)
              Swallowed.source Swallowed.sorted replacements last following ∧
            last.Holds Swallowed.source body b ∧
            (following.BreaksFirst ↔ Swallowed.declaration.closing = none ∨
              b.last.isLineComment Swallowed.source = true) := by
  have formed : Swallowed.tree.WellFormed Swallowed.source := by decide
  have member : Swallowed.declaration ∈ collectClasses Swallowed.source Swallowed.tree := by
    simp [Swallowed.collectClasses_eq]
  have reordered : Swallowed.declaration.isReordered .group (fun _ => false) = true := by
    rw [ClassDecl.isReordered, Swallowed.newText?_eq]
    rfl
  exact ⟨formed, Swallowed.sortSource_eq, member, reordered,
    sortSource_breaksFirst_iff formed Swallowed.sortSource_eq rfl member reordered⟩

/-- The comment inside the last member takes the closing brace of the class into itself. -/
theorem sortSource_swallows_brace :
    Swallowed.tree.WellFormed Swallowed.source ∧ Swallowed.tree.info.hasError = false ∧
      sortSource ⟨"a.ts"⟩ Swallowed.source Swallowed.tree .group (fun _ => false) =
        .ok ⟨some Swallowed.sorted, [.reordered "P" 1]⟩ ∧
      Swallowed.declaration ∈ collectClasses Swallowed.source Swallowed.tree ∧
      (∃ comment ∈ Swallowed.tree.preorder, comment.isLineComment Swallowed.source = true ∧
        Swallowed.method.text = Swallowed.source.slice ⟨10, comment.span.stop⟩) ∧
      ∃ following, Swallowed.declaration.EndsWith .group (fun _ => false) Swallowed.source
          Swallowed.sorted [Swallowed.replacement] Swallowed.method following ∧
        ¬ following.BreaksFirst := by
  have ends : Swallowed.declaration.EndsWith .group (fun _ => false) Swallowed.source
      Swallowed.sorted [Swallowed.replacement] Swallowed.method " \x7d\n".toList := by
    refine ⟨⟨_, Swallowed.extract_eq, by rw [Swallowed.canonicalOrder_eq]; rfl⟩,
      [], Swallowed.replacement, [], "class P \x7b\n".toList, "  a = 1;\n\n".toList, [' '],
      "\x7d\n".toList, rfl, ⟨rfl, Swallowed.newText?_eq⟩, by decide, by decide, rfl, ?_,
      by decide⟩
    exact .rest _ _
  exact ⟨by decide, rfl, Swallowed.sortSource_eq, by simp [Swallowed.collectClasses_eq],
    by decide, _, ends, by decide⟩

end MemberOrder
