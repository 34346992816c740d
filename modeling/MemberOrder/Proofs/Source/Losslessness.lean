import MemberOrder.Proofs.Class.Tiling
import MemberOrder.Proofs.Source.Frame

/-! Sorting a source loses and adds nothing but blanks.

The new member list of a class holds the texts of its entries, each once. As all else is kept, the
new source has the characters of the old one, blanks aside.
-/

set_option autoImplicit false

namespace MemberOrder

open Text (Tiles solid)

/-- Patches that keep the solid characters of every range keep those of the text. -/
theorem Text.Patched.solid_perm {source t out : Text} {cursor : Nat}
    {replacements : List Replacement} (patched : Text.Patched cursor t replacements out)
    (cut : source.IsCut cursor) (here : source.dropBytes cursor = t)
    (each : ∀ r ∈ replacements, (solid r.text).Perm (solid (source.slice r.span))) :
    (solid out).Perm (solid t) := by
  induction patched with
  | rest cursor kept => exact .refl _
  | @replace cursor kept old later out r more start stop patched ih =>
    obtain ⟨same, others⟩ := List.forall_mem_cons.mp each
    obtain ⟨piece, stopCut, fromStop⟩ := cut.replaced here start stop
    rw [piece] at same
    simp only [Text.solid_append]
    exact (same.append (ih stopCut fromStop others)).append_left _

namespace ClassDecl

/-- The replacement rearranges the texts of the entries of a class, with blanks between them. -/
structure Rearranges (source : Text) (root : Node) (c : ClassDecl) (r : Replacement) : Prop where
  entries : ∃ node ∈ root.preorder, ∃ body ∈ node.classBody?, ∃ ambient,
    c.parts = (body.bodyEntries source ambient).map (Entry.text source)
  old : Tiles c.parts (source.slice r.span)
  new : ∃ parts, parts.Perm c.parts ∧ Tiles parts r.text

theorem Rearranges.solid_perm {source : Text} {root : Node} {c : ClassDecl} {r : Replacement}
    (rearranges : c.Rearranges source root r) :
    (solid r.text).Perm (solid (source.slice r.span)) := by
  obtain ⟨parts, perm, tiles⟩ := rearranges.new
  exact tiles.solid_perm rearranges.old perm

theorem Rewrites.rearranges {source : Text} {root : Node} {policy : OverloadPolicy}
    {skip : ClassFilter} {c : ClassDecl} {r : Replacement} (formed : root.WellFormed source)
    (spaced : root.WellSpaced source) (member : c ∈ collectClasses source root)
    (rewrites : c.Rewrites policy skip r) : c.Rearranges source root r := by
  obtain ⟨span, newText⟩ := rewrites
  obtain ⟨node, below, body, ambient, read⟩ := readFrom_of_mem_collectClasses member
  obtain ⟨members, extracted, nonempty, rebuilt⟩ := newText?_eq_some newText
  refine ⟨⟨node, below, body, read.hasBody, ambient, read.parts_eq⟩,
    read.tiles (formed.below below) (spaced node below body read.hasBody) span,
    (canonicalOrder members).flatMap Member.parts, ?_, ?_⟩
  · rw [← extract_parts extracted]
    exact (canonicalOrder_perm members).flatMap_right _
  · rw [rebuilt]
    exact read.tiles_rebuild span nonempty

end ClassDecl

/-- Sorting keeps every character that is not blank, and the new member list of a class holds the
texts of its entries, each of them once. -/
theorem sortSource_lossless {path : Path} {source contents : Text} {root : Node}
    {policy : OverloadPolicy} {skip : ClassFilter} {outcome : SourceOutcome}
    (formed : root.WellFormed source) (spaced : root.WellSpaced source)
    (sorted : sortSource path source root policy skip = .ok outcome)
    (changed : outcome.contents = some contents) :
    (solid contents).Perm (solid source) ∧
      ∃ replacements, source.Patched 0 replacements contents ∧
        List.Forall₂ (fun c r => c.Rewrites policy skip r ∧ c.Rearranges source root r)
          ((collectClasses source root).filter (·.isReordered policy skip)) replacements := by
  obtain ⟨replacements, framed, -⟩ := framed_of_sortSource formed sorted
  have patched := framed.patched contents changed
  have rearranges : List.Forall₂ (fun c r => c.Rewrites policy skip r ∧ c.Rearranges source root r)
      ((collectClasses source root).filter (·.isReordered policy skip)) replacements := by
    have all := (List.forall₂_and_left _ _).mpr
      ⟨fun c member => List.mem_of_mem_filter member, framed.rewrites⟩
    exact all.imp fun c r ⟨member, rewrites⟩ =>
      ⟨rewrites, rewrites.rearranges formed spaced member⟩
  refine ⟨?_, replacements, patched, rearranges⟩
  apply patched.solid_perm source.isCut_zero (Text.dropBytes_zero source)
  intro r member
  obtain ⟨c, -, -, rearranged⟩ := exists_related rearranges member
  exact rearranged.solid_perm

theorem sortSource_lossless_sample :
    Sample.tree.WellFormed Sample.source ∧ Sample.tree.WellSpaced Sample.source ∧
      sortSource ⟨"a.ts"⟩ Sample.source Sample.tree .group (fun _ => false) =
        .ok ⟨some Sample.sorted, [.reordered "A" 1]⟩ ∧
      (solid Sample.sorted).Perm (solid Sample.source) ∧
      ∃ replacements, Sample.source.Patched 0 replacements Sample.sorted ∧
        List.Forall₂ (fun c r => c.Rewrites .group (fun _ => false) r ∧
            c.Rearranges Sample.source Sample.tree r)
          ((collectClasses Sample.source Sample.tree).filter
            (·.isReordered .group (fun _ => false))) replacements := by
  have formed : Sample.tree.WellFormed Sample.source := by decide
  have spaced : Sample.tree.WellSpaced Sample.source := by decide
  exact ⟨formed, spaced, Sample.sortSource_eq,
    sortSource_lossless formed spaced Sample.sortSource_eq rfl⟩

end MemberOrder
