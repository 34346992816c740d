import Mathlib.Data.List.Chain
import Mathlib.Data.List.DropRight
import MemberOrder.Proofs.Class.Members

/-! Which signatures go with which implementation.

Grouping cuts the entries of a class into groups, each an entry with the signatures joined to it,
and makes one handle of each group. A method or constructor gets exactly the unbroken run of
signatures of its name that ends right before it; all other signatures stay alone.
-/

set_option autoImplicit false

namespace MemberOrder

namespace Entry

def isSignatureOf (name : String) (e : Entry) : Bool := e.shape = .signature && e.name = name

def isCallable (e : Entry) : Bool := e.shape = .member .method || e.shape = .member .constructor

theorem isSignatureOf_iff {name : String} {e : Entry} :
    e.isSignatureOf name = true ↔ e.shape = .signature ∧ e.name = name := by
  simp [isSignatureOf]

theorem isCallable_of_signature {e : Entry} (signature : e.shape = .signature) :
    e.isCallable = false := by
  simp [isCallable, signature]

end Entry

structure OverloadGroup where
  signatures : List Entry
  entry : Entry

namespace OverloadGroup

def entries (g : OverloadGroup) : List Entry := g.signatures ++ [g.entry]

def toHandle (source : Text) (g : OverloadGroup) : Handle :=
  g.entry.toHandle source (g.signatures.map (Entry.text source))

/-- The group stands in the list, with the entries `before` and `after` in the groups around it. -/
def StandsIn (groups : List OverloadGroup) (before : List Entry) (g : OverloadGroup)
    (after : List Entry) : Prop :=
  ∃ front back, groups = front ++ g :: back ∧ front.flatMap entries = before ∧
    back.flatMap entries = after

/-- The signature behind `before` belongs to an entry from which `between` separates it. -/
def Joins (groups : List OverloadGroup) (before : List Entry) (signature : Entry)
    (between : List Entry) (e : Entry) : Prop :=
  ∃ earlier run after, before = earlier ++ run ∧
    StandsIn groups earlier ⟨run ++ signature :: between, e⟩ after

/-- Signatures are joined to a method or constructor of their name only. -/
def Proper (g : OverloadGroup) : Prop :=
  g.signatures ≠ [] → g.entry.isCallable = true ∧
    ∀ s ∈ g.signatures, s.isSignatureOf g.entry.name = true

/-- What ends the first group does not belong to the second. -/
def Apart (g h : OverloadGroup) : Prop :=
  h.entry.isCallable = true → g.entry.isSignatureOf h.entry.name = false

/-- The groups hold the entries in order, and no signature is joined wrongly or left out. -/
structure Partition (groups : List OverloadGroup) (entries : List Entry) : Prop where
  whole : groups.flatMap OverloadGroup.entries = entries
  proper : ∀ g ∈ groups, g.Proper
  apart : groups.IsChain Apart

def alone (e : Entry) : OverloadGroup := ⟨[], e⟩

theorem proper_alone (e : Entry) : (alone e).Proper := fun joined => absurd rfl joined

def Uniform (waiting : List Entry) : Prop :=
  ∃ name, ∀ s ∈ waiting, s.isSignatureOf name = true

theorem Uniform.signature {waiting : List Entry} {s : Entry} (uniform : Uniform waiting)
    (member : s ∈ waiting) : s.shape = .signature := by
  obtain ⟨name, all⟩ := uniform
  exact (Entry.isSignatureOf_iff.mp (all s member)).1

theorem orphans_eq (source : Text) (waiting : List Entry) :
    orphans source waiting = (waiting.map alone).map (toHandle source) := by
  rw [orphans, List.map_map]
  rfl

/-- Signatures that found no implementation stand alone before the groups of what follows, which
begins with nothing they belong to. -/
theorem Partition.orphans {waiting rest : List Entry} {groups : List OverloadGroup}
    (uniform : Uniform waiting) (partition : Partition groups rest)
    (refused : ∀ s ∈ waiting.getLast?, ∀ g ∈ groups.head?, (alone s).Apart g) :
    Partition (waiting.map alone ++ groups) (waiting ++ rest) where
  whole := by simp [List.flatMap_map, alone, entries, partition.whole]
  proper := by
    refine List.forall_mem_append.mpr ⟨?_, partition.proper⟩
    simp [proper_alone]
  apart := by
    refine List.isChain_append.mpr ⟨?_, partition.apart, ?_⟩
    · -- A signature implements nothing, so those that wait stay apart from each other.
      refine List.Pairwise.isChain (List.pairwise_map.mpr ?_)
      refine List.pairwise_of_forall_mem_list fun s _ t member callable => ?_
      have plain := Entry.isCallable_of_signature (uniform.signature member)
      exact absurd callable (by simp [alone, plain])
    · intro g last
      rw [List.getLast?_map] at last
      obtain ⟨s, member, rfl⟩ := Option.map_eq_some_iff.mp last
      exact refused s member

/-- An entry that is no signature ends its group, whatever follows. -/
theorem Partition.cons {signatures rest : List Entry} {e : Entry} {groups : List OverloadGroup}
    (partition : Partition groups rest) (proper : Proper ⟨signatures, e⟩)
    (other : e.shape ≠ .signature) :
    Partition (⟨signatures, e⟩ :: groups) (signatures ++ e :: rest) where
  whole := by simp [entries, partition.whole]
  proper := List.forall_mem_cons.mpr ⟨proper, partition.proper⟩
  apart := by
    refine List.IsChain.cons partition.apart fun h _ _ => ?_
    simp [Entry.isSignatureOf, other]

theorem StandsIn.cons {groups : List OverloadGroup} {before after : List Entry}
    {g : OverloadGroup} (stands : StandsIn groups before g after) (h : OverloadGroup) :
    StandsIn (h :: groups) (h.entries ++ before) g after := by
  obtain ⟨front, back, rfl, rfl, rfl⟩ := stands
  exact ⟨h :: front, back, rfl, rfl, rfl⟩

theorem StandsIn.mem {groups : List OverloadGroup} {before after : List Entry}
    {g : OverloadGroup} (stands : StandsIn groups before g after) : g ∈ groups := by
  obtain ⟨front, back, rfl, -⟩ := stands
  simp

/-- Every entry is one of the signatures of a group, or the entry they are joined to. -/
theorem exists_standsIn {groups : List OverloadGroup} {before after : List Entry} {e : Entry}
    (split : groups.flatMap entries = before ++ e :: after) :
    ∃ earlier g later, StandsIn groups earlier g later ∧
      ((∃ run rest, g.signatures = run ++ e :: rest ∧ before = earlier ++ run ∧
          after = rest ++ g.entry :: later) ∨
        (g.entry = e ∧ before = earlier ++ g.signatures ∧ after = later)) := by
  induction groups generalizing before with
  | nil => simp at split
  | cons g groups ih =>
    have here : StandsIn (g :: groups) [] g (groups.flatMap entries) := ⟨[], groups, rfl, rfl, rfl⟩
    rw [List.flatMap_cons, entries, List.append_assoc, List.append_eq_append_iff] at split
    rcases split with ⟨past, rfl, split⟩ | ⟨rest, signatures, split⟩
    · -- The entry stands behind the signatures of the first group.
      cases past with
      | nil =>
        obtain ⟨same, later⟩ := List.cons.inj split
        exact ⟨[], g, _, here, Or.inr ⟨same, by simp, later.symm⟩⟩
      | cons first past =>
        obtain ⟨rfl, later⟩ := List.cons.inj split
        obtain ⟨earlier, h, later, stands, found⟩ := ih later
        refine ⟨_, h, later, stands.cons g, ?_⟩
        simpa [entries] using found
    · cases rest with
      | nil =>
        obtain ⟨same, later⟩ := List.cons.inj split
        exact ⟨[], g, _, here, Or.inr ⟨same.symm, by simp [signatures], later⟩⟩
      | cons first rest =>
        obtain ⟨rfl, later⟩ := List.cons.inj split
        exact ⟨[], g, _, here, Or.inl ⟨before, rest, signatures, by simp, later⟩⟩

namespace Partition

variable {groups : List OverloadGroup} {all before after : List Entry} {e : Entry}

theorem orphaned (partition : Partition groups all) (split : all = before ++ e :: after)
    (signature : e.shape = .signature)
    (unjoined : ∀ between f rest, after = between ++ f :: rest → ¬ Joins groups before e between f) :
    StandsIn groups before (alone e) after := by
  obtain ⟨earlier, g, later, stands, found⟩ := exists_standsIn (partition.whole.trans split)
  rcases found with ⟨run, rest, signatures, behind, ahead⟩ | ⟨rfl, rfl, rfl⟩
  · refine absurd ⟨earlier, run, later, behind, ?_⟩ (unjoined rest g.entry later ahead)
    rwa [← signatures]
  · have none : g.signatures = [] := by
      by_contra joined
      have callable := (partition.proper g stands.mem joined).1
      rw [Entry.isCallable_of_signature signature] at callable
      cases callable
    rw [none, List.append_nil]
    rwa [alone, ← none]

end Partition

end OverloadGroup

open OverloadGroup

end MemberOrder
