import MemberOrder.Proofs.Batch.Report

/-! What a store holds after its files have been sorted and written back.

Sorting only reads, so every file is sorted as it was found, however often it is listed. Of several
writes to one path the last one counts, and all of them put down the same text.
-/

set_option autoImplicit false

namespace MemberOrder

/-! ## One path written in several ways -/

theorem Path.same_iff {p q : Path} : p.same q = true ↔ p.components = q.components := by
  simp [Path.same]

theorem Variant.ofPath_congr {p q : Path} (same : p.components = q.components) :
    Variant.ofPath p = Variant.ofPath q := by
  simp only [Variant.ofPath, Path.extension?, Path.fileName?, same]

namespace Job

def replacement? (job : Job) (path : Path) (text : String) : Option String :=
  ((job.sortText path text).toOption.bind (·.contents)).map String.ofList

/-- The way a path is written shows in errors only. -/
theorem replacement?_congr (job : Job) {p q : Path} (same : p.components = q.components)
    (text : String) : job.replacement? p text = job.replacement? q text := by
  simp only [replacement?, sortText, Variant.ofPath_congr same]
  cases job.parse (Variant.ofPath q).grammar text.toList with
  | none => rfl
  | some root =>
    simp only [sortSource, parseClasses]
    cases root.fault? <;> rfl

end Job

namespace Store

variable {s : Store} {p q : Path}

theorem get?_congr (same : p.components = q.components) : s.get? p = s.get? q := by
  simp only [get?, Path.same, same]

theorem isLocked_congr (same : p.components = q.components) : s.isLocked p = s.isLocked q := by
  simp only [isLocked, Path.same, same]

@[simp] theorem isLocked_put (text : String) : (s.put q text).isLocked = s.isLocked := rfl

theorem get?_put (text : String) :
    (s.put q text).get? p = if q.same p then some text else s.get? p := by
  simp only [get?, put, List.find?_append]
  by_cases same : q.same p
  · have gone : (s.files.filter fun file => !file.1.same q).find? (·.1.same p) = none := by
      simp [List.find?_eq_none, Path.same, Path.same_iff.mp same]
    rw [gone]
    simp [same]
  · have kept (file : Path × String) : (!file.1.same q && file.1.same p) = file.1.same p := by
      by_cases other : file.1.components = p.components
      · simp [Path.same, other, Ne.symm (mt Path.same_iff.mpr same)]
      · simp [Path.same, other]
    simp [same, kept]

theorem write_of_locked (text : String) (locked : s.isLocked q = true) :
    FileSystem.write s q text = (.error .readOnly, s) := by
  simp [FileSystem.write, locked]

theorem write_of_unlocked (text : String) (unlocked : s.isLocked q = false) :
    FileSystem.write s q text = (.ok (), s.put q text) := by
  simp [FileSystem.write, unlocked]

theorem isLocked_write (text : String) : (FileSystem.write s q text).2.isLocked = s.isLocked := by
  cases locked : s.isLocked q with
  | true => rw [write_of_locked text locked]
  | false => rw [write_of_unlocked text locked, isLocked_put]

def stored? (s : Store) (p : Path) (file : SortedFile) : Option String :=
  if file.path.same p && !s.isLocked p then some file.contents else none

theorem get?_write (file : SortedFile) :
    (FileSystem.write s file.path file.contents).2.get? p =
      (s.stored? p file).or (s.get? p) := by
  by_cases same : file.path.same p
  · have alike := isLocked_congr (s := s) (Path.same_iff.mp same)
    cases locked : s.isLocked p with
    | true => simp [write_of_locked _ (alike.trans locked), stored?, locked]
    | false => simp [write_of_unlocked _ (alike.trans locked), stored?, locked, same, get?_put]
  · cases locked : s.isLocked file.path with
    | true => simp [write_of_locked _ locked, stored?, same]
    | false => simp [write_of_unlocked _ locked, stored?, same, get?_put]

end Store

/-! ## Many writes -/

namespace Batch

open Store

theorem snd_writeAll_cons (file : SortedFile) (rest : List SortedFile) (s : Store) :
    (writeAll (file :: rest) s).2 =
      (writeAll rest (FileSystem.write s file.path file.contents).2).2 := by
  simp only [writeAll]
  split <;> rfl

theorem isLocked_writeAll (modified : List SortedFile) (s : Store) :
    (writeAll modified s).2.isLocked = s.isLocked := by
  induction modified generalizing s with
  | nil => rfl
  | cons file rest ih => rw [snd_writeAll_cons, ih, isLocked_write]

-- The last write that reaches a path decides what stands there.
theorem get?_writeAll (modified : List SortedFile) (s : Store) (p : Path) :
    (writeAll modified s).2.get? p =
      (modified.reverse.findSome? (s.stored? p)).or (s.get? p) := by
  induction modified generalizing s with
  | nil => rfl
  | cons file rest ih =>
    have later : (FileSystem.write s file.path file.contents).2.stored? p = s.stored? p := by
      funext other
      simp only [stored?, isLocked_write]
    rw [snd_writeAll_cons, ih, later, get?_write, ← Option.or_assoc, List.reverse_cons,
      List.findSome?_append]
    simp

theorem summary_writeAll (modified : List SortedFile) (s : Store) :
    (writeAll modified s).1 =
      { written := (modified.map (·.path)).filter (!s.isLocked ·)
        failures := ((modified.map (·.path)).filter s.isLocked).map (.write · .readOnly) } := by
  induction modified generalizing s with
  | nil => rfl
  | cons file rest ih =>
    cases locked : s.isLocked file.path with
    | true => simp [writeAll, write_of_locked, ih, locked]
    | false => simp [writeAll, write_of_unlocked, ih, locked]

/-! ## Sorting, then writing -/

variable {job : Job} {s : Store} {p q : Path}

theorem contents_sortedFile? :
    (sortedFile? job s q).map (·.contents) = (s.get? q).bind (job.replacement? q) := by
  simp only [sortedFile?, sortFile, FileSystem.read]
  cases s.get? q with
  | none => rfl
  | some text =>
    simp only [Job.outcome, Job.replacement?, Option.bind_some]
    cases job.sortText q text with
    | error error => rfl
    | ok outcome => simp [FileResult.ofOutcome, Except.toOption, Function.comp_def]

-- A write reaches the path under any of its spellings, and the text it carries does not depend on
-- the spelling either.
theorem stored?_sortedFile? :
    (sortedFile? job s q).bind (s.stored? p) =
      if q.same p then if s.isLocked p then none else (s.get? p).bind (job.replacement? p)
      else none := by
  by_cases same : q.same p
  · have alike := Path.same_iff.mp same
    rw [← get?_congr alike, ← funext (job.replacement?_congr alike), ← contents_sortedFile?]
    cases sorted : sortedFile? job s q with
    | none => simp
    | some file =>
      cases locked : s.isLocked p <;> simp [stored?, path_of_sortedFile? sorted, same, locked]
  · cases sorted : sortedFile? job s q with
    | none => simp [same]
    | some file => simp [stored?, path_of_sortedFile? sorted, same]

theorem findSome?_ite {α β : Type} (accepts : α → Bool) (result : Option β) (xs : List α) :
    (xs.findSome? fun x => if accepts x then result else none) =
      if xs.any accepts then result else none := by
  induction xs with
  | nil => rfl
  | cons x rest ih =>
    rw [List.findSome?_cons, ih, List.any_cons]
    cases accepts x <;> cases result <;> simp

/-- Sorting reads the store and leaves it alone; writing back then replaces the text of every
listed path that can be written by what sorting made of it, and touches nothing else. -/
theorem writeAll_run_uncancelled (job : Job) (s : Store) (paths : List Path) :
    (∀ p, (writeAll (run job s uncancelled paths).report.modified s).2.get? p =
      if paths.any (·.same p) && !s.isLocked p
      then ((s.get? p).bind (job.replacement? p)).or (s.get? p)
      else s.get? p) ∧
    (∀ p, (writeAll (run job s uncancelled paths).report.modified s).2.isLocked p =
      s.isLocked p) ∧
    (writeAll (run job s uncancelled paths).report.modified s).1.written =
      ((run job s uncancelled paths).report.modified.map (·.path)).filter (!s.isLocked ·) ∧
    (writeAll (run job s uncancelled paths).report.modified s).1.failures =
      (((run job s uncancelled paths).report.modified.map (·.path)).filter s.isLocked).map
        (.write · .readOnly) := by
  refine ⟨fun p => ?_, fun p => by rw [isLocked_writeAll], by rw [summary_writeAll],
    by rw [summary_writeAll]⟩
  rw [get?_writeAll, modified_run_uncancelled, ← List.filterMap_reverse, ← List.head?_filterMap,
    List.filterMap_filterMap, List.head?_filterMap]
  simp only [stored?_sortedFile?]
  rw [findSome?_ite, List.any_reverse]
  cases paths.any (·.same p) <;> cases s.isLocked p <;> simp

end Batch

end MemberOrder
