import Mathlib.Data.List.Forall2
import MemberOrder.Proofs.Batch.Pool
import MemberOrder.Proofs.Tree.Layout

/-! What a batch yields does not depend on the schedule.

A task that begins ends with the result and the events that its file has by itself, and one that
finds the flag raised leaves nothing. So a report can be told file by file, and the log interleaves
the events of the files. In sequence a task begins when all before it are settled: the events come
file by file, and what is missing is missing from the end.
-/

set_option autoImplicit false

namespace MemberOrder

/-! ## Interleavings -/

/-- The second list is made of the elements of the others, each keeping its own order. -/
inductive Interleaves {α : Type} : List (List α) → List α → Prop where
  | nil {lists : List (List α)} : (∀ list ∈ lists, list = []) → Interleaves lists []
  | snoc {before after : List (List α)} {list merged : List α} (x : α) :
      Interleaves (before ++ list :: after) merged →
      Interleaves (before ++ (list ++ [x]) :: after) (merged ++ [x])

theorem Interleaves.append {α : Type} {before after : List (List α)} {list merged : List α}
    (interleaves : Interleaves (before ++ list :: after) merged) (more : List α) :
    Interleaves (before ++ (list ++ more) :: after) (merged ++ more) := by
  induction more generalizing list merged with
  | nil => simpa using interleaves
  | cons x rest ih => simpa using ih (interleaves.snoc x)

theorem Interleaves.perm {α : Type} {lists : List (List α)} {merged : List α}
    (interleaves : Interleaves lists merged) : merged.Perm lists.flatten := by
  induction interleaves with
  | nil empty => rw [List.flatten_eq_nil_iff.mpr empty]
  | @snoc before after list merged x _ ih =>
    simp only [List.flatten_append, List.flatten_cons, List.append_assoc] at ih ⊢
    refine (ih.append_right [x]).trans ?_
    simp only [List.append_assoc]
    exact (List.perm_append_comm.append_left list).append_left before.flatten

namespace Batch

section

variable {σ : Type} [FileSystem σ] {job : Job} {files : σ} {path : Path} {cancelled : Bool}

/-! ## What a task leaves -/

/-- A file adds to a batch what it yields by itself, or nothing at all once the batch has been
cancelled. -/
def Contributes (job : Job) (files : σ) (cancelled : Bool) (path : Path)
    (contribution : FileResult × List Event) : Prop :=
  contribution = sortFile job files path ∨ cancelled = true ∧ contribution = (.cancelled, [])

theorem Contributes.of_cancelled {contribution : FileResult × List Event}
    (contributes : Contributes job files cancelled path contribution)
    (missing : contribution.1 = .cancelled) :
    cancelled = true ∧ contribution = (.cancelled, []) := by
  obtain rfl | nothing := contributes
  · exact absurd missing (sortFile_ne_cancelled path)
  · exact nothing

namespace Stage

def Emitted (job : Job) (files : σ) (path : Path) (cancelled : Bool) :
    Stage → List Event → Prop
  | waiting, emitted => emitted = []
  | begun, emitted => emitted = []
  | loaded contents, emitted => contents = FileSystem.read files path ∧ emitted = []
  | emitting result pending, emitted => (result, emitted ++ pending) = sortFile job files path
  | settled result, emitted => Contributes job files cancelled path (result, emitted)

theorem Emitted.raise {stage : Stage} {emitted : List Event}
    (sound : stage.Emitted job files path cancelled emitted) :
    stage.Emitted job files path true emitted := by
  cases stage with
  | settled result => exact sound.imp_right fun ⟨_, nothing⟩ => ⟨rfl, nothing⟩
  | waiting | begun | loaded | emitting => exact sound

theorem Emitted.step {stage next : Stage} {emitted more : List Event}
    (sound : stage.Emitted job files path cancelled emitted)
    (stepped : stage.step job files path cancelled = some (next, more)) :
    next.Emitted job files path cancelled (emitted ++ more) := by
  cases stage with
  | waiting =>
    cases sound
    cases cancelled <;> cases stepped
    · rfl
    · exact .inr ⟨rfl, rfl⟩
  | begun =>
    cases sound
    cases stepped
    exact ⟨rfl, rfl⟩
  | loaded contents =>
    obtain ⟨rfl, rfl⟩ := sound
    cases stepped
    rfl
  | emitting result pending =>
    cases pending with
    | nil =>
      cases stepped
      exact .inl (by simpa [Emitted] using sound)
    | cons event pending =>
      cases stepped
      simpa [Emitted] using sound
  | settled result => cases stepped

end Stage

namespace Pool

variable {mode : Mode} {pool next : Pool} {paths : List Path}

/-! ## What every schedule keeps -/

/-- A task behind another one waits for it, and is cancelled if the other one was. -/
def Follows (earlier later : Task) : Prop :=
  later.stage = .waiting ∨ ∃ result, earlier.stage = .settled result ∧
    (result = .cancelled → later.stage = .settled .cancelled)

/-- The invariant, with the events of each task written beside it. -/
structure Sound (job : Job) (files : σ) (mode : Mode) (paths : List Path) (pool : Pool)
    (told : List (Task × List Event)) : Prop where
  tasks : pool.tasks = told.map (·.1)
  paths : pool.tasks.map (·.path) = paths
  emitted : ∀ entry ∈ told, entry.1.stage.Emitted job files entry.1.path pool.cancelled entry.2
  log : Interleaves (told.map (·.2)) pool.log
  follows : mode = .sequential → pool.tasks.Pairwise Follows
  inOrder : mode = .sequential → pool.log = told.flatMap (·.2)

theorem sound_start (job : Job) (files : σ) (mode : Mode) (paths : List Path) :
    Sound job files mode paths (start paths) (paths.map fun path => (⟨path, .waiting⟩, [])) where
  tasks := by simp [start]
  paths := by simp [start, Function.comp_def]
  emitted := by simp [Stage.Emitted]
  log := .nil (by simp)
  follows _ := by simp [start, List.pairwise_map, Follows, List.pairwise_of_forall]
  inOrder _ := by simp [start]

variable {told : List (Task × List Event)}

theorem Sound.raise (sound : pool.Sound job files mode paths told) :
    Sound job files mode paths { pool with cancelled := true } told where
  tasks := sound.tasks
  paths := sound.paths
  emitted entry member := (sound.emitted entry member).raise
  log := sound.log
  follows := sound.follows
  inOrder := sound.inOrder

theorem Sound.raised {entry : Task × List Event} (sound : pool.Sound job files mode paths told)
    (member : entry ∈ told) (settled : entry.1.stage = .settled .cancelled) :
    pool.cancelled = true := by
  have own := sound.emitted entry member
  rw [settled] at own
  exact (Contributes.of_cancelled own rfl).1

theorem Sound.quiet {entry : Task × List Event} (sound : pool.Sound job files mode paths told)
    (member : entry ∈ told) (waiting : entry.1.stage = .waiting) : entry.2 = [] := by
  have own := sound.emitted entry member
  rw [waiting] at own
  exact own

theorem Follows.waiting {earlier later : Task} {stage : Stage} {emitted : List Event}
    (follows : Follows earlier later)
    (moved : earlier.stage.step job files earlier.path cancelled = some (stage, emitted)) :
    later.stage = .waiting := by
  obtain waiting | ⟨result, settled, -⟩ := follows
  · exact waiting
  · rw [settled] at moved
    cases moved

-- A task that comes after a cancelled one can only be waiting, so it meets the raised flag.
theorem Follows.step {earlier task : Task} {stage : Stage} {emitted : List Event}
    (follows : Follows earlier task)
    (settled : earlier.stage.result?.isSome = true)
    (raised : earlier.stage = .settled .cancelled → cancelled = true)
    (moved : task.stage.step job files task.path cancelled = some (stage, emitted)) :
    Follows earlier { task with stage := stage } := by
  cases found : earlier.stage with
  | waiting | begun | loaded | emitting =>
    rw [found] at settled
    cases settled
  | settled result =>
    refine .inr ⟨result, found, ?_⟩
    rintro rfl
    obtain waiting | ⟨result, same, cancels⟩ := follows
    · rw [waiting, raised found] at moved
      cases moved
      rfl
    · cases found.symm.trans same
      rw [cancels rfl] at moved
      cases moved

theorem pairwise_follows_step {before after : List Task} {task : Task} {stage : Stage}
    {emitted : List Event} (follows : (before ++ task :: after).Pairwise Follows)
    (settled : ∀ earlier ∈ before, earlier.stage.result?.isSome = true)
    (raised : ∀ earlier ∈ before, earlier.stage = .settled .cancelled → cancelled = true)
    (moved : task.stage.step job files task.path cancelled = some (stage, emitted)) :
    (before ++ { task with stage := stage } :: after).Pairwise Follows := by
  simp only [List.pairwise_append, List.pairwise_cons] at follows ⊢
  obtain ⟨inFront, ⟨behind, inBack⟩, across⟩ := follows
  refine ⟨inFront, ⟨fun later member => .inl ((behind later member).waiting moved), inBack⟩, ?_⟩
  intro earlier member later laterMember
  obtain rfl | laterMember := List.mem_cons.mp laterMember
  · exact (across earlier member task (by simp)).step (settled earlier member)
      (raised earlier member) moved
  · exact across earlier member later (by simp [laterMember])

theorem Sound.advance {before after : List Task} {task : Task} {stage : Stage} {more : List Event}
    (sound : pool.Sound job files mode paths told) (split : pool.tasks = before ++ task :: after)
    (turn : mode = .sequential → ∀ earlier ∈ before, earlier.stage.result?.isSome = true)
    (moved : task.stage.step job files task.path pool.cancelled = some (stage, more)) :
    ∃ told', Sound job files mode paths { pool with
        tasks := before ++ { task with stage := stage } :: after
        log := pool.log ++ more } told' := by
  obtain ⟨front, rest, rfl, rfl, tail⟩ := List.map_eq_append_iff.mp (sound.tasks.symm.trans split)
  obtain ⟨⟨task, emitted⟩, back, rfl, rfl, rfl⟩ := List.map_eq_cons_iff.mp tail
  refine ⟨front ++ (⟨task.path, stage⟩, emitted ++ more) :: back, ?_⟩
  constructor
  case tasks => simp
  case paths => simpa [split] using sound.paths
  case emitted =>
    intro entry member
    simp only [List.mem_append, List.mem_cons] at member
    obtain member | rfl | member := member
    · exact sound.emitted entry (by simp [member])
    · exact (sound.emitted (task, emitted) (by simp)).step moved
    · exact sound.emitted entry (by simp [member])
  case log =>
    have merged := sound.log
    simp only [List.map_append, List.map_cons] at merged ⊢
    exact merged.append more
  case follows =>
    intro sequential
    have follows := sound.follows sequential
    rw [split] at follows
    refine pairwise_follows_step follows (turn sequential) ?_ moved
    intro earlier member cancelled
    obtain ⟨entry, told, rfl⟩ := List.mem_map.mp member
    exact sound.raised (by simp [told]) cancelled
  case inOrder =>
    intro sequential
    have follows := sound.follows sequential
    rw [split] at follows
    -- The tasks behind the one that moves are waiting and have said nothing.
    have quiet : back.flatMap (·.2) = [] := by
      rw [List.flatMap_eq_nil_iff]
      intro entry member
      have behind := (List.pairwise_cons.mp (List.pairwise_append.mp follows).2.1).1
      exact sound.quiet (by simp [member])
        ((behind entry.1 (List.mem_map_of_mem member)).waiting moved)
    simp [sound.inOrder sequential, quiet]

theorem Sound.step {action : Action} (sound : pool.Sound job files mode paths told)
    (stepped : pool.step job files mode action = some next) :
    ∃ told', next.Sound job files mode paths told' := by
  obtain ⟨-, rfl⟩ | ⟨before, task, after, stage, more, split, turn, moved, rfl⟩ :=
    step_cases stepped
  · exact ⟨told, sound.raise⟩
  · exact sound.advance split turn moved

theorem Sound.play {schedule : List Action} (sound : pool.Sound job files mode paths told)
    (played : pool.play job files mode schedule = some next) :
    ∃ told', next.Sound job files mode paths told' := by
  induction schedule generalizing pool told with
  | nil =>
    cases played
    exact ⟨told, sound⟩
  | cons action rest ih =>
    obtain ⟨between, stepped, rest⟩ := play_cons.mp played
    obtain ⟨told', sound'⟩ := sound.step stepped
    exact ih sound' rest

/-! ## What a completed schedule yields -/

theorem exists_contributions
    (emitted : ∀ entry ∈ told, entry.1.stage.Emitted job files entry.1.path cancelled entry.2)
    (settled : ∀ entry ∈ told, entry.1.stage.result?.isSome = true) :
    ∃ contributions : List (FileResult × List Event),
      (told.map (·.1)).filterMap (·.stage.result?) = contributions.map (·.1) ∧
      told.map (·.2) = contributions.map (·.2) ∧
      List.Forall₂ (Contributes job files cancelled) (told.map (·.1.path)) contributions := by
  induction told with
  | nil => exact ⟨[], rfl, rfl, .nil⟩
  | cons entry rest ih =>
    obtain ⟨⟨path, stage⟩, events⟩ := entry
    have own := emitted _ List.mem_cons_self
    obtain ⟨result, found⟩ := Option.isSome_iff_exists.mp (settled _ List.mem_cons_self)
    cases stage with
    | waiting | begun | loaded | emitting => cases found
    | settled result =>
      obtain ⟨contributions, results, logs, each⟩ :=
        ih (fun entry member => emitted entry (.tail _ member))
          (fun entry member => settled entry (.tail _ member))
      refine ⟨(result, events) :: contributions, ?_, ?_, .cons own each⟩
      · simp [Stage.result?, ← results]
      · simp [logs]

theorem Sound.exists_contributions (sound : pool.Sound job files mode paths told)
    (complete : pool.Complete) :
    ∃ contributions : List (FileResult × List Event),
      pool.tasks.filterMap (·.stage.result?) = contributions.map (·.1) ∧
      told.map (·.2) = contributions.map (·.2) ∧
      List.Forall₂ (Contributes job files pool.cancelled) paths contributions := by
  have settled (entry : Task × List Event) (member : entry ∈ told) :
      entry.1.stage.result?.isSome = true :=
    complete entry.1 (sound.tasks ▸ List.mem_map_of_mem member)
  obtain ⟨contributions, results, logs, each⟩ := Pool.exists_contributions sound.emitted settled
  refine ⟨contributions, sound.tasks ▸ results, logs, ?_⟩
  rw [← sound.paths, sound.tasks, List.map_map]
  exact each

theorem Sound.ordered (sound : pool.Sound job files mode paths told)
    (sequential : mode = .sequential) {contributions : List (FileResult × List Event)}
    (results : pool.tasks.filterMap (·.stage.result?) = contributions.map (·.1)) :
    contributions.Pairwise fun a b => a.1 = .cancelled → b.1 = .cancelled := by
  rw [← List.pairwise_map (R := fun a b => a = FileResult.cancelled → b = .cancelled), ← results,
    List.pairwise_filterMap]
  refine (sound.follows sequential).imp ?_
  rintro earlier later (waiting | ⟨result, settled, cancels⟩) _ found _ found' rfl
  · rw [waiting] at found'
    cases found'
  · rw [settled] at found
    cases found
    rw [cancels rfl] at found'
    cases found'
    rfl

theorem eq_map_of_forall₂ {α β : Type} {R : α → β → Prop} {f : α → β} {xs : List α} {ys : List β}
    (each : List.Forall₂ R xs ys) (only : ∀ x, ∀ y ∈ ys, R x y → y = f x) : ys = xs.map f := by
  induction each with
  | nil => rfl
  | cons own _ ih =>
    rw [only _ _ List.mem_cons_self own, List.map_cons,
      ih fun x y member => only x y (.tail _ member)]

theorem exists_cut {contributions : List (FileResult × List Event)}
    (each : List.Forall₂ (Contributes job files cancelled) paths contributions)
    (ordered : contributions.Pairwise fun a b => a.1 = .cancelled → b.1 = .cancelled) :
    ∃ n, contributions = (paths.take n).map (sortFile job files) ++
      (paths.drop n).map fun _ => (.cancelled, []) := by
  induction each with
  | nil => exact ⟨0, rfl⟩
  | cons own each ih =>
    obtain ⟨behind, ordered⟩ := List.pairwise_cons.mp ordered
    obtain own | ⟨-, rfl⟩ := own
    · obtain ⟨n, split⟩ := ih ordered
      refine ⟨n + 1, ?_⟩
      rw [List.take_succ_cons, List.drop_succ_cons, List.map_cons, List.cons_append, ← split, own]
    · refine ⟨0, ?_⟩
      rw [eq_map_of_forall₂ each fun _ later member own =>
        (own.of_cancelled (behind later member rfl)).2]
      rfl

theorem cancelled_of_play {schedule : List Action} (kept : .raise ∉ schedule)
    (played : pool.play job files mode schedule = some next) : next.cancelled = pool.cancelled := by
  induction schedule generalizing pool with
  | nil =>
    cases played
    rfl
  | cons action rest ih =>
    obtain ⟨between, stepped, rest⟩ := play_cons.mp played
    rw [ih (fun member => kept (.tail _ member)) rest]
    obtain ⟨rfl, -⟩ | ⟨_, _, _, _, _, -, -, -, rfl⟩ := step_cases stepped
    · exact absurd List.mem_cons_self kept
    · rfl

/-- However the tasks take turns, a batch that is not cancelled reports what the files yield one
after the other, with their events interleaved. Whenever it is cancelled, each file counts whole or
not at all, and if the tasks run in sequence the files that count come first. -/
theorem report_of_play {schedule : List Action}
    (played : (start paths).play job files mode schedule = some pool) (complete : pool.Complete) :
    (.raise ∉ schedule →
      pool.report = (run job files uncancelled paths).report ∧
      pool.report.filesProcessed = paths.length ∧ pool.report.cancelled = false ∧
      Interleaves ((runFrom job files uncancelled 0 paths).map (·.2)) pool.log ∧
      pool.log.Perm (run job files uncancelled paths).events) ∧
    ∃ contributions : List (FileResult × List Event),
      List.Forall₂ (Contributes job files pool.cancelled) paths contributions ∧
      pool.report = .ofResults (contributions.map (·.1)) ∧
      Interleaves (contributions.map (·.2)) pool.log ∧
      pool.report.filesProcessed = contributions.countP (·.1 ≠ .cancelled) ∧
      (pool.report.cancelled = true ↔ pool.report.filesProcessed < paths.length) ∧
      (mode = .sequential → ∃ n,
        contributions = (paths.take n).map (sortFile job files) ++
          ((paths.drop n).map fun _ => (.cancelled, [])) ∧
        ⟨pool.report, pool.log⟩ = run job files (fun filesRead => n ≤ filesRead) paths) := by
  obtain ⟨told, sound⟩ := (sound_start job files mode paths).play played
  obtain ⟨contributions, results, logs, each⟩ := sound.exists_contributions complete
  have reported : pool.report = .ofResults (contributions.map (·.1)) := by rw [report, results]
  have merged : Interleaves (contributions.map (·.2)) pool.log := logs ▸ sound.log
  have counted : pool.report.filesProcessed = contributions.countP (·.1 ≠ .cancelled) := by
    rw [reported, Report.ofResults_eq, List.countP_map]
    rfl
  have missing : pool.report.cancelled = true ↔ pool.report.filesProcessed < paths.length := by
    rw [reported, Report.cancelled_iff, List.length_map, each.length_eq]
  refine ⟨?_, contributions, each, reported, merged, counted, missing, ?_⟩
  · intro kept
    rw [cancelled_of_play kept played] at each
    have whole := eq_map_of_forall₂ each fun _ _ _ own => own.resolve_right nofun
    have all : pool.report.filesProcessed = paths.length := by
      rw [counted, whole, List.countP_map, List.countP_eq_length]
      exact fun path _ => decide_eq_true (sortFile_ne_cancelled path)
    refine ⟨?_, all, ?_, ?_, ?_⟩
    · rw [reported, whole, ← runFrom_uncancelled 0]
      rfl
    · rw [← Bool.not_eq_true, missing, all]
      exact Nat.lt_irrefl _
    · rwa [runFrom_uncancelled, ← whole]
    · have held := merged.perm
      rwa [whole, ← runFrom_uncancelled 0, ← List.flatMap_def] at held
  · intro sequential
    obtain ⟨n, split⟩ := exists_cut each (sound.ordered sequential results)
    refine ⟨n, split, ?_⟩
    have log : pool.log = contributions.flatMap (·.2) := by
      rw [sound.inOrder sequential, List.flatMap_def, logs, ← List.flatMap_def]
    rw [run, runFrom_le, Nat.sub_zero, ← split, reported, log]
    rfl

end Pool

end

namespace Overtaking

def tree : Node :=
  .named "program" "" ⟨0, 10⟩ 0 0 [
    .named "class_declaration" "" ⟨0, 10⟩ 0 0 [
      .token "class" ⟨0, 5⟩ 0,
      .named "type_identifier" "name" ⟨6, 7⟩ 0 0 [],
      .named "class_body" "body" ⟨8, 10⟩ 0 0
        [.token "\x7b" ⟨8, 9⟩ 0, .token "\x7d" ⟨9, 10⟩ 0]]]

def store : Store := ⟨[(⟨"a.ts"⟩, "class A \x7b\x7d")], []⟩

def job : Job where
  parse _ text := if text = "class A \x7b\x7d".toList then some tree else none
  policy := .group
  skip _ := true

/-- A file whose class is skipped and a file that is not there. -/
def paths : List Path := [⟨"a.ts"⟩, ⟨"b.ts"⟩]

def skipped : Task := ⟨⟨"a.ts"⟩, .settled (.processed none [])⟩

def unread : Task := ⟨⟨"b.ts"⟩, .settled (.failed ⟨⟨"b.ts"⟩, .read ⟨"b.ts"⟩ .absent⟩)⟩

/-- The second file fails before the first one is read. -/
def overtaking : List Action := [0, 1, 1, 1, 1, 0, 0, 0, 1, 0].map .advance

def overtaken : Pool where
  cancelled := false
  tasks := [skipped, unread]
  log := [.fileFailed ⟨"b.ts"⟩ "Failed to read b.ts: no such file", .classSkipped ⟨"a.ts"⟩ "A"]

/-- The flag is raised when the first file has been read. -/
def cancelling : List Action :=
  [.advance 0, .advance 0, .raise, .advance 0, .advance 0, .advance 0, .advance 1]

def cutShort : Pool where
  cancelled := true
  tasks := [skipped, ⟨⟨"b.ts"⟩, .settled .cancelled⟩]
  log := [.classSkipped ⟨"a.ts"⟩ "A"]

end Overtaking

open Overtaking in
theorem report_of_play_overtaking :
    (Pool.start paths).play job store .parallel overtaking = some overtaken ∧
      overtaken.Complete ∧ .raise ∉ overtaking ∧
      overtaken.report = (run job store uncancelled paths).report ∧
    (Pool.start paths).play job store .sequential cancelling = some cutShort ∧
      cutShort.Complete ∧
      ∃ n, ⟨cutShort.report, cutShort.log⟩ =
        run job store (fun filesRead => n ≤ filesRead) paths := by
  have played : (Pool.start paths).play job store .parallel overtaking = some overtaken := by
    decide +kernel
  have played' : (Pool.start paths).play job store .sequential cancelling = some cutShort := by
    decide +kernel
  refine ⟨played, by decide, by decide, ?_, played', by decide, ?_⟩
  · exact ((Pool.report_of_play played (by decide)).1 (by decide)).1
  · obtain ⟨_, _, _, _, _, _, sequential⟩ := (Pool.report_of_play played' (by decide)).2
    obtain ⟨n, -, same⟩ := sequential rfl
    exact ⟨n, same⟩

end Batch

end MemberOrder
