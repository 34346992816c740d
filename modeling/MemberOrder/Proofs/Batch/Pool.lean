import Mathlib.Algebra.GroupWithZero.Nat
import MemberOrder.Proofs.Batch.Report

/-! A batch whose files are handled by tasks that take turns.

A task looks at the cancel flag, reads its file, sorts it and emits the events one by one into a
log that all tasks share. A schedule says which task moves next and when the flag is raised. With
the tasks in parallel any of them may move; in sequence, only the first that is not settled. Either
way a schedule that has not settled every task can be carried on until it has.
-/

set_option autoImplicit false

namespace MemberOrder

namespace Batch

/-! ## Tasks -/

inductive Stage where
  | waiting
  | begun
  | loaded (contents : Except FileFault String)
  | emitting (result : FileResult) (pending : List Event)
  | settled (result : FileResult)
  deriving DecidableEq

namespace Stage

variable {σ : Type} [FileSystem σ]

def result? : Stage → Option FileResult
  | settled result => some result
  | _ => none

def step (job : Job) (files : σ) (path : Path) (cancelled : Bool) :
    Stage → Option (Stage × List Event)
  | waiting => if cancelled then some (settled .cancelled, []) else some (begun, [])
  | begun => some (loaded (FileSystem.read files path), [])
  | loaded contents =>
    let outcome := job.outcome path contents
    some (emitting (.ofOutcome path outcome) (Event.ofFile path outcome), [])
  | emitting result (event :: pending) => some (emitting result pending, [event])
  | emitting result [] => some (settled result, [])
  | settled _ => none

def remaining (job : Job) (files : σ) (path : Path) : Stage → Nat
  | waiting => (sortFile job files path).2.length + 4
  | begun => (sortFile job files path).2.length + 3
  | loaded contents => (Event.ofFile path (job.outcome path contents)).length + 2
  | emitting _ pending => pending.length + 1
  | settled _ => 0

theorem exists_step (job : Job) (files : σ) (path : Path) (cancelled : Bool) {stage : Stage}
    (unsettled : stage.result? = none) :
    ∃ next more, stage.step job files path cancelled = some (next, more) ∧
      next.remaining job files path < stage.remaining job files path := by
  cases stage with
  | waiting => cases cancelled <;> exact ⟨_, _, rfl, by simp [remaining]⟩
  | begun => exact ⟨_, _, rfl, by simp [remaining, sortFile]⟩
  | loaded contents => exact ⟨_, _, rfl, by simp [remaining]⟩
  | emitting result pending => cases pending <;> exact ⟨_, _, rfl, by simp [remaining]⟩
  | settled result => cases unsettled

end Stage

structure Task where
  path : Path
  stage : Stage
  deriving DecidableEq

/-! ## Pools -/

/-- All tasks may move, or only the first that is not settled. -/
inductive Mode where
  | parallel
  | sequential
  deriving DecidableEq

inductive Action where
  | raise
  | advance (index : Nat)
  deriving DecidableEq

structure Pool where
  cancelled : Bool
  tasks : List Task
  log : List Event
  deriving DecidableEq

namespace Pool

variable {σ : Type} [FileSystem σ] {job : Job} {files : σ} {mode : Mode} {pool next : Pool}

def start (paths : List Path) : Pool := ⟨false, paths.map fun path => ⟨path, .waiting⟩, []⟩

def Complete (pool : Pool) : Prop := ∀ task ∈ pool.tasks, task.stage.result?.isSome = true

instance (pool : Pool) : Decidable pool.Complete :=
  inferInstanceAs (Decidable (∀ task ∈ pool.tasks, task.stage.result?.isSome = true))

def report (pool : Pool) : Report := .ofResults (pool.tasks.filterMap (·.stage.result?))

def step (job : Job) (files : σ) (mode : Mode) (pool : Pool) : Action → Option Pool
  | .raise => some { pool with cancelled := true }
  | .advance index =>
    if mode = .parallel ∨ ∀ task ∈ pool.tasks.take index, task.stage.result?.isSome then do
      let task ← pool.tasks[index]?
      let (stage, emitted) ← task.stage.step job files task.path pool.cancelled
      some { pool with
        tasks := pool.tasks.set index { task with stage := stage }
        log := pool.log ++ emitted }
    else none

/-- The pool after a schedule, if each of its actions is possible when it is due. -/
def play (job : Job) (files : σ) (mode : Mode) (pool : Pool) (schedule : List Action) :
    Option Pool :=
  schedule.foldlM (step job files mode) pool

theorem play_cons {action : Action} {rest : List Action} :
    pool.play job files mode (action :: rest) = some next ↔
      ∃ between, pool.step job files mode action = some between ∧
        between.play job files mode rest = some next := by
  simp only [play, List.foldlM_cons, bind, Option.bind_eq_some_iff]

theorem step_cases {action : Action} (stepped : pool.step job files mode action = some next) :
    action = .raise ∧ next = { pool with cancelled := true } ∨
    ∃ before task after stage emitted, pool.tasks = before ++ task :: after ∧
      (mode = .sequential → ∀ earlier ∈ before, earlier.stage.result?.isSome) ∧
      task.stage.step job files task.path pool.cancelled = some (stage, emitted) ∧
      next = { pool with
        tasks := before ++ { task with stage := stage } :: after
        log := pool.log ++ emitted } := by
  cases action with
  | raise => exact .inl ⟨rfl, (Option.some.inj stepped).symm⟩
  | advance index =>
    simp only [step] at stepped
    split at stepped
    case isFalse => cases stepped
    case isTrue turn =>
      simp only [bind, Option.bind_eq_some_iff, Option.some.injEq, Prod.exists] at stepped
      obtain ⟨task, found, stage, emitted, moved, rfl⟩ := stepped
      obtain ⟨inside, rfl⟩ := List.getElem?_eq_some_iff.mp found
      refine .inr ⟨pool.tasks.take index, pool.tasks[index], pool.tasks.drop (index + 1), stage,
        emitted, ?_, ?_, moved, ?_⟩
      · simp
      · rintro rfl
        exact turn.resolve_left nofun
      · rw [List.set_eq_take_append_cons_drop, if_pos inside]

/-! ## No schedule gets stuck -/

theorem step_advance (mode : Mode) {before after : List Task} {task : Task} {stage : Stage}
    {emitted : List Event} (split : pool.tasks = before ++ task :: after)
    (turn : ∀ earlier ∈ before, earlier.stage.result?.isSome = true)
    (moved : task.stage.step job files task.path pool.cancelled = some (stage, emitted)) :
    pool.step job files mode (.advance before.length) = some { pool with
      tasks := before ++ { task with stage := stage } :: after
      log := pool.log ++ emitted } := by
  simp only [step, split]
  rw [if_pos (.inr (by simpa using turn))]
  simp [moved]

def remaining (job : Job) (files : σ) (pool : Pool) : Nat :=
  (pool.tasks.map fun task => task.stage.remaining job files task.path).sum

-- The first task that is not settled can move in either mode.
theorem exists_advance (job : Job) (files : σ) (mode : Mode) (incomplete : ¬ pool.Complete) :
    ∃ index next, pool.step job files mode (.advance index) = some next ∧
      next.remaining job files < pool.remaining job files := by
  cases found : pool.tasks.find? (·.stage.result?.isNone) with
  | none => exact absurd (by simpa [Complete, Option.isSome_iff_ne_none] using found) incomplete
  | some task =>
    obtain ⟨unsettled, before, after, split, settled⟩ := List.find?_eq_some_iff_append.mp found
    obtain ⟨stage, more, moved, fewer⟩ := Stage.exists_step job files task.path pool.cancelled
      (Option.isNone_iff_eq_none.mp unsettled)
    refine ⟨before.length, _, step_advance mode split (by simpa using settled) moved, ?_⟩
    simpa [remaining, split] using fewer

/-- From wherever a schedule has brought a pool, it can be completed. -/
theorem exists_completion (job : Job) (files : σ) (mode : Mode) (pool : Pool) :
    ∃ schedule next, .raise ∉ schedule ∧ pool.play job files mode schedule = some next ∧
      next.Complete := by
  induction left : pool.remaining job files using Nat.strongRecOn generalizing pool with
  | ind left ih =>
    by_cases complete : pool.Complete
    · exact ⟨[], pool, List.not_mem_nil, rfl, complete⟩
    · obtain ⟨index, between, stepped, fewer⟩ := exists_advance job files mode complete
      obtain ⟨schedule, next, kept, played, complete⟩ := ih _ (left ▸ fewer) between rfl
      exact ⟨.advance index :: schedule, next, by simp [kept],
        play_cons.mpr ⟨between, stepped, played⟩, complete⟩

end Pool

end Batch

end MemberOrder
