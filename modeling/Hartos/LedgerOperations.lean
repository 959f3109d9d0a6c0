import Hartos.StatusRollback

/-!
The status operations of the ledger other than `update_task_status`, and which
of them are transactions. Most move the task, save, and report the move whatever
the backend answered; three undo the move when the save is refused.
-/
namespace Hartos.SmartLedger
open TaskStatus KeyedTable
variable (ledger : SmartLedger) (taskId : TaskId) (reason : String)

def moveTask (mover : Task → Option Task) (event : Task → Option EventData) (now : Time) :
    Bool × SmartLedger :=
  match (ledger.getTask taskId).bind mover with
  | none => (false, ledger)
  | some moved =>
      let put := ledger.putTask moved
      (true, (match event moved with
        | some data => put.generateEvent data now
        | none => put).save.2)

/-- The shape of `defer_task` and `undefer_task`: the copy taken before goes back
when the save is refused. -/
def moveTaskOrUndo (mover : Task → Option Task) : Bool × SmartLedger :=
  match ledger.getTask taskId with
  | none => (false, ledger)
  | some task => match mover task with
    | none => (false, ledger)
    | some moved =>
        let saved := (ledger.putTask moved).save
        if saved.1 then (true, saved.2) else (false, saved.2.putTask task)

def noEvent (_ : Task) : Option EventData := none

def pauseTask (now : Time) : Bool × SmartLedger :=
  ledger.moveTask taskId (·.pause reason now) noEvent now

def resumeTask (now : Time) : Bool × SmartLedger :=
  ledger.moveTask taskId (·.resume reason now) noEvent now

def failTask (error : String) (now : Time) : Bool × SmartLedger :=
  ledger.moveTask taskId (·.fail error "Task failed" now) noEvent now

def userStopTask (now : Time) : Bool × SmartLedger :=
  ledger.moveTask taskId (·.userStop reason now) noEvent now

def terminateTask (now : Time) : Bool × SmartLedger :=
  ledger.moveTask taskId (·.terminate reason now) noEvent now

def skipTask (now : Time) : Bool × SmartLedger :=
  ledger.moveTask taskId (·.skip reason now) noEvent now

def markTaskNotApplicable (now : Time) : Bool × SmartLedger :=
  ledger.moveTask taskId (·.markNotApplicable reason now) noEvent now

def reclaimDelegation (ledger : SmartLedger) (taskId : TaskId) (reason : String) (now : Time) :
    Bool × SmartLedger :=
  ledger.moveTask taskId (·.reclaimDelegation reason now) noEvent now

def delegateTask (toAgentId : AgentId) (delegationType reason : String) (now : Time) :
    Bool × SmartLedger :=
  ledger.moveTask taskId (·.delegate toAgentId delegationType reason now)
    (fun _ => some (.taskDelegated taskId toAgentId delegationType)) now

def rollbackTask (now : Time) : Bool × SmartLedger :=
  ledger.moveTask taskId (·.rollback reason now)
    (fun moved => some (.taskRolledBack taskId reason moved.originalResult)) now

/-- `reopen_task`; a deferred save leaves the write to the caller. -/
def reopenTask (deferSave : Bool) (now : Time) : Bool × SmartLedger :=
  if deferSave then
    match (ledger.getTask taskId).bind (·.reopen reason now) with
    | none => (false, ledger)
    | some moved => (true, ledger.putTask moved)
  else ledger.moveTask taskId (·.reopen reason now) noEvent now

def deferTask (till : Option Stamp) (now : Time) : Bool × SmartLedger :=
  ledger.moveTaskOrUndo taskId (·.defer reason till now)

def undeferTask (now : Time) : Bool × SmartLedger :=
  ledger.moveTaskOrUndo taskId (·.undefer reason now)

def completeDelegation (host : Host) (ledger : SmartLedger) (taskId : TaskId)
    (result : Option Value) (reason : String) (now : Time) : Bool × SmartLedger :=
  match ledger.getTask taskId with
  | none => (false, ledger)
  | some task =>
      if task.status = .delegated then
        let outcome := (ledger.putTask { task with delegationResult := result }).updateTaskStatus
          host taskId { status := .completed, result := result, reason := some reason } now
        if outcome.1 then outcome
        else
          (false, outcome.2.modifyTask taskId fun t =>
            { t with delegationResult := task.delegationResult })
      else (false, ledger)

inductive StatusOperation where
  | pauseTask (taskId : TaskId) (reason : String)
  | resumeTask (taskId : TaskId) (reason : String)
  | failTask (taskId : TaskId) (error : String)
  | userStopTask (taskId : TaskId) (reason : String)
  | terminateTask (taskId : TaskId) (reason : String)
  | skipTask (taskId : TaskId) (reason : String)
  | markTaskNotApplicable (taskId : TaskId) (reason : String)
  | delegateTask (taskId : TaskId) (toAgentId : AgentId) (delegationType reason : String)
  | reclaimDelegation (taskId : TaskId) (reason : String)
  | rollbackTask (taskId : TaskId) (reason : String)
  | reopenTask (taskId : TaskId) (reason : String)
  | deferTask (taskId : TaskId) (reason : String) (till : Option Stamp)
  | undeferTask (taskId : TaskId) (reason : String)
  | completeDelegation (taskId : TaskId) (result : Option Value) (reason : String)
  | addTask (task : Task)

namespace StatusOperation

def run (host : Host) (ledger : SmartLedger) (now : Time) : StatusOperation → Bool × SmartLedger
  | .pauseTask taskId reason => ledger.pauseTask taskId reason now
  | .resumeTask taskId reason => ledger.resumeTask taskId reason now
  | .failTask taskId error => ledger.failTask taskId error now
  | .userStopTask taskId reason => ledger.userStopTask taskId reason now
  | .terminateTask taskId reason => ledger.terminateTask taskId reason now
  | .skipTask taskId reason => ledger.skipTask taskId reason now
  | .markTaskNotApplicable taskId reason => ledger.markTaskNotApplicable taskId reason now
  | .delegateTask taskId toAgentId delegationType reason =>
      ledger.delegateTask taskId toAgentId delegationType reason now
  | .reclaimDelegation taskId reason => ledger.reclaimDelegation taskId reason now
  | .rollbackTask taskId reason => ledger.rollbackTask taskId reason now
  | .reopenTask taskId reason => ledger.reopenTask taskId reason false now
  | .deferTask taskId reason till => ledger.deferTask taskId reason till now
  | .undeferTask taskId reason => ledger.undeferTask taskId reason now
  | .completeDelegation taskId result reason =>
      ledger.completeDelegation host taskId result reason now
  | .addTask task => ledger.addTask task false

def undoesRefusedSave : StatusOperation → Bool
  | .deferTask .. | .undeferTask .. | .completeDelegation .. => true
  | _ => false

def statusAllows (ledger : SmartLedger) (taskId : TaskId) (test : Task → Bool) : Bool :=
  (ledger.getTask taskId).any test

/-- Whether the ledger lets the operation start: the task is there and in a
status it may be moved from, or the added id is free or holds a finished task of
an earlier process. -/
def admitted (ledger : SmartLedger) : StatusOperation → Bool
  | .pauseTask taskId _ => statusAllows ledger taskId (·.validateTransition .paused)
  | .resumeTask taskId _ => statusAllows ledger taskId (·.validateTransition .resuming)
  | .failTask taskId _ => statusAllows ledger taskId (·.validateTransition .failed)
  | .userStopTask taskId _ => statusAllows ledger taskId (·.validateTransition .userStopped)
  | .terminateTask taskId _ => statusAllows ledger taskId (·.validateTransition .terminated)
  | .skipTask taskId _ => statusAllows ledger taskId (·.validateTransition .skipped)
  | .markTaskNotApplicable taskId _ =>
      statusAllows ledger taskId (·.validateTransition .notApplicable)
  | .delegateTask taskId _ _ _ => statusAllows ledger taskId (·.validateTransition .delegated)
  | .reclaimDelegation taskId _ => statusAllows ledger taskId (·.status = .delegated)
  | .rollbackTask taskId _ => statusAllows ledger taskId (·.status = .completed)
  | .reopenTask taskId _ => statusAllows ledger taskId (·.status = .completed)
  | .deferTask taskId _ _ => statusAllows ledger taskId (·.validateTransition .deferred)
  | .undeferTask taskId _ => statusAllows ledger taskId (·.status = .deferred)
  | .completeDelegation taskId _ _ => statusAllows ledger taskId (·.status = .delegated)
  | .addTask task => ledger.acceptsId task.taskId

end StatusOperation

structure Transactional (ledger : SmartLedger) (outcome : Bool × SmartLedger) : Prop where
  refused : ledger.backend.next ≠ .accepted →
    outcome.1 = false ∧ { outcome.2 with backend := ledger.backend } = ledger
  stored : outcome.1 = true → outcome.2.backend.stored = some outcome.2.image

variable (host : Host) (ledger : SmartLedger) (task : Task) (taskId : TaskId)
  (update : StatusUpdate) (mover : Task → Option Task)

theorem transactional_of_refusal : Transactional ledger (false, ledger) :=
  ⟨fun _ => ⟨rfl, rfl⟩, fun success => absurd success (by simp)⟩

theorem emitCompletionEvents_keeps (autoResumed : List TaskId) (now : Time) :
    (ledger.emitCompletionEvents taskId autoResumed now).image = ledger.image ∧
      (ledger.emitCompletionEvents taskId autoResumed now).backend = ledger.backend := by
  have resumed (ids : List TaskId) (start : SmartLedger) :
      (ids.foldl (fun current id => current.generateEvent (.taskAutoResumed id taskId) now)
          start).image = start.image ∧
        (ids.foldl (fun current id => current.generateEvent (.taskAutoResumed id taskId) now)
          start).backend = start.backend := by
    induction ids generalizing start with
    | nil => exact ⟨rfl, rfl⟩
    | cons id rest ih => exact ih (start.generateEvent (.taskAutoResumed id taskId) now)
  exact resumed autoResumed ledger

-- A completed update is on disk before it is reported.
theorem updateTaskStatus_stored (now : Time) (durable : update.deferSave = false)
    (success : (ledger.updateTaskStatus host taskId update now).1 = true) :
    (ledger.updateTaskStatus host taskId update now).2.backend.stored =
      some (ledger.updateTaskStatus host taskId update now).2.image := by
  cases updateTaskStatus_cases host ledger taskId update now with
  | unchanged ends =>
    rw [ends] at success
    cases success
  | deferred _ _ _ deferred _ =>
    rw [durable] at deferred
    cases deferred
  | done task found _ _ accepted ends =>
    have named := ledger.getTask_taskId taskId task found
    subst named
    have sameBackend := (stageStatus_staged host ledger task update now found).backend
    have written := save_stored (stageStatus host ledger task update now).1
      (sameBackend ▸ accepted)
    have events := emitCompletionEvents_keeps
      (stageStatus host ledger task update now).1.save.2 task.taskId
      (stageStatus host ledger task update now).2 now
    rw [ends]
    split
    · rw [events.1, events.2, written]
    · exact written
  | undone _ _ _ _ _ ends =>
    rw [ends] at success
    cases success

theorem updateTaskStatus_transactional (now : Time) (durable : update.deferSave = false) :
    Transactional ledger (ledger.updateTaskStatus host taskId update now) :=
  ⟨refused_update_restores host ledger taskId update now durable,
    updateTaskStatus_stored host ledger taskId update now durable⟩

theorem moveTask_transactional (event : Task → Option EventData) (now : Time) :
    Transactional ledger (ledger.moveTask taskId mover event now) ↔
      ledger.backend.next = .accepted ∨
        (ledger.getTask taskId).any (fun task => (mover task).isSome) = false := by
  unfold moveTask
  cases moved : (ledger.getTask taskId).bind mover with
  | none =>
    have idle : (ledger.getTask taskId).any (fun task => (mover task).isSome) = false := by
      cases found : ledger.getTask taskId with
      | none => rfl
      | some task => simpa [found] using moved
    exact ⟨fun _ => Or.inr idle, fun _ => transactional_of_refusal ledger⟩
  | some new =>
    have active : (ledger.getTask taskId).any (fun task => (mover task).isSome) = true := by
      cases found : ledger.getTask taskId with
      | none => simp [found] at moved
      | some task => simp [Option.any, show mover task = some new by simpa [found] using moved]
    simp only [active, Bool.true_eq_false, or_false]
    constructor
    · intro transactional
      by_contra refused
      exact absurd (transactional.refused refused).1 (by simp)
    · intro accepted
      refine ⟨fun refused => absurd accepted refused, fun _ => ?_⟩
      apply save_stored
      split <;> exact accepted

theorem moveTaskOrUndo_transactional
    (sameId : ∀ task moved, mover task = some moved → moved.taskId = task.taskId) :
    Transactional ledger (ledger.moveTaskOrUndo taskId mover) := by
  unfold moveTaskOrUndo
  cases found : ledger.getTask taskId with
  | none => exact transactional_of_refusal ledger
  | some task =>
    cases moved : mover task with
    | none => simpa [moved] using transactional_of_refusal ledger
    | some new =>
      simp only [moved]
      have named := ledger.getTask_taskId taskId task found
      by_cases accepted : ledger.backend.next = .accepted
      · have saved := save_accepted (ledger.putTask new) accepted
        simp only [saved, ↓reduceIte]
        exact ⟨fun refused => absurd accepted refused, fun _ => save_stored _ accepted⟩
      · have failed := save_refused (ledger.putTask new) accepted
        have undone := Table.set_undo ledger.tasks task new (sameId task new moved)
          (by rw [named]; exact found)
        simp only [failed, Bool.false_eq_true, ↓reduceIte]
        refine ⟨fun _ => ⟨rfl, ?_⟩, fun success => absurd success (by simp)⟩
        simp only [save, putTask, undone]

theorem completeDelegation_transactional (result : Option Value) (reason : String) (now : Time) :
    Transactional ledger (ledger.completeDelegation host taskId result reason now) := by
  unfold completeDelegation
  cases found : ledger.getTask taskId with
  | none => exact transactional_of_refusal ledger
  | some task =>
    dsimp only
    split
    · have named := ledger.getTask_taskId taskId task found
      have inner := updateTaskStatus_transactional host
        (ledger.putTask { task with delegationResult := result }) taskId
        { status := .completed, result := result, reason := some reason } now rfl
      generalize (ledger.putTask { task with delegationResult := result }).updateTaskStatus host
        taskId { status := .completed, result := result, reason := some reason } now = outcome
        at inner ⊢
      split
      next success =>
        refine ⟨fun refused => ?_, fun _ => inner.stored success⟩
        rw [(inner.refused refused).1] at success
        cases success
      next =>
        refine ⟨fun refused => ⟨rfl, ?_⟩, fun success => absurd success (by simp)⟩
        have memory : outcome.2 = { ledger.putTask { task with delegationResult := result } with
            backend := outcome.2.backend } := by
          rw [← (inner.refused refused).2]
        rw [memory]
        have undone := Table.set_undo ledger.tasks task { task with delegationResult := result }
          rfl (named ▸ found)
        have row : (ledger.tasks.set { task with delegationResult := result }).get? taskId =
            some { task with delegationResult := result } := by
          rw [Table.get?_set, if_pos named]
        simp only [modifyTask, getTask, putTask, row, undone]
    · exact transactional_of_refusal ledger

theorem addTask_transactional :
    Transactional ledger (ledger.addTask task false) ↔
      ledger.backend.next = .accepted ∨ ledger.acceptsId task.taskId = false := by
  unfold addTask insertTask
  by_cases free : ledger.acceptsId task.taskId = true
  · simp only [free, ↓reduceIte, Bool.false_eq_true, Bool.true_eq_false, or_false]
    constructor
    · intro transactional
      by_contra refused
      exact absurd (transactional.refused refused).1 (by simp)
    · intro accepted
      exact ⟨fun refused => absurd accepted refused, fun _ => save_stored _ accepted⟩
  · simp only [free, Bool.false_eq_true, ↓reduceIte, or_true, iff_true]
    exact transactional_of_refusal ledger

/-! The movers go ahead exactly when the lifecycle admits the move. -/

theorem move_isSome (newStatus : Status) (reason : String) (now : Time) (fields : Task → Task) :
    (task.move newStatus reason now fields).isSome = task.validateTransition newStatus := by
  unfold Task.move
  cases task.validateTransition newStatus <;> simp

theorem moveFrom_isSome (required newStatus : Status) (reason : String) (now : Time)
    (fields : Task → Task) :
    (task.moveFrom required newStatus reason now fields).isSome =
      decide (task.status = required) := by
  unfold Task.moveFrom
  by_cases here : task.status = required <;> simp [here]

theorem defer_taskId (task moved : Task) (reason : String) (till : Option Stamp) (now : Time)
    (deferred : task.defer reason till now = some moved) : moved.taskId = task.taskId := by
  simp only [Task.defer, Task.move] at deferred
  split at deferred
  · cases deferred
    rfl
  · cases deferred

theorem undefer_taskId (task moved : Task) (reason : String) (now : Time)
    (undeferred : task.undefer reason now = some moved) : moved.taskId = task.taskId := by
  simp only [Task.undefer, Task.moveFrom] at undeferred
  split at undeferred
  · cases undeferred
    rfl
  · cases undeferred

/-- The operations are transactional exactly when the save goes through, the
operation undoes a refused save, or there was nothing to do. -/
theorem operation_transactional_iff (host : Host) (ledger : SmartLedger) (now : Time)
    (operation : StatusOperation) :
    Transactional ledger (operation.run host ledger now) ↔
      ledger.backend.next = .accepted ∨ operation.undoesRefusedSave = true ∨
        operation.admitted ledger = false := by
  cases operation with
  -- Three operations put the task back themselves.
  | deferTask taskId reason till =>
      constructor
      · exact fun _ => Or.inr (Or.inl rfl)
      · intro _
        apply moveTaskOrUndo_transactional ledger taskId
        exact fun task moved => defer_taskId task moved reason till now
  | undeferTask taskId reason =>
      constructor
      · exact fun _ => Or.inr (Or.inl rfl)
      · intro _
        apply moveTaskOrUndo_transactional ledger taskId
        exact fun task moved => undefer_taskId task moved reason now
  | completeDelegation taskId result reason =>
      exact ⟨fun _ => Or.inr (Or.inl rfl),
        fun _ => completeDelegation_transactional host ledger taskId result reason now⟩
  | addTask task =>
      simpa only [StatusOperation.run, StatusOperation.undoesRefusedSave, StatusOperation.admitted,
        Bool.false_eq_true, false_or] using addTask_transactional ledger task
  -- The others share one shape and differ in the status they ask for.
  | _ =>
      simp only [StatusOperation.run, pauseTask, resumeTask, failTask, userStopTask, terminateTask,
        skipTask, markTaskNotApplicable, delegateTask, reclaimDelegation, rollbackTask, reopenTask,
        Bool.false_eq_true, ↓reduceIte, moveTask_transactional]
      simp only [StatusOperation.undoesRefusedSave, StatusOperation.admitted,
        StatusOperation.statusAllows, Task.pause, Task.resume, Task.fail, Task.userStop,
        Task.terminate, Task.skip, Task.markNotApplicable, Task.delegate, Task.reclaimDelegation,
        Task.rollback, Task.reopen, Option.isSome_map, move_isSome, moveFrom_isSome,
        Bool.false_eq_true, false_or]

/-- A pause that no disk has seen is reported as done. -/
theorem pause_reported_unsaved :
    let ledger := sampleLedger [sampleTask "a" .inProgress] .rejected
    let outcome := (StatusOperation.pauseTask "a" "lunch").run sampleHost ledger 5
    ¬ (outcome.1 = false ∧ outcome.2.tasks = ledger.tasks) ∧
      outcome.1 = true ∧ outcome.2.backend.stored = none ∧
      (outcome.2.getTask "a").map Task.status = some .paused ∧
      ¬ Transactional ledger outcome := by
  refine ⟨by decide, by decide, rfl, by decide, fun transactional => ?_⟩
  have reported := (transactional.refused (by decide)).1
  exact absurd reported (by decide)

end Hartos.SmartLedger
