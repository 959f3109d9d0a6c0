import Hartos.ClaimAtomicity
import Hartos.StepSystem

/-!
Runs of one coordinator: any number of agents claim and report in any order, and
every call reads a clock of its own, so locks lapse and claims age between any
two of them. A call is one step here; calls that come between the accesses of
another are those of `CoordinatorPrograms`.
-/
namespace Hartos
open TaskStatus KeyedTable
open SmartLedger (Cascaded)

namespace SmartLedger
variable (host : Host) (ledger : SmartLedger) (taskId : TaskId) (update : StatusUpdate)

theorem emitCompletionEvents_tasks (autoResumed : List TaskId) (now : Time) :
    (ledger.emitCompletionEvents taskId autoResumed now).tasks = ledger.tasks :=
  congrArg LedgerImage.tasks (ledger.emitCompletionEvents_keeps taskId autoResumed now).1

inductive UpdateEnd (taskId : TaskId) (status : Status) (before after : SmartLedger) : Bool → Prop
  | done (present : taskId ∈ before.tasks.keys)
      (rows : Table.Evolves (StatusSet taskId status) before.tasks after.tasks)
      (stored : after.backend.stored = some after.image) : UpdateEnd taskId status before after true
  | refused (rows : after.tasks = before.tasks)
      (stored : after.backend.stored = before.backend.stored) :
      UpdateEnd taskId status before after false

theorem updateTaskStatus_ends (now : Time) (durable : update.deferSave = false) :
    UpdateEnd taskId update.status ledger (ledger.updateTaskStatus host taskId update now).2
      (ledger.updateTaskStatus host taskId update now).1 := by
  cases updateTaskStatus_cases host ledger taskId update now with
  | unchanged ends =>
    rw [ends]
    exact .refused rfl rfl
  | deferred _ _ _ deferred _ =>
    rw [durable] at deferred
    cases deferred
  | done task found _ _ _ ends =>
    have named := ledger.getTask_taskId taskId task found
    subst named
    have staged := stageStatus_staged host ledger task update now found
    have present := (Table.mem_keys ledger.tasks task.taskId).mpr ⟨task, found⟩
    have stored := updateTaskStatus_stored host ledger task.taskId update now durable
    rw [ends] at stored ⊢
    refine .done present ?_ (stored rfl)
    have rows : Table.Evolves (StatusSet task.taskId update.status) ledger.tasks
        (stageStatus host ledger task update now).1.save.2.tasks :=
      staged.rows.mono fun _ _ row => row.set
    split
    · rw [emitCompletionEvents_tasks]
      exact rows
    · exact rows
  | undone task found _ _ refused ends =>
    have named := ledger.getTask_taskId taskId task found
    subst named
    have staged := stageStatus_staged host ledger task update now found
    rw [ends]
    apply UpdateEnd.refused
    · rfl
    · exact (save_keeps_stored _ (staged.backend ▸ refused)).trans
        (congrArg Backend.stored staged.backend)

/-- A durable update goes through as a whole or leaves the rows alone. -/
theorem updateTaskStatus_rows (now : Time) (durable : update.deferSave = false) :
    Table.Evolves (fun old new => new = old ∨ StatusSet taskId update.status old new) ledger.tasks
      (ledger.updateTaskStatus host taskId update now).2.tasks := by
  have ends := updateTaskStatus_ends host ledger taskId update now durable
  generalize (ledger.updateTaskStatus host taskId update now).1 = success at ends
  cases ends with
  | done _ rows _ => exact rows.mono fun _ _ set => Or.inr set
  | refused rows _ =>
    rw [rows]
    apply Table.Evolves.refl
    exact fun _ => Or.inl rfl

end SmartLedger

def deferredTask (reason : String) (retryAfterS : Int) (now : Time) (task : Task) : Task :=
  { clearClaim task with
    deferredAt := some now
    deferredReason := some ("temporary worker deferral: " ++ reason)
    deferredUntil := some (.at (now + seconds (max 1 retryAfterS))) }.recordStateTransition
      .deferred ("temporary worker deferral: " ++ reason) now

def heldTask (reason history : String) (now : Time) (task : Task) : Task :=
  (SmartLedger.updatedTask
    { status := .blocked, errorMessage := some reason, reason := some history, deferSave := true }
    now task).setBlockedReason (some BlockedReason.inputRequired.value) now

theorem heldTask_keeps (reason history : String) (now : Time) (task : Task) :
    (heldTask reason history now task).taskId = task.taskId ∧
      (heldTask reason history now task).status = .blocked ∧
      (heldTask reason history now task).context = task.context :=
  SmartLedger.updatedTask_keeps
    { status := .blocked, errorMessage := some reason, reason := some history, deferSave := true }
    now task

namespace Coordinator
variable {Lock : Type} [TaskLock Lock]

theorem holdTask_ledger (host : Host) (c : Coordinator Lock) (task : Task) (agentId : AgentId)
    (reason history : String) (now : Time) (found : c.ledger.getTask task.taskId = some task) :
    (c.holdTask host task.taskId agentId reason history now).2.ledger =
      if task.validateTransition .blocked then
        (c.ledger.commitPut (heldTask reason history now task)).2
      else c.ledger := by
  have sameId := (SmartLedger.updatedTask_keeps
    { status := .blocked, errorMessage := some reason, reason := some history, deferSave := true }
    now task).1
  have update := c.ledger.updateTaskStatus_deferred host task
    { status := .blocked, errorMessage := some reason, reason := some history, deferSave := true }
    now found rfl (by simp)
  unfold holdTask
  by_cases allowed : task.validateTransition .blocked = true
  · have mark := c.ledger.modifyTask_putTask (SmartLedger.updatedTask
      { status := .blocked, errorMessage := some reason, reason := some history,
        deferSave := true } now task)
      (·.setBlockedReason (some BlockedReason.inputRequired.value) now) rfl
    rw [sameId] at mark
    have commit := c.ledger.commitDeferred_putTask task (heldTask reason history now task) found
      sameId
    simp only [found, update, ↓reduceIte, mark, allowed]
    exact congrArg Prod.snd commit
  · have undone : c.ledger.restoreSnapshots [task] = c.ledger :=
      SmartLedger.restoreSnapshots_undoes c.ledger c.ledger [task] (by simpa using found)
        (SmartLedger.Reworked.refl (fun _ _ => rfl) c.ledger)
    simp only [found, update, Bool.false_eq_true, ↓reduceIte, allowed, undone]

theorem deferTask_ledger (c : Coordinator Lock) (task : Task) (agentId : AgentId)
    (reason : String) (retryAfterS : Int) (now : Time)
    (found : c.ledger.getTask task.taskId = some task) :
    (c.deferTask task.taskId agentId reason retryAfterS now).2.ledger =
      if task.validateTransition .deferred then
        (c.ledger.commitPut (deferredTask reason retryAfterS now task)).2
      else c.ledger := by
  have cleared : SmartLedger.Reworked (fun old new => old.taskId ∉ [task.taskId] → new = old)
      c.ledger (c.ledger.putTask (clearClaim task)) :=
    SmartLedger.reworked_putTask c.ledger task (clearClaim task) (fun _ _ _ => rfl) found
      (fun outside => absurd List.mem_cons_self outside)
  -- The copy was taken with the claim still on it; a refused deferral brings it back.
  have undone (backend : Backend) : SmartLedger.restoreSnapshots
      { c.ledger.putTask (clearClaim task) with backend := backend } [task] =
        { c.ledger with backend := backend } :=
    SmartLedger.restoreSnapshots_undoes { c.ledger with backend := backend } _ [task]
      (fun copy member => (List.mem_singleton.mp member) ▸ found) (cleared.withBackend backend)
  have row : (c.ledger.putTask (clearClaim task)).getTask (clearClaim task).taskId =
      some (clearClaim task) := by simp [SmartLedger.getTask_putTask]
  unfold deferTask
  by_cases allowed : task.validateTransition .deferred = true
  · have moved : (clearClaim task).defer ("temporary worker deferral: " ++ reason)
        (some (.at (now + seconds (max 1 retryAfterS)))) now =
          some (deferredTask reason retryAfterS now task) := by
      have same : (clearClaim task).validateTransition .deferred = true := allowed
      simp only [Task.defer, Task.move, same, ↓reduceIte]
      rfl
    have commit := (c.ledger.putTask (clearClaim task)).moveTaskOrUndo_commitPut (clearClaim task)
      (deferredTask reason retryAfterS now task) (·.defer ("temporary worker deferral: " ++ reason)
        (some (.at (now + seconds (max 1 retryAfterS)))) now) row moved rfl
    have together := c.ledger.putTask_putTask (clearClaim task)
      (deferredTask reason retryAfterS now task) rfl
    have sameId : (clearClaim task).taskId = task.taskId := rfl
    rw [sameId] at commit
    simp only [found, SmartLedger.deferTask, commit, allowed, ↓reduceIte]
    by_cases accepted : c.ledger.backend.next = .accepted
    · have next : (c.ledger.putTask (clearClaim task)).backend.next = .accepted := accepted
      simp only [SmartLedger.commitPut, next, accepted, ↓reduceIte, together]
    · have next : (c.ledger.putTask (clearClaim task)).backend.next ≠ .accepted := accepted
      simp only [SmartLedger.commitPut, next, accepted, ↓reduceIte, Bool.false_eq_true, together,
        undone]
  · have kept : (clearClaim task).defer ("temporary worker deferral: " ++ reason)
        (some (.at (now + seconds (max 1 retryAfterS)))) now = none := by
      have same : (clearClaim task).validateTransition .deferred = false :=
        Bool.eq_false_iff.mpr allowed
      simp only [Task.defer, Task.move, same, Bool.false_eq_true, ↓reduceIte]
    have sameId : (clearClaim task).taskId = task.taskId := rfl
    rw [sameId] at row
    simp only [found, SmartLedger.deferTask, SmartLedger.moveTaskOrUndo, row, kept, allowed,
      Bool.false_eq_true, ↓reduceIte]
    exact undone c.ledger.backend

end Coordinator

inductive CoordinatorEvent where
  | claimNextTask (agentId : AgentId) (capabilities : Option (List String)) (now : Time)
  | claimParallelBatch (agentId : AgentId) (maxTasks : Int) (capabilities : Option (List String))
      (now : Time)
  | submitResult (agentId : AgentId) (taskId : TaskId) (result : Option Value) (now : Time)
  | abandonTask (agentId : AgentId) (taskId : TaskId) (now : Time)
  | deferTask (agentId : AgentId) (taskId : TaskId) (reason : String) (retryAfterS : Int)
      (now : Time)
  | holdTask (agentId : AgentId) (taskId : TaskId) (reason history : String) (now : Time)
  deriving DecidableEq

namespace CoordinatorEvent
variable {Lock : Type} [TaskLock Lock]

def perform (host : Host) (c : Coordinator Lock) :
    CoordinatorEvent → List TaskId × Coordinator Lock
  | .claimNextTask agentId capabilities now =>
      ((c.claimNextTask host agentId capabilities now).1.toList,
        (c.claimNextTask host agentId capabilities now).2)
  | .claimParallelBatch agentId maxTasks capabilities now =>
      c.claimParallelBatch host agentId maxTasks capabilities now
  | .submitResult agentId taskId result now =>
      ([], (c.submitResult host taskId agentId result now).2)
  | .abandonTask agentId taskId now => ([], c.abandonTask taskId agentId now)
  | .deferTask agentId taskId reason retryAfterS now =>
      ([], (c.deferTask taskId agentId reason retryAfterS now).2)
  | .holdTask agentId taskId reason history now =>
      ([], (c.holdTask host taskId agentId reason history now).2)

def agent : CoordinatorEvent → AgentId
  | .claimNextTask agentId _ _ | .claimParallelBatch agentId _ _ _ | .submitResult agentId _ _ _
  | .abandonTask agentId _ _ | .deferTask agentId _ _ _ _ | .holdTask agentId _ _ _ _ => agentId

def time : CoordinatorEvent → Time
  | .claimNextTask _ _ now | .claimParallelBatch _ _ _ now | .submitResult _ _ _ now
  | .abandonTask _ _ now | .deferTask _ _ _ _ now | .holdTask _ _ _ _ now => now

def reported : CoordinatorEvent → Option TaskId
  | .claimNextTask .. | .claimParallelBatch .. => none
  | .submitResult _ taskId _ _ | .abandonTask _ taskId _ | .deferTask _ taskId _ _ _
  | .holdTask _ taskId _ _ _ => some taskId

def target : CoordinatorEvent → Option Status
  | .submitResult .. => some .completed
  | .deferTask .. => some .deferred
  | .holdTask .. => some .blocked
  | _ => none

end CoordinatorEvent

def SameClaim (old new : Task) : Prop :=
  new.context.claimedBy = old.context.claimedBy ∧ new.context.claimedAt = old.context.claimedAt

structure ReportRow (taskId : TaskId) (target : Status) (old new : Task) : Prop where
  named : old.taskId = taskId → new = old ∨ (new.status = target ∧
    (SameClaim old new ∨ (target = .deferred ∧ new.context.claimedBy = none ∧
      new.context.claimedAt = none)))
  others : old.taskId ≠ taskId → Cascaded old new

theorem ReportRow.unchanged (taskId : TaskId) (target : Status) (task : Task) :
    ReportRow taskId target task task :=
  ⟨fun _ => Or.inl rfl, fun _ => Cascaded.refl task⟩

theorem sameClaim_of_statusFrame {old new : Task}
    (same : SmartLedger.statusFrame new = SmartLedger.statusFrame old) : SameClaim old new := by
  have context := congrArg Task.context same
  exact ⟨(congrArg Context.claimedBy context :), (congrArg Context.claimedAt context :)⟩

inductive ReplaceEnd (taskId : TaskId) (status : Status) (before : SmartLedger) :
    SmartLedger → Prop
  | replaced (task new : Task) (found : before.getTask taskId = some task)
      (allowed : task.validateTransition status = true) (sameId : new.taskId = taskId)
      (row : ReportRow taskId status task new) :
      ReplaceEnd taskId status before (before.commitPut new).2
  | kept : ReplaceEnd taskId status before before

namespace ReplaceEnd
variable {taskId : TaskId} {status : Status} {before after : SmartLedger}

theorem rows (ends : ReplaceEnd taskId status before after) :
    Table.Evolves (ReportRow taskId status) before.tasks after.tasks := by
  cases ends with
  | replaced task new found allowed sameId row =>
    refine before.commitPut_rows task new (ReportRow.unchanged taskId status) ?_ row
    rw [sameId, found]
  | kept => exact Table.Evolves.refl (ReportRow.unchanged taskId status) before.tasks

theorem of_refused (ends : ReplaceEnd taskId status before after)
    (refused : ∀ task, before.getTask taskId = some task →
      task.validateTransition status = false) : after = before := by
  cases ends with
  | replaced task new found allowed =>
    rw [refused task found] at allowed
    cases allowed
  | kept => rfl

end ReplaceEnd

namespace Coordinator
variable {Lock : Type} [TaskLock Lock]

theorem deferTask_ends (c : Coordinator Lock) (taskId : TaskId) (agentId : AgentId)
    (reason : String) (retryAfterS : Int) (now : Time) :
    ReplaceEnd taskId .deferred c.ledger
      (c.deferTask taskId agentId reason retryAfterS now).2.ledger := by
  cases found : c.ledger.getTask taskId with
  | none =>
    simp only [deferTask, found]
    exact .kept
  | some task =>
    have named := c.ledger.getTask_taskId taskId task found
    subst named
    rw [c.deferTask_ledger task agentId reason retryAfterS now found]
    split
    next allowed =>
      apply ReplaceEnd.replaced task (deferredTask reason retryAfterS now task) found allowed rfl
      constructor
      · intro _
        exact Or.inr ⟨rfl, Or.inr ⟨rfl, rfl, rfl⟩⟩
      · intro other
        exact absurd rfl other
    next => exact .kept

theorem holdTask_ends (host : Host) (c : Coordinator Lock) (taskId : TaskId) (agentId : AgentId)
    (reason history : String) (now : Time) :
    ReplaceEnd taskId .blocked c.ledger
      (c.holdTask host taskId agentId reason history now).2.ledger := by
  cases found : c.ledger.getTask taskId with
  | none =>
    simp only [holdTask, found]
    exact .kept
  | some task =>
    have named := c.ledger.getTask_taskId taskId task found
    subst named
    obtain ⟨sameId, blocked, context⟩ := heldTask_keeps reason history now task
    rw [c.holdTask_ledger host task agentId reason history now found]
    split
    next allowed =>
      apply ReplaceEnd.replaced task (heldTask reason history now task) found allowed sameId
      constructor
      · intro _
        exact Or.inr ⟨blocked, Or.inl ⟨by rw [context], by rw [context]⟩⟩
      · intro other
        exact absurd rfl other
    next => exact .kept

end Coordinator

namespace CoordinatorEvent
variable {Lock : Type} [TaskLock Lock]
variable (host : Host) (c : Coordinator Lock) (event : CoordinatorEvent) (taskId : TaskId)
  (status : Status)

/-- Every report changes at most its own task, and others as a completion may. -/
theorem report_rows (reports : event.reported = some taskId) (asks : event.target = some status) :
    Table.Evolves (ReportRow taskId status) c.ledger.tasks
      (event.perform host c).2.ledger.tasks := by
  cases event with
  | claimNextTask => cases reports
  | claimParallelBatch => cases reports
  | abandonTask => cases asks
  | submitResult agentId named result now =>
    cases reports
    cases asks
    simp only [perform, Coordinator.submitResult]
    split
    · refine (c.ledger.updateTaskStatus_rows host taskId _ now rfl).mono fun old new change => ?_
      rcases change with same | set
      · exact same ▸ ReportRow.unchanged taskId .completed old
      · exact ⟨fun here => Or.inr ⟨set.named here, Or.inl (sameClaim_of_statusFrame set.frame)⟩,
          set.others⟩
    · exact Table.Evolves.refl (ReportRow.unchanged taskId .completed) c.ledger.tasks
  | deferTask agentId named reason retryAfterS now =>
    cases reports
    cases asks
    exact (c.deferTask_ends taskId agentId reason retryAfterS now).rows
  | holdTask agentId named reason history now =>
    cases reports
    cases asks
    exact (c.holdTask_ends host taskId agentId reason history now).rows

/-- A report the lifecycle refuses leaves the ledger alone. -/
theorem report_refused (reports : event.reported = some taskId) (asks : event.target = some status)
    (refused : ∀ task, c.ledger.getTask taskId = some task →
      task.validateTransition status = false) : (event.perform host c).2.ledger = c.ledger := by
  cases event with
  | claimNextTask => cases reports
  | claimParallelBatch => cases reports
  | abandonTask => cases asks
  | submitResult agentId named result now =>
    cases reports
    cases asks
    have kept := c.ledger.updateTaskStatus_refused host taskId
      { status := .completed, result := result, reason := some "Task completed successfully" } now
      refused
    simp only [perform, Coordinator.submitResult, kept]
    split <;> rfl
  | deferTask agentId named reason retryAfterS now =>
    cases reports
    cases asks
    exact (c.deferTask_ends taskId agentId reason retryAfterS now).of_refused refused
  | holdTask agentId named reason history now =>
    cases reports
    cases asks
    exact (c.holdTask_ends host taskId agentId reason history now).of_refused refused

theorem claim_ledger (claims : event.reported = none) :
    Coordinator.ClaimedLedger event.agent event.time c.ledger (event.perform host c).1
      (event.perform host c).2.ledger := by
  cases event with
  | claimNextTask agentId capabilities now =>
    exact c.claimNextTask_ledger host agentId capabilities now
  | claimParallelBatch agentId maxTasks capabilities now =>
    exact c.claimParallelBatch_ledger host agentId maxTasks capabilities now
  | submitResult => cases claims
  | abandonTask => cases claims
  | deferTask => cases claims
  | holdTask => cases claims

section

variable (reports : event.reported = some taskId)
include reports

theorem idle_report (idle : event.target = none) : (event.perform host c).2.ledger = c.ledger := by
  cases event with
  | abandonTask => rfl
  | claimNextTask => cases reports
  | claimParallelBatch => cases reports
  | submitResult => cases idle
  | deferTask => cases idle
  | holdTask => cases idle

theorem report_returns_none : (event.perform host c).1 = [] := by
  cases event with
  | claimNextTask => cases reports
  | claimParallelBatch => cases reports
  | _ => rfl

end

end CoordinatorEvent

end Hartos
