import Hartos.SyncRefusals

/-!
What the lifecycle sees of a ledger: the status of the action's task, and what the backend
will answer to the writes ahead. A projection comes down to one step of this view.
-/
namespace Hartos.Lifecycle
open TaskStatus KeyedTable SmartLedger

/-- `status` is `none` where the action has no ledger task. -/
structure LedgerView where
  status : Option Status
  verdict : Nat → Verdict
  writes : Nat

namespace LedgerView

def unledgered : LedgerView := ⟨none, fun _ => .accepted, 0⟩

def allows (fromStatus newStatus : Status) : Bool :=
  (transitionRefusalBetween fromStatus newStatus).isNone

def written (view : LedgerView) (allowed : Bool) (status : Status) : Option LedgerView :=
  if allowed && decide (view.verdict view.writes = .accepted) then
    some { view with status := some status, writes := view.writes + 1 }
  else none

/-- The view after a projection; `none` is a refusal. -/
def project (view : LedgerView) (call : Call) : Option LedgerView :=
  match view.status with
  | none => some view
  | some status =>
      match route status call with
      | .resumes => view.written (allows status .resuming) .inProgress
      | .unblocks =>
          view.written (allows status .pending && allows .pending .inProgress) .inProgress
      | .updates => view.written (allows status (stateMap call.state)) (stateMap call.state)
      | .skips => some view

end LedgerView

def viewOf (ledger : SmartLedger) (taskId : TaskId) : LedgerView :=
  match ledger.getTask taskId with
  | none => .unledgered
  | some task => ⟨some task.status, ledger.backend.verdict, ledger.backend.writes⟩

def Hooks.ledgerView (hooks : Hooks) (userPrompt : UserPrompt) (actionId : Int) : LedgerView :=
  match hooks.ledgerRegistry userPrompt with
  | none => .unledgered
  | some ledger => viewOf ledger (actionTaskId actionId)

def viewed {State : Type} (view : State → LedgerView) (answer : Bool × State) : Option LedgerView :=
  if answer.1 then some (view answer.2) else none

variable (host : Host) (hooks : Hooks) (userPrompt : UserPrompt) (actionId : Int)
  (ledger : SmartLedger) (taskId : TaskId) (task : Task)

theorem viewOf_found (found : ledger.getTask taskId = some task) :
    viewOf ledger taskId =
      ⟨some task.status, ledger.backend.verdict, ledger.backend.writes⟩ := by
  rw [viewOf, found]

theorem move_status (task moved : Task) (newStatus : Status) (reason : String) (now : Time)
    (fields : Task → Task) (goes : task.move newStatus reason now fields = some moved) :
    moved.status = newStatus := by
  rw [Task.move] at goes
  split at goes
  next =>
    cases goes
    rfl
  next => cases goes

theorem resume_isSome (reason : String) (now : Time) :
    (task.resume reason now).isSome = LedgerView.allows task.status .resuming := by
  rw [Task.resume, Option.isSome_map, Task.move, LedgerView.allows, Task.validateTransition,
    Task.transitionRefusal]
  cases transitionRefusalBetween task.status .resuming <;> rfl

theorem resume_status (task resumed : Task) (reason : String) (now : Time)
    (goes : task.resume reason now = some resumed) : resumed.status = .inProgress := by
  rw [Task.resume, Option.map_eq_some_iff] at goes
  obtain ⟨resuming, _, rfl⟩ := goes
  rfl

theorem unblock_isSome (first second : String) (now : Time) :
    ((task.transitionTo .pending first now).bind fun unblocked =>
        unblocked.transitionTo .inProgress second now).isSome =
      (LedgerView.allows task.status .pending && LedgerView.allows .pending .inProgress) := by
  rw [Task.transitionTo, Task.move, Task.validateTransition, Task.transitionRefusal,
    LedgerView.allows]
  cases transitionRefusalBetween task.status .pending <;> rfl

theorem unblock_keeps (task moved : Task) (first second : String) (now : Time)
    (goes : ((task.transitionTo .pending first now).bind fun unblocked =>
      unblocked.transitionTo .inProgress second now) = some moved) :
    moved.taskId = task.taskId ∧ moved.status = .inProgress := by
  rw [Option.bind_eq_some_iff] at goes
  obtain ⟨unblocked, leaves, starts⟩ := goes
  exact ⟨(move_taskId unblocked moved _ _ _ _ rfl starts).trans
      (move_taskId task unblocked _ _ _ _ rfl leaves),
    move_status unblocked moved _ _ _ _ starts⟩

theorem saveResumed_viewed (moved : Option Task) (old : Option Status) (status : Status)
    (goes : ∀ task, moved = some task → task.taskId = taskId ∧ task.status = status) :
    viewed (viewOf · taskId) (saveResumed ledger moved) =
      LedgerView.written ⟨old, ledger.backend.verdict, ledger.backend.writes⟩ moved.isSome
        status := by
  rw [viewed, LedgerView.written]
  cases moved with
  | none => rfl
  | some task =>
    have unblocked : ∃ kept, { task with blockedReason := none } = kept ∧
        kept.taskId = taskId ∧ kept.status = status := ⟨_, rfl, goes task rfl⟩
    obtain ⟨kept, same, named, stands⟩ := unblocked
    rw [saveResumed, same]
    by_cases accepted : ledger.backend.next = .accepted
    · have answered : ledger.backend.verdict ledger.backend.writes = .accepted := accepted
      have row : (ledger.putTask kept).save.2.getTask taskId = some kept :=
        (getTask_putTask ledger kept taskId).trans (if_pos named)
      simp only [save_accepted (ledger.putTask kept) accepted, if_true, viewOf_found _ _ _ row,
        stands, Option.isSome_some, answered, decide_true, Bool.and_self]
      rfl
    · have answered : ledger.backend.verdict ledger.backend.writes ≠ .accepted := accepted
      simp only [save_refused (ledger.putTask kept) accepted, Bool.false_eq_true, if_false,
        answered, decide_false, Bool.and_false]

theorem updateTaskStatus_viewed (update : StatusUpdate) (now : Time)
    (found : ledger.getTask task.taskId = some task) (durable : update.deferSave = false)
    (old : Option Status) :
    viewed (viewOf · task.taskId) (ledger.updateTaskStatus host task.taskId update now) =
      LedgerView.written ⟨old, ledger.backend.verdict, ledger.backend.writes⟩
        (LedgerView.allows task.status update.status) update.status := by
  have refused := updateTaskStatus_refused_iff host ledger task update now found durable
  rw [viewed, LedgerView.written]
  cases valid : LedgerView.allows task.status update.status with
  | false =>
    rw [refused.mpr (Or.inl valid)]
    rfl
  | true =>
    by_cases accepted : ledger.backend.next = .accepted
    · have answered : ledger.backend.verdict ledger.backend.writes = .accepted := accepted
      have staged := stageStatus_staged host ledger task update now found
      obtain ⟨after, there, set⟩ := staged.getTask_some task.taskId task found
      have done := updateTaskStatus_done host ledger task update now found durable valid accepted
      have backend : (ledger.updateTaskStatus host task.taskId update now).2.backend =
          (stageStatus host ledger task update now).1.save.2.backend := by
        rw [done]
        split
        next => exact (emitCompletionEvents_keeps _ _ _ _).2
        next => rfl
      have row : (ledger.updateTaskStatus host task.taskId update now).2.getTask task.taskId =
          some after := by
        rw [getTask, (updateTaskStatus_accepted host ledger task update now found durable valid
          accepted).2]
        exact there
      rw [viewOf_found _ _ _ row, backend, set.set.named rfl, done]
      simp only [if_true, answered, decide_true, Bool.and_self, save, Backend.save,
        staged.backend]
    · have answered : ledger.backend.verdict ledger.backend.writes ≠ .accepted := accepted
      rw [refused.mpr (Or.inr accepted)]
      simp only [Bool.false_eq_true, if_false, answered, decide_false, Bool.and_false]

theorem moveLedgerTask_viewed (call : Call) (found : ledger.getTask task.taskId = some task) :
    viewed (viewOf · task.taskId) (moveLedgerTask host ledger task call) =
      (viewOf ledger task.taskId).project call := by
  rw [viewOf_found ledger task.taskId task found, moveLedgerTask_route]
  dsimp only [LedgerView.project]
  cases route task.status call with
  | resumes =>
    rw [saveResumed_viewed ledger task.taskId _ (some task.status) .inProgress,
      resume_isSome task]
    intro moved goes
    exact ⟨(resume_keeps task moved _ _ goes).1, resume_status task moved _ _ goes⟩
  | unblocks =>
    rw [saveResumed_viewed ledger task.taskId _ (some task.status) .inProgress,
      unblock_isSome task]
    intro moved goes
    exact unblock_keeps task moved _ _ _ goes
  | updates =>
    exact updateTaskStatus_viewed host ledger task _ call.now found rfl (some task.status)
  | skips =>
    dsimp only [viewed]
    rw [if_pos rfl, viewOf_found ledger task.taskId task found]

theorem viewOf_modifyTask (change : Task → Task)
    (keeps : ∀ task, (change task).taskId = task.taskId ∧ (change task).status = task.status) :
    viewOf (ledger.modifyTask taskId change) taskId = viewOf ledger taskId := by
  have step := @reworked_modifyTask (fun _ _ => True) (fun _ => trivial) ledger taskId change
    (fun other named => (keeps other).1.trans named) (fun _ _ => trivial)
  have row := getTask_modifyTask ledger taskId change
    (fun other named => (keeps other).1.trans named) taskId
  rw [if_pos rfl] at row
  rw [viewOf, viewOf, row, step.backend]
  cases ledger.getTask taskId with
  | none => rfl
  | some task =>
    dsimp only [Option.map_some]
    rw [(keeps task).2]

theorem ledgerView_putLedger :
    (hooks.putLedger userPrompt ledger).ledgerView userPrompt actionId =
      viewOf ledger (actionTaskId actionId) := by
  simp only [Hooks.ledgerView, Hooks.putLedger, Function.update_self]

theorem ledgerView_status (hooks : Hooks) :
    (hooks.ledgerView userPrompt actionId).status = hooks.ledgerStatus userPrompt actionId := by
  rw [Hooks.ledgerView, Hooks.ledgerStatus, Hooks.ledgerTask]
  cases hooks.ledgerRegistry userPrompt with
  | none => rfl
  | some ledger =>
    rw [Option.bind_some]
    dsimp only
    rw [viewOf]
    cases ledger.getTask (actionTaskId actionId) <;> rfl

/-- What follows a move changes reasons and clocks, and is not seen. -/
theorem settleSync_ledgerView (tracking : Tracking) (call : Call) :
    (hooks.settleSync userPrompt (actionTaskId actionId) ledger tracking call).ledgerView userPrompt
        actionId = viewOf ledger (actionTaskId actionId) := by
  rw [Hooks.settleSync]
  have seen := ledgerView_putLedger hooks userPrompt actionId
  simp only [Hooks.ledgerView, Hooks.putTracking] at seen ⊢
  rw [seen]
  apply viewOf_modifyTask
  intro task
  have kept := recordReason_keeps call.state call.now task
  split <;> exact kept

theorem autoSyncToLedger_viewed (call : Call) :
    viewed (·.ledgerView userPrompt actionId)
        (hooks.autoSyncToLedger host userPrompt actionId call) =
      (hooks.ledgerView userPrompt actionId).project call := by
  cases held : hooks.ledgerRegistry userPrompt with
  | none => simp only [viewed, Hooks.autoSyncToLedger, held, if_true, Hooks.ledgerView]; rfl
  | some ledger =>
    cases found : ledger.getTask (actionTaskId actionId) with
    | none =>
      simp only [viewed, Hooks.autoSyncToLedger, held, found, if_true, Hooks.ledgerView, viewOf]
      rfl
    | some task =>
      have named := ledger.getTask_taskId _ task found
      simp only [viewed, Hooks.autoSyncToLedger, held, found]
      generalize claimsOwnership _ _ = claims
      have keeps := claimTask_keeps claims call.now task
      have row : (ledger.putTask (claimTask claims call.now task)).getTask
          (actionTaskId actionId) = some (claimTask claims call.now task) :=
        (getTask_putTask ledger _ _).trans (if_pos (keeps.1.trans named))
      have moved := moveLedgerTask_viewed host (ledger.putTask (claimTask claims call.now task))
        (claimTask claims call.now task) call
      rw [keeps.1, named] at moved
      have before : viewOf (ledger.putTask (claimTask claims call.now task))
          (actionTaskId actionId) = hooks.ledgerView userPrompt actionId := by
        simp only [Hooks.ledgerView, held, viewOf, row, found, keeps.2]
        rfl
      rw [before] at moved
      rw [← moved row, viewed]
      split
      next goes =>
        exact congrArg some (settleSync_ledgerView _ userPrompt actionId _ _ call)
      next stops => rw [if_neg Bool.false_ne_true]

end Hartos.Lifecycle
