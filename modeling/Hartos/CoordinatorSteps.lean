import Hartos.TaskCoordinator

/-!
What each step of the coordinator does to the ledger. Every ledger change of a
claim is one task replaced, in memory or in memory and on disk, so the steps
below are described by the task that takes the old one's place.
-/
namespace Hartos
open TaskStatus KeyedTable

namespace SmartLedger
variable (update : StatusUpdate) (now : Time) (before current : SmartLedger) (ledger : SmartLedger)
  (task : Task) (snapshots : Snapshots) (old new : Task)

theorem modifyTask_putTask (change : Task → Task) (sameId : (change task).taskId = task.taskId) :
    (ledger.putTask task).modifyTask task.taskId change = ledger.putTask (change task) := by
  have row : (ledger.putTask task).getTask task.taskId = some task := by simp [getTask_putTask]
  unfold modifyTask
  rw [row]
  simp only [putTask]
  rw [Table.set_set ledger.tasks task (change task) sameId.symm]

theorem putTask_putTask (first last : Task) (sameId : first.taskId = last.taskId) :
    (ledger.putTask first).putTask last = ledger.putTask last := by
  simp only [putTask, Table.set_set ledger.tasks first last sameId]

def updatedTask (update : StatusUpdate) (now : Time) (task : Task) : Task :=
  finishFields update now
    (task.recordStateTransition update.status update.transitionReason now)

theorem updatedTask_keeps :
    (updatedTask update now task).taskId = task.taskId ∧
      (updatedTask update now task).status = update.status ∧
      (updatedTask update now task).context = task.context := by
  unfold updatedTask finishFields
  split <;> split <;> exact ⟨rfl, rfl, rfl⟩

theorem updatedTask_frame : statusFrame (updatedTask update now task) = statusFrame task :=
  (finishFields_keeps update now _).1

theorem updateTaskStatus_deferred (host : Host) (ledger : SmartLedger) (task : Task)
    (update : StatusUpdate) (now : Time) (found : ledger.getTask task.taskId = some task)
    (deferred : update.deferSave = true) (unfinished : update.status ≠ .completed) :
    ledger.updateTaskStatus host task.taskId update now =
      if task.validateTransition update.status then
        (true, ledger.putTask (updatedTask update now task))
      else (false, ledger) := by
  have sameId := (updatedTask_keeps update now task).1
  unfold updateTaskStatus stageStatus
  simp only [found, deferred, unfinished, and_false, ↓reduceIte]
  split
  · have staged := modifyTask_putTask ledger
      (task.recordStateTransition update.status update.transitionReason now)
      (finishFields update now) sameId
    simp only [Prod.mk.injEq, true_and]
    exact staged
  · rfl

def commitPut (ledger : SmartLedger) (task : Task) : Bool × SmartLedger :=
  if ledger.backend.next = .accepted then (true, (ledger.putTask task).save.2)
  else (false, { ledger with backend := (ledger.putTask task).save.2.backend })

theorem commitPut_accepted (accepted : ledger.backend.next = .accepted) :
    ledger.commitPut task = (true, (ledger.putTask task).save.2) := if_pos accepted

theorem commitPut_refused (refused : ledger.backend.next ≠ .accepted) :
    ledger.commitPut task =
      (false, { ledger with backend := (ledger.putTask task).save.2.backend }) := if_neg refused

theorem putTask_undo (found : ledger.getTask old.taskId = some old)
    (sameId : new.taskId = old.taskId) : (ledger.putTask new).putTask old = ledger := by
  simp only [putTask, Table.set_undo ledger.tasks old new sameId found]

theorem discardAddedTasks_nil : ledger.discardAddedTasks [] = ledger := by
  simp [discardAddedTasks]

theorem commitDeferred_accepted (accepted : ledger.backend.next = .accepted) :
    ledger.commitDeferred snapshots [] = (true, ledger.save.2) := by
  simp only [commitDeferred, save_accepted ledger accepted, ↓reduceIte]

theorem commitDeferred_refused (refused : ledger.backend.next ≠ .accepted) :
    ledger.commitDeferred snapshots [] = (false, ledger.save.2.restoreSnapshots snapshots) := by
  simp only [commitDeferred, save_refused ledger refused, Bool.false_eq_true, ↓reduceIte,
    discardAddedTasks_nil]

theorem restoreSnapshots_eq (copies : ∀ copy ∈ snapshots, before.getTask copy.taskId = some copy) :
    current.restoreSnapshots snapshots =
      restoreTasks before (snapshots.map Task.taskId) current := by
  unfold restoreSnapshots restoreTasks
  induction snapshots generalizing current with
  | nil => rfl
  | cons copy rest ih =>
    have here := copies copy List.mem_cons_self
    simp only [List.foldl_cons, List.map_cons, here]
    exact ih _ fun other member => copies other (List.mem_cons_of_mem copy member)

theorem restoreSnapshots_undoes
    (copies : ∀ copy ∈ snapshots, before.getTask copy.taskId = some copy)
    (change : Reworked (fun old new => old.taskId ∉ snapshots.map Task.taskId → new = old)
      before current) : current.restoreSnapshots snapshots = before := by
  rw [restoreSnapshots_eq before current snapshots copies]
  exact restoreTasks_undoes before current _ change

theorem commitDeferred_putTask (found : ledger.getTask old.taskId = some old)
    (sameId : new.taskId = old.taskId) :
    (ledger.putTask new).commitDeferred [old] [] = ledger.commitPut new := by
  by_cases accepted : ledger.backend.next = .accepted
  · rw [commitDeferred_accepted (ledger.putTask new) [old] accepted,
      commitPut_accepted ledger new accepted]
  · have undone : ((ledger.putTask new).save.2).restoreSnapshots [old] =
        { ledger with backend := (ledger.putTask new).save.2.backend } := by
      have row : (ledger.tasks.set new).get? old.taskId = some new := by
        rw [Table.get?_set, if_pos sameId]
      have back := congrArg SmartLedger.tasks (ledger.putTask_undo old new found sameId)
      simp only [putTask] at back
      simp only [restoreSnapshots, List.foldl_cons, List.foldl_nil, modifyTask, getTask, save,
        putTask, row, back]
    rw [commitDeferred_refused (ledger.putTask new) [old] accepted,
      commitPut_refused ledger new accepted, undone]

theorem moveTaskOrUndo_commitPut (mover : Task → Option Task)
    (found : ledger.getTask old.taskId = some old) (moved : mover old = some new)
    (sameId : new.taskId = old.taskId) :
    ledger.moveTaskOrUndo old.taskId mover = ledger.commitPut new := by
  simp only [moveTaskOrUndo, found, moved]
  by_cases accepted : ledger.backend.next = .accepted
  · rw [if_pos (save_accepted (ledger.putTask new) accepted),
      commitPut_accepted ledger new accepted]
  · have failed := save_refused (ledger.putTask new) accepted
    have back := congrArg SmartLedger.tasks (ledger.putTask_undo old new found sameId)
    simp only [putTask] at back
    simp only [failed, Bool.false_eq_true, ↓reduceIte, commitPut_refused ledger new accepted]
    simp only [save, putTask, back]

/-- The rows of a ledger after `commitPut`: the new task if it was saved. -/
theorem commitPut_rows {related : Task → Task → Prop} (ledger : SmartLedger) (old new : Task)
    (self : ∀ task, related task task) (found : ledger.getTask new.taskId = some old)
    (change : related old new) :
    Table.Evolves related ledger.tasks (ledger.commitPut new).2.tasks := by
  unfold commitPut
  split
  · exact Table.evolves_set ledger.tasks old new (fun task _ => self task) found change
  · exact Table.Evolves.refl self ledger.tasks

end SmartLedger

def claimFrame (task : Task) : Task :=
  { task with
    status := .pending
    stateHistory := []
    updatedAt := 0
    startedAt := none
    blockedReason := none
    errorMessage := none
    context := { task.context with claimedBy := none, claimedAt := none } }

def claimedTask (agentId : AgentId) (now : Time) (task : Task) : Task :=
  stampClaim agentId now
    (SmartLedger.updatedTask { status := .inProgress, deferSave := true } now task)

def expireClaim : SmartLedger.StatusUpdate where
  status := .blocked
  errorMessage := some "worker claim expired"
  reason := some "orphan recovery: worker claim expired"
  deferSave := true

def makeAvailable : SmartLedger.StatusUpdate where
  status := .pending
  reason := some "orphan recovery: task available for a new worker"
  deferSave := true

def expiredTask (now : Time) (task : Task) : Task :=
  (SmartLedger.updatedTask expireClaim now task).setBlockedReason
    (some BlockedReason.resourceUnavailable.value) now

def recoveredTask (now : Time) (task : Task) : Task :=
  clearClaim
    { (SmartLedger.updatedTask makeAvailable now (expiredTask now task)).setBlockedReason none now with
      errorMessage := none }

def undeferredTask (now : Time) (task : Task) : Task :=
  task.recordStateTransition .pending "temporary worker deferral elapsed" now

def Orphaned {Lock : Type} [TaskLock Lock] (host : Host) (lock : Lock) (now : Time)
    (task : Task) : Prop :=
  ∃ age, claimAge task now = some age ∧ age > host.orphanAfter ∧
    isTaskLocked lock task.taskId now = false

inductive Prepared {Lock : Type} [TaskLock Lock] (host : Host) (lock : Lock) (now : Time)
    (task : Task) : Task → Prop where
  | undeferred (deferred : task.status = .deferred) (due : deferIsDue task now = true) :
      Prepared host lock now task (undeferredTask now task)
  | recovered (running : task.status = .inProgress) (orphan : Orphaned host lock now task) :
      Prepared host lock now task (recoveredTask now task)

theorem updatedTask_frame (update : SmartLedger.StatusUpdate) (now : Time) (task : Task) :
    claimFrame (SmartLedger.updatedTask update now task) = claimFrame task := by
  unfold SmartLedger.updatedTask SmartLedger.finishFields
  split <;> split <;> rfl

theorem claimedTask_frame (agentId : AgentId) (now : Time) (task : Task) :
    claimFrame (claimedTask agentId now task) = claimFrame task :=
  updatedTask_frame { status := .inProgress, deferSave := true } now task

variable (now : Time) (task : Task)

theorem recoveredTask_frame : claimFrame (recoveredTask now task) = claimFrame task :=
  calc claimFrame (recoveredTask now task)
      = claimFrame (SmartLedger.updatedTask makeAvailable now (expiredTask now task)) := rfl
    _ = claimFrame (expiredTask now task) := updatedTask_frame _ now _
    _ = claimFrame (SmartLedger.updatedTask expireClaim now task) := rfl
    _ = claimFrame task := updatedTask_frame _ now task

theorem undeferredTask_frame : claimFrame (undeferredTask now task) = claimFrame task := rfl

theorem claimFrame_taskId {old new : Task} (same : claimFrame new = claimFrame old) :
    new.taskId = old.taskId := (congrArg Task.taskId same :)

theorem recoveredTask_pending : (recoveredTask now task).status = .pending := by
  exact (SmartLedger.updatedTask_keeps makeAvailable now (expiredTask now task)).2.1

theorem Prepared.frame {Lock : Type} [TaskLock Lock] {host : Host} {lock : Lock} {now : Time}
    {task new : Task} (prepared : Prepared host lock now task new) :
    claimFrame new = claimFrame task := by
  cases prepared with
  | undeferred => exact undeferredTask_frame now task
  | recovered => exact recoveredTask_frame now task

theorem Prepared.pending {Lock : Type} [TaskLock Lock] {host : Host} {lock : Lock} {now : Time}
    {task new : Task} (prepared : Prepared host lock now task new) : new.status = .pending := by
  cases prepared with
  | undeferred => rfl
  | recovered => exact recoveredTask_pending now task

namespace Coordinator
variable {Lock : Type} [TaskLock Lock]
variable (host : Host) (c : Coordinator Lock) (task : Task) (agentId : AgentId) (now : Time)

theorem stageTaskClaim_pending (found : c.ledger.getTask task.taskId = some task)
    (pending : task.status = .pending) :
    c.stageTaskClaim host task agentId now =
      if (tryClaimTask c.lock task.taskId agentId now).1 then
        (.staged, ⟨c.ledger.putTask (claimedTask agentId now task),
          (tryClaimTask c.lock task.taskId agentId now).2⟩)
      else (.busy, { c with lock := (tryClaimTask c.lock task.taskId agentId now).2 }) := by
  have allowed : task.validateTransition .inProgress = true := by
    simp only [Task.validateTransition, Task.transitionRefusal, pending]
    decide
  have update := c.ledger.updateTaskStatus_deferred host task
    { status := .inProgress, deferSave := true } now found rfl (by decide)
  rw [if_pos allowed] at update
  have keeps := SmartLedger.updatedTask_keeps { status := .inProgress, deferSave := true } now task
  have stamped := c.ledger.modifyTask_putTask
    (SmartLedger.updatedTask { status := .inProgress, deferSave := true } now task)
    (stampClaim agentId now) rfl
  rw [keeps.1] at stamped
  unfold stageTaskClaim
  simp only [update, ↓reduceIte, stamped]
  rfl

theorem recoverOrphan_orphan (now age : Time) (found : c.ledger.getTask task.taskId = some task)
    (running : task.status = .inProgress) (aged : claimAge task now = some age)
    (old : age > host.orphanAfter) (unlocked : isTaskLocked c.lock task.taskId now = false) :
    c.recoverOrphan host task now =
      ((c.ledger.commitPut (recoveredTask now task)).1,
        { c with ledger := (c.ledger.commitPut (recoveredTask now task)).2 }) := by
  have sameId := (SmartLedger.updatedTask_keeps expireClaim now task).1
  -- IN_PROGRESS may not go straight back to PENDING: the recovery passes BLOCKED.
  have expire : c.ledger.updateTaskStatus host task.taskId expireClaim now =
      (true, c.ledger.putTask (SmartLedger.updatedTask expireClaim now task)) := by
    rw [c.ledger.updateTaskStatus_deferred host task expireClaim now found rfl (by decide), if_pos]
    simp only [Task.validateTransition, Task.transitionRefusal, running]
    decide
  have mark := c.ledger.modifyTask_putTask (SmartLedger.updatedTask expireClaim now task)
    (·.setBlockedReason (some BlockedReason.resourceUnavailable.value) now) rfl
  rw [sameId] at mark
  have expiredId : (expiredTask now task).taskId = task.taskId := sameId
  have row : (c.ledger.putTask (expiredTask now task)).getTask (expiredTask now task).taskId =
      some (expiredTask now task) := by simp [SmartLedger.getTask_putTask]
  have pendingId := (SmartLedger.updatedTask_keeps makeAvailable now (expiredTask now task)).1
  have release : (c.ledger.putTask (expiredTask now task)).updateTaskStatus host task.taskId
      makeAvailable now =
        (true, c.ledger.putTask
          (SmartLedger.updatedTask makeAvailable now (expiredTask now task))) := by
    have update := (c.ledger.putTask (expiredTask now task)).updateTaskStatus_deferred host
      (expiredTask now task) makeAvailable now row rfl (by decide)
    rw [expiredId] at update
    rw [update, if_pos, SmartLedger.putTask_putTask _ _ _ pendingId.symm]
    have blocked : (expiredTask now task).status = .blocked :=
      (SmartLedger.updatedTask_keeps expireClaim now task).2.1
    simp only [Task.validateTransition, Task.transitionRefusal, blocked]
    decide
  have clear := c.ledger.modifyTask_putTask
    (SmartLedger.updatedTask makeAvailable now (expiredTask now task))
    (fun t => clearClaim { t.setBlockedReason none now with errorMessage := none }) rfl
  rw [pendingId, expiredId] at clear
  have commit := c.ledger.commitDeferred_putTask task (recoveredTask now task) found
    (claimFrame_taskId (recoveredTask_frame now task))
  simp only [expireClaim] at expire mark
  simp only [expiredTask, expireClaim, makeAvailable] at release clear
  unfold recoverOrphan
  simp only [aged, old, unlocked, and_self, ↓reduceIte, expire, mark, release, clear]
  rw [← commit]
  rfl

theorem recoverOrphan_running (found : c.ledger.getTask task.taskId = some task)
    (running : task.status = .inProgress) :
    c.recoverOrphan host task now = (false, c) ∨
      (Orphaned host c.lock now task ∧
        c.recoverOrphan host task now =
          ((c.ledger.commitPut (recoveredTask now task)).1,
            { c with ledger := (c.ledger.commitPut (recoveredTask now task)).2 })) := by
  cases aged : claimAge task now with
  | none =>
    left
    simp only [recoverOrphan, aged]
  | some age =>
    by_cases orphan : age > host.orphanAfter ∧ isTaskLocked c.lock task.taskId now = false
    · exact Or.inr ⟨⟨age, aged, orphan.1, orphan.2⟩,
        c.recoverOrphan_orphan host task now age found running aged orphan.1 orphan.2⟩
    · left
      simp only [recoverOrphan, aged, orphan, ↓reduceIte]

/-- A pass of the claim loop before the claim: the task is left alone, or one of
the two ways back to PENDING is saved. -/
theorem prepareTask_cases (found : c.ledger.getTask task.taskId = some task) :
    c.prepareTask host task.taskId now = (decide (task.status = .pending), c) ∨
      c.prepareTask host task.taskId now = (false, c) ∨
      ∃ new, Prepared host c.lock now task new ∧
        c.prepareTask host task.taskId now =
          ((c.ledger.commitPut new).1, { c with ledger := (c.ledger.commitPut new).2 }) := by
  unfold prepareTask
  simp only [found]
  by_cases deferred : task.status = .deferred
  · by_cases due : deferIsDue task now = true
    · refine Or.inr (Or.inr ⟨undeferredTask now task, .undeferred deferred due, ?_⟩)
      have moved : task.undefer "temporary worker deferral elapsed" now =
          some (undeferredTask now task) := by
        simp [Task.undefer, Task.moveFrom, deferred, undeferredTask]
      have undefer := c.ledger.moveTaskOrUndo_commitPut task (undeferredTask now task)
        (·.undefer "temporary worker deferral elapsed" now) found moved rfl
      simp only [deferred, due, ↓reduceIte, SmartLedger.undeferTask, undefer]
    · simp [deferred, due]
  · by_cases running : task.status = .inProgress ∧
        SmartLedger.nonEmpty task.parentTaskId = true ∧ task.childTaskIds = []
    · rw [if_neg deferred, if_pos running]
      rcases c.recoverOrphan_running host task now found running.1 with kept | ⟨orphan, recovered⟩
      · exact Or.inr (Or.inl kept)
      · exact Or.inr (Or.inr ⟨_, .recovered running.1 orphan, recovered⟩)
    · simp [deferred, running]

theorem attemptClaim_pending (capabilities : Option (List String)) (now : Time)
    (found : c.ledger.getTask task.taskId = some task) (pending : task.status = .pending) :
    c.attemptClaim host task.taskId agentId capabilities now =
      if capable capabilities task then
        if (tryClaimTask c.lock task.taskId agentId now).1 then
          if (c.ledger.commitPut (claimedTask agentId now task)).1 then
            (.claimed, ⟨(c.ledger.commitPut (claimedTask agentId now task)).2,
              (tryClaimTask c.lock task.taskId agentId now).2⟩)
          else
            (.unsaved, ⟨(c.ledger.commitPut (claimedTask agentId now task)).2,
              (releaseTask (tryClaimTask c.lock task.taskId agentId now).2 task.taskId agentId
                now).2⟩)
        else (.passed, { c with lock := (tryClaimTask c.lock task.taskId agentId now).2 })
      else (.passed, c) := by
  have stage := c.stageTaskClaim_pending host task agentId now found pending
  have commit := c.ledger.commitDeferred_putTask task (claimedTask agentId now task) found
    (claimFrame_taskId (claimedTask_frame agentId now task))
  unfold attemptClaim
  simp only [found, stage]
  by_cases locked : (tryClaimTask c.lock task.taskId agentId now).1 = true
  · simp only [locked, ↓reduceIte, commit]
  · simp only [locked, Bool.false_eq_true, ↓reduceIte]

/-- The rule for the claim loop. `inv` holds between passes; `done` is what the
call's answer and final state satisfy. -/
structure ClaimRule (host : Host) (agentId : AgentId) (now : Time)
    (inv : Coordinator Lock → Prop) (done : Option TaskId → Coordinator Lock → Prop) : Prop where
  prepares : ∀ (c : Coordinator Lock) (task new : Task), inv c →
    c.ledger.getTask task.taskId = some task → Prepared host c.lock now task new →
    inv { c with ledger := (c.ledger.commitPut new).2 }
  busy : ∀ (c : Coordinator Lock) (taskId : TaskId), inv c →
    (tryClaimTask c.lock taskId agentId now).1 = false →
    inv { c with lock := (tryClaimTask c.lock taskId agentId now).2 }
  claims : ∀ (c : Coordinator Lock) (task : Task), inv c →
    c.ledger.getTask task.taskId = some task → task.status = .pending →
    (tryClaimTask c.lock task.taskId agentId now).1 = true →
    c.ledger.backend.next = .accepted →
    done (some task.taskId)
      ⟨(c.ledger.putTask (claimedTask agentId now task)).save.2,
        (tryClaimTask c.lock task.taskId agentId now).2⟩
  stops : ∀ (c : Coordinator Lock) (task : Task), inv c →
    c.ledger.getTask task.taskId = some task → task.status = .pending →
    (tryClaimTask c.lock task.taskId agentId now).1 = true →
    c.ledger.backend.next ≠ .accepted →
    done none
      ⟨(c.ledger.commitPut (claimedTask agentId now task)).2,
        (releaseTask (tryClaimTask c.lock task.taskId agentId now).2 task.taskId agentId now).2⟩
  ends : ∀ c : Coordinator Lock, inv c → done none c

section Rule
variable {host : Host} {agentId : AgentId} {now : Time} {inv : Coordinator Lock → Prop}
  {done : Option TaskId → Coordinator Lock → Prop}

section

variable (rule : ClaimRule host agentId now inv done) (capabilities : Option (List String))
include rule

theorem ClaimRule.attempt (c : Coordinator Lock) (task : Task) (holds : inv c)
    (found : c.ledger.getTask task.taskId = some task) (pending : task.status = .pending) :
    ∀ outcome, c.attemptClaim host task.taskId agentId capabilities now = outcome →
    (outcome.1 = .passed → inv outcome.2) ∧
      (outcome.1 = .claimed → done (some task.taskId) outcome.2) ∧
      (outcome.1 = .unsaved → done none outcome.2) := by
  rintro outcome rfl
  rw [c.attemptClaim_pending host task agentId capabilities now found pending]
  by_cases meets : capable capabilities task = true
  · by_cases locked : (tryClaimTask c.lock task.taskId agentId now).1 = true
    · by_cases accepted : c.ledger.backend.next = .accepted
      · have claimed := rule.claims c task holds found pending locked accepted
        simp only [meets, locked, c.ledger.commitPut_accepted _ accepted, ↓reduceIte, reduceCtorEq,
          false_implies, true_implies, true_and, and_true]
        exact claimed
      · have stopped := rule.stops c task holds found pending locked accepted
        simp only [meets, locked, ↓reduceIte]
        simp only [c.ledger.commitPut_refused _ accepted, Bool.false_eq_true, ↓reduceIte,
          reduceCtorEq, false_implies, true_implies, true_and] at stopped ⊢
        exact stopped
    · simpa [meets, locked] using rule.busy c task.taskId holds (by simpa using locked)
  · simpa [meets] using holds

theorem ClaimRule.consider (c : Coordinator Lock) (taskId : TaskId) (holds : inv c) :
    ∀ outcome, c.considerTask host taskId agentId capabilities now = outcome →
    (outcome.1 = .passed → inv outcome.2) ∧
      (outcome.1 = .claimed → done (some taskId) outcome.2) ∧
      (outcome.1 = .unsaved → done none outcome.2) := by
  rintro outcome rfl
  unfold considerTask
  cases found : c.ledger.getTask taskId with
  | none => simpa [prepareTask, found] using holds
  | some task =>
    have named := c.ledger.getTask_taskId taskId task found
    subst named
    rcases c.prepareTask_cases host task now found with kept | skipped | ⟨new, ready, saved⟩
    · by_cases pending : task.status = .pending
      · simpa [kept, pending] using
          rule.attempt capabilities c task holds found pending _ rfl
      · simpa [kept, pending] using holds
    · simpa [skipped] using holds
    · have next := rule.prepares c task new holds found ready
      by_cases accepted : c.ledger.backend.next = .accepted
      -- The saved task is PENDING now, so the second half runs on it.
      · have sameId := claimFrame_taskId ready.frame
        have row : (c.ledger.commitPut new).2.getTask new.taskId = some new := by
          rw [c.ledger.commitPut_accepted new accepted]
          exact c.ledger.tasks.get?_set_self new
        have attempt := rule.attempt capabilities _ new next row ready.pending _ rfl
        have ok := congrArg Prod.fst (c.ledger.commitPut_accepted new accepted)
        rw [sameId] at attempt
        simpa only [saved, ok, ↓reduceIte] using attempt
      · have failed := congrArg Prod.fst (c.ledger.commitPut_refused new accepted)
        simpa [saved, failed] using next

theorem ClaimRule.run (taskIds : List TaskId) (c : Coordinator Lock) (holds : inv c) :
    done (claimFrom host agentId capabilities now taskIds c).1
      (claimFrom host agentId capabilities now taskIds c).2 := by
  induction taskIds generalizing c with
  | nil => exact rule.ends c holds
  | cons taskId rest ih =>
    unfold claimFrom
    rcases outcome : c.considerTask host taskId agentId capabilities now with ⟨attempt, next⟩
    have consider := rule.consider capabilities c taskId holds _ outcome
    cases attempt with
    | passed => exact ih next (consider.1 rfl)
    | claimed => exact consider.2.1 rfl
    | unsaved => exact consider.2.2 rfl

theorem ClaimRule.claimNextTask (c : Coordinator Lock) (holds : inv c) :
    done (c.claimNextTask host agentId capabilities now).1
      (c.claimNextTask host agentId capabilities now).2 :=
  rule.run capabilities c.ledger.taskOrder c holds

end

end Rule

end Coordinator

end Hartos
