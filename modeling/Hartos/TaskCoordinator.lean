import Hartos.LedgerOperations
import Hartos.TaskLock

/-!
`DistributedTaskCoordinator`: one ledger and one lock, and the operations that
have to keep them in step. A call takes one clock reading. Notifications and
verification requests sent after a result is in are left out.
-/
namespace Hartos
open TaskStatus KeyedTable

/-- What `_commit_deferred` answers with a batch of copies to fall back on. -/
abbrev Snapshots := List Task

namespace SmartLedger
variable (ledger : SmartLedger)

def restoreSnapshots (snapshots : Snapshots) : SmartLedger :=
  snapshots.foldl (fun current copy => current.modifyTask copy.taskId fun _ => copy) ledger

def discardAddedTasks (taskIds : List TaskId) : SmartLedger :=
  { ledger with
    tasks := taskIds.foldl Table.erase ledger.tasks
    taskOrder := ledger.taskOrder.filter (· ∉ taskIds) }

def commitDeferred (snapshots : Snapshots) (addedTaskIds : List TaskId) : Bool × SmartLedger :=
  let saved := ledger.save
  if saved.1 then (true, saved.2)
  else (false, (saved.2.restoreSnapshots snapshots).discardAddedTasks addedTaskIds)

end SmartLedger

def claimAge (task : Task) (now : Time) : Option Time :=
  match task.context.claimedAt with
  | some (.at claimed) => some (now - claimed)
  | _ => none

def deferIsDue (task : Task) (now : Time) : Bool :=
  match task.deferredUntil with
  | some (.at till) => now ≥ till
  | _ => true

def capable (capabilities : Option (List String)) (task : Task) : Bool :=
  match capabilities with
  | none | some [] => true
  | some offered => match task.context.capabilitiesRequired with
    | none | some [] => true
    | some required => required.any (· ∈ offered)

def stampClaim (agentId : AgentId) (now : Time) (task : Task) : Task :=
  { task with
    context := { task.context with claimedBy := some agentId, claimedAt := some (.at now) } }

def clearClaim (task : Task) : Task :=
  { task with context := { task.context with claimedBy := none, claimedAt := none } }

structure Coordinator (Lock : Type) where
  ledger : SmartLedger
  lock : Lock

namespace Coordinator
variable {Lock : Type} [TaskLock Lock]

inductive ClaimStage where
  | busy
  | staged
  -- `_ClaimStageError`, with the claim undone.
  | refused
  deriving DecidableEq

variable (host : Host) (c : Coordinator Lock) (taskId : TaskId)

def stageTaskClaim (task : Task) (agentId : AgentId) (now : Time) : ClaimStage × Coordinator Lock :=
  let locked := tryClaimTask c.lock task.taskId agentId now
  if locked.1 then
    let update := c.ledger.updateTaskStatus host task.taskId
      { status := .inProgress, deferSave := true } now
    if update.1 then
      (.staged, ⟨update.2.modifyTask task.taskId (stampClaim agentId now), locked.2⟩)
    else
      (.refused, ⟨update.2.restoreSnapshots [task],
        (releaseTask locked.2 task.taskId agentId now).2⟩)
  else (.busy, { c with lock := locked.2 })

def recoverOrphan (task : Task) (now : Time) : Bool × Coordinator Lock :=
  match claimAge task now with
  | none => (false, c)
  | some age =>
      if age > host.orphanAfter ∧ isTaskLocked c.lock task.taskId now = false then
        let blocked := c.ledger.updateTaskStatus host task.taskId
          { status := .blocked, errorMessage := some "worker claim expired",
            reason := some "orphan recovery: worker claim expired", deferSave := true } now
        if blocked.1 then
          let marked := blocked.2.modifyTask task.taskId
            (·.setBlockedReason (some BlockedReason.resourceUnavailable.value) now)
          let pending := marked.updateTaskStatus host task.taskId
            { status := .pending,
              reason := some "orphan recovery: task available for a new worker",
              deferSave := true } now
          if pending.1 then
            let cleared := pending.2.modifyTask task.taskId fun t =>
              clearClaim { t.setBlockedReason none now with errorMessage := none }
            let committed := cleared.commitDeferred [task] []
            (committed.1, { c with ledger := committed.2 })
          -- Either refused transition puts the copy back; nothing was saved.
          else (false, { c with ledger := pending.2.restoreSnapshots [task] })
        else (false, { c with ledger := blocked.2.restoreSnapshots [task] })
      else (false, c)

def prepareTask (now : Time) : Bool × Coordinator Lock :=
  match c.ledger.getTask taskId with
  | none => (false, c)
  | some task =>
      if task.status = .deferred then
        if deferIsDue task now then
          let undeferred := c.ledger.undeferTask taskId "temporary worker deferral elapsed" now
          (undeferred.1, { c with ledger := undeferred.2 })
        else (false, c)
      -- A goal's root is IN_PROGRESS without a lock for as long as its children run.
      else if task.status = .inProgress ∧ SmartLedger.nonEmpty task.parentTaskId ∧ task.childTaskIds = [] then
        c.recoverOrphan host task now
      else (decide (task.status = .pending), c)

inductive ClaimAttempt where
  | passed
  | claimed
  -- The lock is given back and the call returns None.
  | unsaved
  deriving DecidableEq

def attemptClaim (agentId : AgentId) (capabilities : Option (List String)) (now : Time) :
    ClaimAttempt × Coordinator Lock :=
  match c.ledger.getTask taskId with
  | none => (.passed, c)
  | some task =>
      if capable capabilities task then
        match c.stageTaskClaim host task agentId now with
        | (.staged, staged) =>
            let committed := staged.ledger.commitDeferred [task] []
            if committed.1 then (.claimed, { staged with ledger := committed.2 })
            else (.unsaved, ⟨committed.2, (releaseTask staged.lock taskId agentId now).2⟩)
        | (_, passed) => (.passed, passed)
      else (.passed, c)

def considerTask (agentId : AgentId) (capabilities : Option (List String)) (now : Time) :
    ClaimAttempt × Coordinator Lock :=
  let prepared := c.prepareTask host taskId now
  if prepared.1 then prepared.2.attemptClaim host taskId agentId capabilities now
  else (.passed, prepared.2)

def claimFrom (host : Host) (agentId : AgentId) (capabilities : Option (List String))
    (now : Time) : List TaskId → Coordinator Lock → Option TaskId × Coordinator Lock
  | [], c => (none, c)
  | taskId :: rest, c =>
      match c.considerTask host taskId agentId capabilities now with
      | (.passed, next) => claimFrom host agentId capabilities now rest next
      | (.claimed, done) => (some taskId, done)
      | (.unsaved, done) => (none, done)

def claimNextTask (agentId : AgentId) (capabilities : Option (List String)) (now : Time) :
    Option TaskId × Coordinator Lock :=
  claimFrom host agentId capabilities now c.ledger.taskOrder c

structure Batch where
  claimed : List TaskId
  snapshots : Snapshots

def releaseStagedClaims (lock : Lock) (taskIds : List TaskId) (agentId : AgentId) (now : Time) :
    Lock :=
  taskIds.foldl (fun current taskId => (releaseTask current taskId agentId now).2) lock

def batchCandidate (ledger : SmartLedger) (taskId : TaskId) (capabilities : Option (List String)) :
    Option Task :=
  (ledger.getTask taskId).filter fun task =>
    task.status = .pending ∧ task.executionMode = .parallel ∧ capable capabilities task

/-- `none` is a refused stage, after which the whole batch has been undone. -/
def stageBatch (host : Host) (agentId : AgentId) (maxTasks : Int)
    (capabilities : Option (List String)) (now : Time) :
    List TaskId → Batch → Coordinator Lock → Option Batch × Coordinator Lock
  | [], batch, c => (some batch, c)
  | taskId :: rest, batch, c =>
      if (batch.claimed.length : Int) ≥ maxTasks then (some batch, c)
      else match batchCandidate c.ledger taskId capabilities with
        | none => stageBatch host agentId maxTasks capabilities now rest batch c
        | some task =>
            match c.stageTaskClaim host task agentId now with
            | (.busy, next) => stageBatch host agentId maxTasks capabilities now rest batch next
            | (.staged, next) =>
                stageBatch host agentId maxTasks capabilities now rest
                  ⟨batch.claimed ++ [taskId], batch.snapshots ++ [task]⟩ next
            | (.refused, next) =>
                (none, ⟨next.ledger.restoreSnapshots batch.snapshots,
                  releaseStagedClaims next.lock batch.claimed agentId now⟩)

def claimParallelBatch (agentId : AgentId) (maxTasks : Int) (capabilities : Option (List String))
    (now : Time) : List TaskId × Coordinator Lock :=
  match stageBatch host agentId maxTasks capabilities now c.ledger.taskOrder ⟨[], []⟩ c with
  | (none, undone) => ([], undone)
  | (some batch, staged) =>
      if batch.claimed.isEmpty then ([], staged)
      else
        let committed := staged.ledger.commitDeferred batch.snapshots []
        if committed.1 then (batch.claimed, { staged with ledger := committed.2 })
        else ([], ⟨committed.2, releaseStagedClaims staged.lock batch.claimed agentId now⟩)

def hashable (result : Option Value) : Bool :=
  match result with
  | none => true
  | some value => (host.resultHash value).isSome

/-- `true` is a normal return, `false` an exception. The result is hashed before
the block whose end releases the lock. -/
def submitResult (agentId : AgentId) (result : Option Value) (now : Time) :
    Bool × Coordinator Lock :=
  if hashable host result then
    let completed := c.ledger.updateTaskStatus host taskId
      { status := .completed, result := result, reason := some "Task completed successfully" } now
    (completed.1, ⟨completed.2, (releaseTask c.lock taskId agentId now).2⟩)
  else (false, c)

def abandonTask (agentId : AgentId) (now : Time) : Coordinator Lock :=
  { c with lock := (releaseTask c.lock taskId agentId now).2 }

def deferTask (c : Coordinator Lock) (taskId : TaskId) (agentId : AgentId) (reason : String)
    (retryAfterS : Int) (now : Time) : Bool × Coordinator Lock :=
  match c.ledger.getTask taskId with
  | none => (false, c)
  | some task =>
      let moved := (c.ledger.putTask (clearClaim task)).deferTask taskId
        ("temporary worker deferral: " ++ reason) (some (.at (now + seconds (max 1 retryAfterS))))
        now
      (moved.1,
        ⟨if moved.1 then moved.2 else moved.2.restoreSnapshots [task],
          (releaseTask c.lock taskId agentId now).2⟩)

def holdTask (agentId : AgentId) (reason history : String) (now : Time) : Bool × Coordinator Lock :=
  let released := (releaseTask c.lock taskId agentId now).2
  match c.ledger.getTask taskId with
  | none => (false, { c with lock := released })
  | some task =>
      let update := c.ledger.updateTaskStatus host taskId
        { status := .blocked, errorMessage := some reason, reason := some history,
          deferSave := true } now
      if update.1 then
        let marked := update.2.modifyTask taskId
          (·.setBlockedReason (some BlockedReason.inputRequired.value) now)
        let committed := marked.commitDeferred [task] []
        (committed.1, ⟨committed.2, released⟩)
      else (false, ⟨update.2.restoreSnapshots [task], released⟩)

end Coordinator

end Hartos
