import Hartos.LedgerOperations
import Hartos.TaskCreation

/-!
Runs of one ledger: every operation of `SmartLedger` that changes something, the
methods of a `Task` it holds, saving, loading, and opening it anew. The backend
keeps a copy of what it is given, as a file or a database does; `InMemoryBackend`,
which does not, has its own steps in `Session`.
-/
namespace Hartos.SmartLedger
open TaskStatus KeyedTable
variable (ledger : SmartLedger) (reason : String) (now : Time)

def reprioritizeTask (taskId : TaskId) (newPriority : Int) (now : Time) : Bool × SmartLedger :=
  match ledger.getTask taskId with
  | none => (false, ledger)
  | some task =>
      (true, (ledger.putTask
        { task with priority := max 0 (min 100 newPriority), updatedAt := now }).save.2)

def updateTaskContext (taskId : TaskId) (context : Context) (deferSave : Bool) (now : Time) :
    Bool × SmartLedger :=
  match ledger.getTask taskId with
  | none => (false, ledger)
  | some task =>
      let put := ledger.putTask { task with context := context, updatedAt := now }
      (true, if deferSave then put else put.save.2)

def updateTaskProgress (taskId : TaskId) (now : Time) : Bool × SmartLedger :=
  match ledger.getTask taskId with
  | none => (false, ledger)
  | some task => (true, (ledger.putTask { task with updatedAt := now }).save.2)

def cancelEach (cancel : SmartLedger → TaskId → Option Bool × SmartLedger) :
    List TaskId → SmartLedger → Option Bool × SmartLedger
  | [], ledger => (some true, ledger)
  | id :: rest, ledger =>
      match cancel ledger id with
      | (none, after) => (none, after)
      | (some _, after) => cancelEach cancel rest after

/-- `cancel_task`. It calls itself once for each task that lists this one as a
prerequisite; where these form a cycle the interpreter's stack runs out, which is
the result `none`. -/
def cancelTask (host : Host) (now : Time) (cascade : Bool) :
    Nat → SmartLedger → TaskId → Option Bool × SmartLedger
  | 0, ledger, _ => (none, ledger)
  | stack + 1, ledger, taskId =>
      match ledger.getTask taskId with
      | none => (some false, ledger)
      | some _ =>
          let cancelled :=
            (ledger.updateTaskStatus host taskId { status := .cancelled } now).2
          if cascade then
            cancelEach (cancelTask host now cascade stack) (cancelled.reversePrerequisites taskId)
              cancelled
          else (some true, cancelled)

def moveAll (selected : Task → Bool) (mover : Task → Option Task) : Nat × SmartLedger :=
  let chosen := ledger.tasks.rows.filter selected
  let moved := (chosen.filter fun task => (mover task).isSome).length
  let changed := chosen.foldl
    (fun current task => current.modifyTask task.taskId fun t => (mover t).getD t) ledger
  (moved, if moved > 0 then changed.save.2 else changed)

def pauseAllActiveTasks : Nat × SmartLedger :=
  ledger.moveAll (fun task => isActiveState task.status) (·.pause reason now)

def resumeAllPausedTasks : Nat × SmartLedger :=
  ledger.moveAll (fun task => isPausedState task.status) (·.resume reason now)

def deferAllPendingTasks : Nat × SmartLedger :=
  ledger.moveAll (fun task => task.status = .pending) (·.defer reason none now)

def undeferAllTasks : Nat × SmartLedger :=
  ledger.moveAll (fun task => task.status = .deferred) (·.undefer reason now)

/-- `load` on a ledger in use. Storage that cannot be read empties it. -/
def reload (readable : Bool) : SmartLedger :=
  if readable then
    match ledger.backend.stored with
    | none => ledger
    | some saved =>
        { ledger with
          tasks := saved.tasks
          taskOrder := saved.taskOrder
          loadedTaskIds := saved.tasks.keys }
  else { ledger with tasks := Table.empty Task.taskId, taskOrder := [] }

def restart (readable : Bool) : SmartLedger :=
  if readable then SmartLedger.load false ledger.backend
  else
    { tasks := Table.empty Task.taskId, taskOrder := [], events := [], loadedTaskIds := [],
      pubsub := false, published := [], backend := ledger.backend }

/-- The methods of a task. `touch` stands for those that write fields left out
here, and stamp the task. -/
inductive TaskMethod where
  | start (reason : String)
  | complete (result : Option Value) (reason : String)
  | fail (error reason : String)
  | pause (reason : String)
  | userStop (reason : String)
  | block (reason : String)
  | resume (reason : String)
  | cancel (reason : String)
  | terminate (reason : String)
  | skip (reason : String)
  | markNotApplicable (reason : String)
  | defer (reason : String) (till : Option Stamp)
  | undefer (reason : String)
  | delegate (toAgentId : AgentId) (delegationType reason : String)
  | completeDelegation (result : Option Value) (reason : String)
  | reclaimDelegation (reason : String)
  | rollback (reason : String)
  | transitionTo (newStatus : Status) (reason : String)
  | setBlockedReason (reason : Option String)
  | setFailureReason (reason : String)
  | setPendingReason (reason : String)
  | recordRetry (error : String)
  | schedule (scheduledTime : String)
  | addChildTask (id : TaskId)
  | addSiblingTask (id : TaskId)
  | addDependentTask (id : TaskId)
  | addBlockingTask (id : TaskId)
  | removeBlockingTask (id : TaskId)
  | sendMessageToDependents (body : MessageBody)
  | receiveMessages (messages : List Message)
  | injectVlmContext (context : Context)
  | touch

namespace TaskMethod

def outcome (task : Task) (now : Time) : TaskMethod → Option Task
  | .start reason => task.start reason now
  | .complete result reason => task.complete result reason now
  | .fail error reason => task.fail error reason now
  | .pause reason => task.pause reason now
  | .userStop reason => task.userStop reason now
  | .block reason => task.block reason now
  | .resume reason => task.resume reason now
  | .cancel reason => task.cancel reason now
  | .terminate reason => task.terminate reason now
  | .skip reason => task.skip reason now
  | .markNotApplicable reason => task.markNotApplicable reason now
  | .defer reason till => task.defer reason till now
  | .undefer reason => task.undefer reason now
  | .delegate toAgentId delegationType reason => task.delegate toAgentId delegationType reason now
  | .completeDelegation result reason => task.completeDelegation result reason now
  | .reclaimDelegation reason => task.reclaimDelegation reason now
  | .rollback reason => task.rollback reason now
  | .transitionTo newStatus reason => task.transitionTo newStatus reason now
  | .setBlockedReason reason => some (task.setBlockedReason reason now)
  | .setFailureReason reason => some (task.setFailureReason reason now)
  | .setPendingReason reason => some (task.setPendingReason reason now)
  | .recordRetry error => some (task.recordRetry error now).2
  | .schedule scheduledTime => task.schedule scheduledTime now
  | .addChildTask id => some (task.addChildTask id now)
  | .addSiblingTask id => some (task.addSiblingTask id now)
  | .addDependentTask id => some (task.addDependentTask id now)
  | .addBlockingTask id => some (task.addBlockingTask id now)
  | .removeBlockingTask id => some (task.removeBlockingTask id now)
  | .sendMessageToDependents body => some (task.sendMessageToDependents body now)
  | .receiveMessages messages => some (task.receiveMessages messages now)
  | .injectVlmContext context => some { task with context := context, updatedAt := now }
  | .touch => some { task with updatedAt := now }

def apply (method : TaskMethod) (task : Task) (now : Time) : Task :=
  (method.outcome task now).getD task

end TaskMethod

inductive LedgerOperation where
  | addTask (task : Task) (deferSave : Bool)
  | updateTaskStatus (taskId : TaskId) (update : StatusUpdate)
  | completeTask (taskId : TaskId) (result : Option Value)
  | change (operation : StatusOperation)
  | reopenTask (taskId : TaskId) (reason : String) (deferSave : Bool)
  | reprioritizeTask (taskId : TaskId) (newPriority : Int)
  | updateTaskContext (taskId : TaskId) (context : Context) (deferSave : Bool)
  | updateTaskProgress (taskId : TaskId)
  | cancelTask (taskId : TaskId) (cascade : Bool) (stack : Nat)
  | pauseAllActiveTasks (reason : String)
  | resumeAllPausedTasks (reason : String)
  | deferAllPendingTasks (reason : String)
  | undeferAllTasks (reason : String)
  | completeTaskAndRoute (taskId : TaskId) (outcome : String) (result : Option Value)
  | checkAndUnblockParent (completedTaskId : TaskId)
  | createParentChildTask (parentTaskId : TaskId) (description : String) (childType : TaskType)
      (options : ChildOptions)
  | createSiblingTasks (parentTaskId : TaskId) (descriptions : List String) (taskType : TaskType)
  | createSequentialTasks (descriptions : List String) (taskType : TaskType)
      (parentTaskId : Option TaskId)
  | addDynamicTask (description : String) (discovery : Discovery)
      (classification : Classification)
  | addSubtasks (parentActionId : Int) (subtasks : List SubtaskSpec)
  | clearCompletedTasks
  | method (taskId : TaskId) (method : TaskMethod)
  | save
  | reload (readable : Bool)
  | restart (readable : Bool)
  | clearEvents
  | enablePubsub

structure LedgerCall where
  operation : LedgerOperation
  now : Time
  host : Host

def perform (ledger : SmartLedger) (call : LedgerCall) : SmartLedger :=
  match call.operation with
  | .addTask task deferSave => (ledger.addTask task deferSave).2
  | .updateTaskStatus taskId update => (ledger.updateTaskStatus call.host taskId update call.now).2
  | .completeTask taskId result => (ledger.completeTask call.host taskId result call.now).2
  | .change operation => (operation.run call.host ledger call.now).2
  | .reopenTask taskId reason deferSave => (ledger.reopenTask taskId reason deferSave call.now).2
  | .reprioritizeTask taskId newPriority =>
      (ledger.reprioritizeTask taskId newPriority call.now).2
  | .updateTaskContext taskId context deferSave =>
      (ledger.updateTaskContext taskId context deferSave call.now).2
  | .updateTaskProgress taskId => (ledger.updateTaskProgress taskId call.now).2
  | .cancelTask taskId cascade stack =>
      (cancelTask call.host call.now cascade stack ledger taskId).2
  | .pauseAllActiveTasks reason => (ledger.pauseAllActiveTasks reason call.now).2
  | .resumeAllPausedTasks reason => (ledger.resumeAllPausedTasks reason call.now).2
  | .deferAllPendingTasks reason => (ledger.deferAllPendingTasks reason call.now).2
  | .undeferAllTasks reason => (ledger.undeferAllTasks reason call.now).2
  | .completeTaskAndRoute taskId outcome result =>
      (ledger.completeTaskAndRoute call.host taskId outcome result call.now).2
  | .checkAndUnblockParent completedTaskId =>
      (ledger.checkAndUnblockParent completedTaskId call.now).2
  | .createParentChildTask parentTaskId description childType options =>
      (ledger.createParentChildTask parentTaskId description childType options call.now).2
  | .createSiblingTasks parentTaskId descriptions taskType =>
      (ledger.createSiblingTasks parentTaskId descriptions taskType call.now).2
  | .createSequentialTasks descriptions taskType parentTaskId =>
      (ledger.createSequentialTasks descriptions taskType parentTaskId call.now).2
  | .addDynamicTask description discovery classification =>
      (ledger.addDynamicTask call.host description discovery classification call.now).2
  | .addSubtasks parentActionId subtasks => (ledger.addSubtasks parentActionId subtasks call.now).2
  | .clearCompletedTasks => ledger.clearCompletedTasks
  | .method taskId method => ledger.modifyTask taskId fun task => method.apply task call.now
  | .save => ledger.save.2
  | .reload readable => ledger.reload readable
  | .restart readable => ledger.restart readable
  | .clearEvents => { ledger with events := [] }
  | .enablePubsub => { ledger with pubsub := true }

def opened (verdict : Nat → Verdict) : SmartLedger := SmartLedger.load false ⟨none, verdict, 0⟩

end Hartos.SmartLedger
