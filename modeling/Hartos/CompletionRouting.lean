import Hartos.SmartLedger
import Mathlib.Data.List.Sort

/-!
The second way to complete a task, `complete_task_and_route`, with the selectors
that choose what runs next. Where these ask about other tasks they skip ids that
name no task.
-/
namespace Hartos.SmartLedger
open TaskStatus KeyedTable
variable (ledger : SmartLedger) (task : Task) (host : Host)

def allPresent (ids : List TaskId) (test : Status → Bool) : Bool :=
  ids.all fun id => match ledger.getTask id with
    | none => true
    | some task => test task.status

def isCompleted (status : Status) : Bool := decide (status = .completed)

def outcomeAllows : Bool :=
  match task.context.dependsOnOutcome with
  | none => true
  | some condition => match ledger.getTask condition.taskId with
    | none => true
    | some dependency =>
        let actual := if dependency.status = .completed then "success" else "failure"
        decide (condition.requiredOutcome = some "any") ||
          decide (condition.requiredOutcome = some actual)

def passesChecks : Bool :=
  ledger.allPresent task.childTaskIds isResolved &&
    ledger.allPresent task.prerequisites isCompleted &&
    ledger.outcomeAllows task &&
    ledger.allPresent task.blockedBy isResolved

def isCandidate : Bool :=
  !isTerminalState task.status &&
    !(decide (task.status = .blocked) || decide (task.status = .delegated) ||
      decide (task.status = .deferred))

def byPriority (tasks : List Task) : List Task :=
  tasks.insertionSort fun a b => b.priority ≤ a.priority

def getNextExecutableTask : Option Task :=
  (byPriority (ledger.tasks.rows.filter isCandidate)).find? ledger.passesChecks

def isParallelReady : Bool :=
  decide (task.status = .pending) && decide (task.pendingReason = some "ready") &&
    decide (task.executionMode = .parallel) && ledger.allPresent task.prerequisites isCompleted

def getParallelExecutableTasks : List Task :=
  ledger.tasks.rows.filter ledger.isParallelReady

def completeTask (ledger : SmartLedger) (taskId : TaskId) (result : Option Value) (now : Time) :
    Bool × SmartLedger :=
  ledger.updateTaskStatus host taskId
    { status := .completed, result := result, reason := some "Task completed successfully" } now

def hasValue (result : Option Value) : Bool := result.any Value.truthy

def retryTask (error : String) (now : Time) : Task :=
  let counted := { task with
    retryCount := task.retryCount + 1
    lastRetryAt := some now
    retryErrors := task.retryErrors ++ [error]
    errorMessage := some error }
  let label := s!"Retry {counted.retryCount}/{counted.maxRetries}"
  let blocked :=
    if counted.status = .inProgress then
      (counted.transitionTo .blocked s!"{label}: {error}" now).getD counted
    else counted
  let queued :=
    if blocked.status = .blocked then (blocked.transitionTo .pending label now).getD blocked
    else blocked
  { queued with pendingReason := some "queued" }

/-- What `complete_task_and_route` does to the task itself. A refused move leaves
the task alone, and the call goes on. -/
def routeTask (task : Task) (outcome : String) (result : Option Value) (now : Time) : Task :=
  let rendered := (result.map host.text).getD ""
  if outcome = "success" then
    (task.complete result
      (if hasValue result then s!"Task completed: {rendered}" else "Task completed") now).getD task
  else
    let error := if hasValue result then rendered else "Task failed"
    if (task.retryCount : Int) < task.maxRetries then retryTask task error now
    else (task.fail error error now).getD task

def sendOutcome (outcome : String) (result : Option Value) (now : Time) : SmartLedger :=
  task.dependentTaskIds.foldl
    (fun current dependentId => current.modifyTask dependentId fun dependent =>
      { dependent with
        receivedMessages := dependent.receivedMessages ++
          [{ body := .outcome outcome result, fromTaskId := task.taskId, timestamp := now }] })
    ledger

def childrenOf (parentId : TaskId) : List Task :=
  ledger.tasks.rows.filter fun task => task.parentTaskId = some parentId

def unblocked (parent : Task) (now : Time) : Task :=
  let pending :=
    (parent.transitionTo .pending "All subtasks completed — unblocking" now).getD parent
  (pending.transitionTo .inProgress "All subtasks completed — resuming" now).getD pending

def checkAndUnblockParent (completedTaskId : TaskId) (now : Time) : Bool × SmartLedger :=
  match (ledger.getTask completedTaskId).bind Task.parentTaskId with
  | none => (false, ledger)
  | some parentId => match ledger.getTask parentId with
    | none => (false, ledger)
    | some parent =>
        if parentId ≠ "" ∧ (ledger.childrenOf parentId).all (fun child => isResolved child.status) ∧
            parent.status = .blocked then
          (true, ledger.putTask (unblocked parent now))
        else (false, ledger)

def completeTaskAndRoute (ledger : SmartLedger) (taskId : TaskId) (outcome : String)
    (result : Option Value) (now : Time) : Option Task × SmartLedger :=
  match ledger.getTask taskId with
  | none => (none, ledger)
  | some task =>
      let routed := routeTask host task outcome result now
      let told := (ledger.putTask routed).sendOutcome routed outcome result now
      let freed :=
        if nonEmpty routed.parentTaskId then (told.checkAndUnblockParent taskId now).2 else told
      let saved := freed.save.2
      (saved.getNextExecutableTask, saved)

end Hartos.SmartLedger
