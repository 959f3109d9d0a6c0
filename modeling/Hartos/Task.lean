import Hartos.KeyedTable
import Hartos.TaskStatus
import Hartos.Value

/-!
One task record and the methods that move it. A `Time` counts microseconds and
stands for the clock reading a call makes; methods take it as an argument.
Ownership, budget, SLA, locality and progress fields are read by none of the
functions modelled here and are left out, as are log lines.
-/
namespace Hartos
open TaskStatus

abbrev TaskId := String
abbrev AgentId := String
abbrev Time := Int

def seconds (n : Int) : Time := n * 1000000

inductive Stamp where
  | at (time : Time)
  | unreadable (text : String)
  deriving DecidableEq

/-- A context value the source passes through `int(...)`. -/
inductive IntField where
  | number (n : Int)
  | unreadable (text : String)
  deriving DecidableEq

/-- The `depends_on_outcome` entry. An absent `required_outcome` reads "success";
`none` is a null one. -/
structure OutcomeCondition where
  taskId : TaskId
  requiredOutcome : Option String := some "success"
  description : Option String := none
  deriving DecidableEq

/-- The context dictionary: the keys ledger and coordinator know by name, at the
types they are documented with, and the rest of it under `extra`. `none` is an
absent key. -/
structure Context where
  objective : Option String := none
  capabilitiesRequired : Option (List String) := none
  claimedBy : Option AgentId := none
  claimedAt : Option Stamp := none
  resultHash : Option String := none
  lastResultHash : Option String := none
  runs : Option Int := none
  goalType : Option String := none
  userId : Option String := none
  sourceNode : Option String := none
  hop : Option IntField := none
  continuous : Option Bool := none
  dependsOnOutcome : Option OutcomeCondition := none
  extra : List (String × Value) := []
  deriving DecidableEq

/-- `dict.update`: keys present in `other` win. -/
def Context.update (self other : Context) : Context where
  objective := other.objective <|> self.objective
  capabilitiesRequired := other.capabilitiesRequired <|> self.capabilitiesRequired
  claimedBy := other.claimedBy <|> self.claimedBy
  claimedAt := other.claimedAt <|> self.claimedAt
  resultHash := other.resultHash <|> self.resultHash
  lastResultHash := other.lastResultHash <|> self.lastResultHash
  runs := other.runs <|> self.runs
  goalType := other.goalType <|> self.goalType
  userId := other.userId <|> self.userId
  sourceNode := other.sourceNode <|> self.sourceNode
  hop := other.hop <|> self.hop
  continuous := other.continuous <|> self.continuous
  dependsOnOutcome := other.dependsOnOutcome <|> self.dependsOnOutcome
  extra := other.extra.foldl (fun kept field => KeyedTable.put Prod.fst field kept) self.extra

structure HistoryEntry where
  status : Status
  timestamp : Time
  reason : String
  previousStatus : Option Status := none
  deriving DecidableEq

inductive MessageBody where
  | result (data : Value) (status : Status)
  | completion (completedAt : Option Time)
  -- What `complete_task_and_route` leaves; its sender is under "from".
  | outcome (outcome : String) (result : Option Value)
  deriving DecidableEq

structure Message where
  body : MessageBody
  fromTaskId : TaskId
  timestamp : Time
  receivedAt : Option Time := none
  deriving DecidableEq

structure Task where
  taskId : TaskId
  description : String
  taskType : TaskType
  executionMode : ExecutionMode := .sequential
  status : Status := .pending
  prerequisites : List TaskId := []
  context : Context := {}
  priority : Int := 50
  parentTaskId : Option TaskId := none
  createdAt : Time
  updatedAt : Time
  completedAt : Option Time := none
  errorMessage : Option String := none
  result : Option Value := none
  stateHistory : List HistoryEntry
  pausedAt : Option Time := none
  resumedAt : Option Time := none
  pauseCount : Nat := 0
  stopReason : Option String := none
  terminationReason : Option String := none
  blockedReason : Option String := none
  failureReason : Option String := none
  pendingReason : Option String := none
  delegatedTo : Option AgentId := none
  delegatedAt : Option Time := none
  delegationType : Option String := none
  delegationResult : Option Value := none
  deferredAt : Option Time := none
  deferredUntil : Option Stamp := none
  deferredReason : Option String := none
  scheduledAt : Option String := none
  retryCount : Nat := 0
  maxRetries : Int := 3
  lastRetryAt : Option Time := none
  retryErrors : List String := []
  rolledBackAt : Option Time := none
  rollbackReason : Option String := none
  originalResult : Option Value := none
  childTaskIds : List TaskId := []
  siblingTaskIds : List TaskId := []
  dependentTaskIds : List TaskId := []
  messagesToDependents : List Message := []
  receivedMessages : List Message := []
  blockedBy : List TaskId := []
  startedAt : Option Time := none
  deriving DecidableEq

namespace Task

/-- `Task.__init__` with the arguments its callers here pass. -/
def create (taskId : TaskId) (description : String) (taskType : TaskType) (now : Time) : Task where
  taskId := taskId
  description := description
  taskType := taskType
  createdAt := now
  updatedAt := now
  stateHistory := [{ status := .pending, timestamp := now, reason := "Task created" }]

variable (task : Task) (reason : String) (now : Time)

def recordStateTransition (newStatus : Status) (reason : String) (now : Time) : Task :=
  { task with
    stateHistory := task.stateHistory ++
      [{ status := newStatus, timestamp := now, reason := reason,
         previousStatus := some task.status }]
    status := newStatus
    updatedAt := now }

def transitionRefusal (newStatus : Status) : Option TransitionRefusal :=
  transitionRefusalBetween task.status newStatus

def validateTransition (newStatus : Status) : Bool :=
  (task.transitionRefusal newStatus).isNone

/-- The shape of the movers below: validate, set the mover's own fields, record.
`none` is the source's `return False`, which leaves the task alone. -/
def move (newStatus : Status) (reason : String) (now : Time) (fields : Task → Task) : Option Task :=
  if task.validateTransition newStatus then
    some ((fields task).recordStateTransition newStatus reason now)
  else none

def start : Option Task :=
  task.move .inProgress reason now fun t => { t with startedAt := some now }

def complete (result : Option Value) (reason : String) (now : Time) : Option Task :=
  task.move .completed reason now fun t =>
    { t with result := result, completedAt := some now }

def fail (error reason : String) (now : Time) : Option Task :=
  task.move .failed s!"{reason}: {error}" now fun t =>
    { t with errorMessage := some error, completedAt := some now }

def pause : Option Task :=
  task.move .paused reason now fun t =>
    { t with pausedAt := some now, pauseCount := t.pauseCount + 1 }

def userStop : Option Task :=
  task.move .userStopped reason now fun t =>
    { t with pausedAt := some now, stopReason := some reason }

def block : Option Task :=
  task.move .blocked reason now fun t => { t with errorMessage := some reason }

def resume : Option Task :=
  (task.move .resuming reason now fun t => { t with resumedAt := some now }).map fun t =>
    t.recordStateTransition .inProgress "Resumed to active execution" now

def cancel : Option Task :=
  task.move .cancelled reason now fun t => { t with completedAt := some now }

def terminate : Option Task :=
  task.move .terminated reason now fun t =>
    { t with terminationReason := some reason, completedAt := some now }

def skip : Option Task :=
  task.move .skipped reason now fun t => { t with completedAt := some now }

def markNotApplicable : Option Task :=
  task.move .notApplicable reason now fun t => { t with completedAt := some now }

def defer (till : Option Stamp) (now : Time) : Option Task :=
  task.move .deferred reason now fun t =>
    { t with deferredAt := some now, deferredReason := some reason, deferredUntil := till }

def delegate (toAgentId : AgentId) (delegationType reason : String) (now : Time) : Option Task :=
  task.move .delegated s!"{reason} to {toAgentId}" now fun t =>
    { t with
      delegatedTo := some toAgentId
      delegatedAt := some now
      delegationType := some delegationType }

/-- `transition_to`; an empty reason is replaced. -/
def transitionTo (newStatus : Status) (reason : String) (now : Time) : Option Task :=
  task.move newStatus (if reason = "" then s!"Transitioned to {newStatus.value}" else reason) now id

def moveFrom (required newStatus : Status) (reason : String) (now : Time) (fields : Task → Task) :
    Option Task :=
  if task.status = required then
    some ((fields task).recordStateTransition newStatus reason now)
  else none

def undefer : Option Task :=
  task.moveFrom .deferred .pending reason now id

def completeDelegation (result : Option Value) (reason : String) (now : Time) : Option Task :=
  task.moveFrom .delegated .completed reason now fun t =>
    { t with delegationResult := result, result := result, completedAt := some now }

def reclaimDelegation : Option Task :=
  task.moveFrom .delegated .inProgress reason now id

def rollback : Option Task :=
  task.moveFrom .completed .rolledBack reason now fun t =>
    { t with
      originalResult := t.result
      result := none
      rolledBackAt := some now
      rollbackReason := some reason }

/-- The task half of `reopen_task`: the run-scoped fields are cleared. -/
def reopen : Option Task :=
  task.moveFrom .completed .pending reason now fun t =>
    { t with result := none, completedAt := none, startedAt := none, errorMessage := none }

def setBlockedReason (reason : Option String) (now : Time) : Task :=
  { task with blockedReason := reason, updatedAt := now }

def setFailureReason : Task :=
  { task with failureReason := some reason, updatedAt := now }

def setPendingReason : Task :=
  { task with pendingReason := some reason, updatedAt := now }

/-- `record_retry`; the last retry allowed is number `max_retries`. -/
def recordRetry (error : String) (now : Time) : Bool × Task :=
  let counted := { task with
    retryCount := task.retryCount + 1
    lastRetryAt := some now
    retryErrors := task.retryErrors ++ [error] }
  if (counted.retryCount : Int) > counted.maxRetries then
    (false, { counted with failureReason := some "max_retries_exceeded" })
  else (true, counted)

def schedule (scheduledTime : String) (now : Time) : Option Task :=
  if task.status = .pending ∨ task.status = .deferred then
    some { task with
      scheduledAt := some scheduledTime, pendingReason := some "scheduled", updatedAt := now }
  else none

def isTerminal : Bool := isTerminalState task.status

def appendOnce (id : TaskId) (ids : Task → List TaskId) (write : Task → List TaskId → Task)
    (now : Time) : Task :=
  if id ∈ ids task then task else { write task (ids task ++ [id]) with updatedAt := now }

def addChildTask (childTaskId : TaskId) (now : Time) : Task :=
  task.appendOnce childTaskId Task.childTaskIds (fun t ids => { t with childTaskIds := ids }) now

def addSiblingTask (siblingTaskId : TaskId) (now : Time) : Task :=
  task.appendOnce siblingTaskId Task.siblingTaskIds (fun t ids => { t with siblingTaskIds := ids })
    now

def addDependentTask (dependentTaskId : TaskId) (now : Time) : Task :=
  task.appendOnce dependentTaskId Task.dependentTaskIds
    (fun t ids => { t with dependentTaskIds := ids }) now

def addBlockingTask (blockingTaskId : TaskId) (now : Time) : Task :=
  task.appendOnce blockingTaskId Task.blockedBy (fun t ids => { t with blockedBy := ids }) now

def isBlocked : Bool := !task.blockedBy.isEmpty

def removeBlockingTask (blockingTaskId : TaskId) (now : Time) : Task :=
  if blockingTaskId ∈ task.blockedBy then
    { task with blockedBy := task.blockedBy.erase blockingTaskId, updatedAt := now }
  else task

def sendMessageToDependents (body : MessageBody) (now : Time) : Task :=
  { task with
    messagesToDependents := task.messagesToDependents ++
      [{ body := body, fromTaskId := task.taskId, timestamp := now }]
    updatedAt := now }

def receiveMessages (messages : List Message) (now : Time) : Task :=
  if messages.isEmpty then task else
    { task with receivedMessages := task.receivedMessages ++ messages, updatedAt := now }

end Task

end Hartos
