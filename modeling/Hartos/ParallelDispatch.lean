import Hartos.CompletionRouting
import Hartos.LedgerOperations
import Hartos.StepSystem

/-!
Working a whole ledger off: `dispatch_goal_with_ledger` asks the selectors for
work, marks what they name IN_PROGRESS and hands it to `dispatch_fn`, round after
round. What `dispatch_fn` does, and the order in which a batch finishes, are free;
the status updates are the ledger's, and their results are not looked at.
-/
namespace Hartos.ParallelDispatch
open TaskStatus

abbrev Fields := List (String × Value)

/-- What `dispatch_fn` comes to: the dict it returns, or an exception. A result
that is no dict fails at the first `get`, an exception as well. -/
inductive Answer where
  | returned (result : Fields)
  | raised (error : String)

inductive Outcome where
  | completed | failed | deferred
  deriving DecidableEq

def isDeferred (result : Fields) : Bool := (result.lookup "deferred").any Value.truthy

def succeeded (result : Fields) : Bool := (result.lookup "success").all Value.truthy

def Answer.outcome : Answer → Outcome
  | .raised _ => .failed
  | .returned result =>
      if isDeferred result then .deferred else if succeeded result then .completed else .failed

def Answer.entry : Answer → Fields
  | .raised error => [("error", .text error)]
  | .returned result => result

structure Dispatcher where
  host : Host
  answer : Nat → TaskId → Answer
  clock : Nat → Time
  finishOrder : Nat → List Task → List Task
  finishes : ∀ round batch, (finishOrder round batch).Perm batch
  workers : Nat
  some_worker : 0 < workers

structure Report where
  completed : Nat
  failed : Nat
  deferred : Nat
  results : TaskId → Option Fields

def Report.empty : Report := ⟨0, 0, 0, fun _ => none⟩

def Report.add (report : Report) (taskId : TaskId) (answer : Answer) : Report where
  completed := report.completed + if answer.outcome = .completed then 1 else 0
  failed := report.failed + if answer.outcome = .failed then 1 else 0
  deferred := report.deferred + if answer.outcome = .deferred then 1 else 0
  results := fun id => if id = taskId then some answer.entry else report.results id

def Report.merge (report batch : Report) : Report where
  completed := report.completed + batch.completed
  failed := report.failed + batch.failed
  deferred := report.deferred + batch.deferred
  results := fun id => (batch.results id).or (report.results id)

/-- One call of `dispatch_fn`: the ledger before the task was marked, and after. -/
structure Invocation where
  taskId : TaskId
  found : SmartLedger
  marked : SmartLedger

structure Progress where
  ledger : SmartLedger
  report : Report
  invoked : List Invocation

def holdForLater (host : Host) (ledger : SmartLedger) (taskId : TaskId) (result : Fields)
    (now : Time) : SmartLedger :=
  let reason := match result.lookup "error" with
    | some error => if error.truthy then host.text error else "deferred"
    | none => "deferred"
  let held := ledger.deferTask taskId reason none now
  if held.1 then (held.2.undeferTask taskId "back in the queue" now).2 else held.2

def settle (host : Host) (ledger : SmartLedger) (taskId : TaskId) (answer : Answer)
    (now : Time) : SmartLedger :=
  match answer with
  | .raised error =>
      (ledger.updateTaskStatus host taskId { status := .failed, errorMessage := some error } now).2
  | .returned result =>
      if isDeferred result then holdForLater host ledger taskId result now
      else if succeeded result then
        (ledger.updateTaskStatus host taskId
          { status := .completed, result := some (.dict result) } now).2
      else
        let error := match result.lookup "error" with
          | some error => host.text error
          | none => "failed"
        (ledger.updateTaskStatus host taskId { status := .failed, errorMessage := some error } now).2

def launch (host : Host) (now : Time) : List Task → SmartLedger → SmartLedger × List Invocation
  | [], ledger => (ledger, [])
  | task :: rest, ledger =>
      let marked := (ledger.updateTaskStatus host task.taskId { status := .inProgress } now).2
      let later := launch host now rest marked
      (later.1, ⟨task.taskId, ledger, marked⟩ :: later.2)

variable (dispatcher : Dispatcher) (ledger : SmartLedger) (round : Nat)

def settleAll (tasks : List Task) (ledger : SmartLedger) : SmartLedger :=
  tasks.foldl
    (fun current task => settle dispatcher.host current task.taskId
      (dispatcher.answer round task.taskId) (dispatcher.clock round)) ledger

def reportAll (tasks : List Task) : Report :=
  tasks.foldl (fun report task => report.add task.taskId (dispatcher.answer round task.taskId))
    Report.empty

def dispatchParallelTasks (ledger : SmartLedger) : Progress :=
  let parallelTasks := ledger.getParallelExecutableTasks
  if parallelTasks.isEmpty then ⟨ledger, Report.empty, []⟩
  else
    let batch := parallelTasks.take dispatcher.workers
    let launched := launch dispatcher.host (dispatcher.clock round) batch ledger
    let finished := dispatcher.finishOrder round batch
    ⟨(settleAll dispatcher round finished launched.1).save.2,
      reportAll dispatcher round finished, launched.2⟩

def dispatchNextTask (ledger : SmartLedger) (nextTask : Task) : Progress :=
  let launched := launch dispatcher.host (dispatcher.clock round) [nextTask] ledger
  ⟨settleAll dispatcher round [nextTask] launched.1, reportAll dispatcher round [nextTask],
    launched.2⟩

/-- The state of the loop; `running` turns false at a `break`. -/
structure DispatchLoop extends Progress where
  running : Bool

def DispatchLoop.begin : DispatchLoop := ⟨⟨ledger, Report.empty, []⟩, true⟩

def DispatchLoop.join (state : DispatchLoop) (made : Progress) : DispatchLoop :=
  ⟨⟨made.ledger, state.report.merge made.report, state.invoked ++ made.invoked⟩,
    decide (made.report.deferred = 0)⟩

def dispatchRound (state : DispatchLoop) (round : Nat) : DispatchLoop :=
  if state.running then
    if state.ledger.getParallelExecutableTasks.isEmpty then
      match state.ledger.getNextExecutableTask with
      | none => { state with running := false }
      | some nextTask => state.join (dispatchNextTask dispatcher round state.ledger nextTask)
    else state.join (dispatchParallelTasks dispatcher round state.ledger)
  else state

def maxIterations : Nat := 100

def dispatchLoop : DispatchLoop :=
  StepSystem.final (dispatchRound dispatcher) (DispatchLoop.begin ledger)
    (List.range maxIterations)

def dispatchGoalWithLedger : Progress :=
  let done := dispatchLoop dispatcher ledger
  { done.toProgress with ledger := done.ledger.save.2 }

end Hartos.ParallelDispatch
