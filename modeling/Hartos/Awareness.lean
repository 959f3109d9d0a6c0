import Hartos.HistoryRuns
import Hartos.OutcomeConditions
import Mathlib.Algebra.Order.Field.Rat
import Mathlib.Data.Prod.Lex

/-!
`get_awareness`, the report an agent asks before it acts: the tasks in four
lists, the action recommended next, and hints. The four lists name twelve of the
fifteen statuses, and one hint takes the length of a number.
-/
namespace Hartos.SmartLedger
open TaskStatus KeyedTable

structure TaskProgress where
  progressPct : ℚ := 0
  checkpoints : Nat := 0
  deriving DecidableEq

def TaskProgress.update (progress : TaskProgress) (progressPct : ℚ) (checkpoint : Option String) :
    TaskProgress where
  progressPct := max 0 (min 100 progressPct)
  checkpoints := progress.checkpoints + if nonEmpty checkpoint then 1 else 0

/-- How Python writes times and fractions: `isoformat()`, the format `.nf`, and
`round(_, 1)`. -/
structure Rendering where
  isoformat : Time → String
  fixed : Nat → ℚ → String
  rounded : ℚ → ℚ

def orNone (text : Option String) : String := text.getD "None"

inductive TaskOutcome where
  | success | failure
  deriving DecidableEq

structure ExecutedTask where
  taskId : TaskId
  description : String
  status : Status
  outcome : TaskOutcome
  result : Option Value
  error : Option String
  completedAt : Option Time
  duration : Option String
  retryCount : Nat
  wasRolledBack : Bool
  rollbackReason : Option String
  deriving DecidableEq

inductive NextAction where
  | waitForChild (description : String) (childTaskId : TaskId) (totalPendingChildren : Nat)
  | awaitInput (description : String) (blockedReason : Option String)
  | awaitDelegation (description : String) (delegatedTo : Option AgentId)
      (delegationType : Option String)
  | continueExecution (description : String) (progress : ℚ) (nextCheckpoint : String)
  | complete (description : String) (progress : ℚ)
  deriving DecidableEq

structure ExecutingTask where
  taskId : TaskId
  description : String
  status : Status
  progressPct : ℚ
  startedAt : Time
  checkpointsCompleted : Nat
  hasChildren : Bool
  pendingChildren : List TaskId
  nextAction : NextAction
  blockers : List TaskId
  waitingFor : List String
  deriving DecidableEq

structure PendingTask where
  taskId : TaskId
  description : String
  priority : Int
  pendingReason : Option String
  canExecuteNow : Bool
  waitingReason : Option String
  prerequisites : List TaskId
  -- `none` is the text "not_found".
  prerequisitesStatus : List (TaskId × Option Status)
  executionMode : ExecutionMode
  parentTask : Option TaskId
  isDynamic : Bool
  deriving DecidableEq

structure BlockedTask where
  taskId : TaskId
  description : String
  status : Status
  blockedReason : Option String
  blockedBy : List TaskId
  deferredUntil : Option Stamp
  deferredReason : Option String
  delegatedTo : Option AgentId
  delegationType : Option String
  unblockCondition : String
  deriving DecidableEq

variable (ledger : SmartLedger) (rendering : Rendering) (executed : List ExecutedTask)

def calculateDuration (start : Time) (finish : Option Time) : Option String :=
  finish.map fun finish =>
    let elapsed : ℚ := (finish - start : Int) / 1000000
    if elapsed < 60 then s!"{rendering.fixed 1 elapsed}s"
    else if elapsed < 3600 then s!"{rendering.fixed 1 (elapsed / 60)}m"
    else s!"{rendering.fixed 1 (elapsed / 3600)}h"

def isCompletedOrSkipped : Status → Bool
  | .completed | .skipped => true
  | _ => false

def presentExcept (ids : List TaskId) (done : Status → Bool) : List TaskId :=
  ids.filter fun id => match ledger.getTask id with
    | none => false
    | some task => !done task.status

def descriptionOf (taskId : TaskId) : String :=
  ((ledger.getTask taskId).map Task.description).getD ""

def determineNextActionForTask (progress : TaskProgress) (task : Task) : NextAction :=
  match ledger.presentExcept task.childTaskIds isResolved with
  | child :: rest =>
      .waitForChild s!"Complete child task first: {ledger.descriptionOf child}" child
        (rest.length + 1)
  | [] =>
      if task.blockedReason = some "input_required" then
        .awaitInput "Waiting for user input to continue" task.blockedReason
      else if nonEmpty task.delegatedTo then
        .awaitDelegation s!"Waiting for {orNone task.delegatedTo} to complete delegated work"
          task.delegatedTo task.delegationType
      else if progress.progressPct < 100 then
        .continueExecution "Continue executing this task" progress.progressPct
          s!"Checkpoint {progress.checkpoints + 1}"
      else .complete "Task execution complete - mark as done" 100

def getWaitingFor (task : Task) : List String :=
  (ledger.presentExcept task.childTaskIds isCompletedOrSkipped).map (fun id => s!"child:{id}") ++
    (if nonEmpty task.delegatedTo then [s!"delegation:{orNone task.delegatedTo}"] else []) ++
    if task.blockedReason = some "input_required" then ["user_input"] else []

def getPrerequisitesStatus (task : Task) : List (TaskId × Option Status) :=
  task.prerequisites.eraseDups.map fun id => (id, (ledger.getTask id).map Task.status)

/-- The `reason_map`; other reasons stand for themselves. -/
def unblockAdvice : String → String
  | "dependency" => "Complete dependent tasks"
  | "input_required" => "Provide user input"
  | "approval_required" => "Get approval"
  | "resource_unavailable" => "Wait for resources"
  | "rate_limited" => "Wait for rate limit reset"
  | "external_service" => "Wait for external service"
  | reason => reason

def stampText : Option Stamp → Option String
  | none => none
  | some (.at time) => some (rendering.isoformat time)
  | some (.unreadable text) => if text = "" then none else some text

def getUnblockCondition (ledger : SmartLedger) (task : Task) : String :=
  if task.status = .deferred then
    match stampText rendering task.deferredUntil with
    | some text => s!"Wait until {text}"
    | none =>
        let reason := if nonEmpty task.deferredReason then orNone task.deferredReason
          else "unknown reason"
        s!"Deferred: {reason}"
  else if task.status = .delegated then
    s!"Wait for {orNone task.delegatedTo} to complete ({orNone task.delegationType})"
  else if task.blockedBy ≠ [] then
    let blockers := task.blockedBy.filterMap fun id =>
      (ledger.getTask id).map fun blocker => s!"{id} ({blocker.status.value})"
    "Complete: " ++ String.intercalate ", " blockers
  else if nonEmpty task.blockedReason then unblockAdvice (orNone task.blockedReason)
  else "Unknown - check task state"

def isExecuted : Status → Bool
  | .completed | .failed | .skipped | .cancelled | .terminated | .rolledBack => true
  | _ => false

def isExecuting : Status → Bool
  | .inProgress | .resuming => true
  | _ => false

def isWaiting : Status → Bool
  | .blocked | .deferred | .delegated => true
  | _ => false

def executedTask (task : Task) : ExecutedTask where
  taskId := task.taskId
  description := task.description
  status := task.status
  outcome := if task.status = .completed then .success else .failure
  result := task.result
  error := task.errorMessage
  completedAt := task.completedAt
  duration := calculateDuration rendering task.createdAt task.completedAt
  retryCount := task.retryCount
  wasRolledBack := decide (task.status = .rolledBack)
  rollbackReason := task.rollbackReason

def executingTask (progress : TaskId → TaskProgress) (task : Task) : ExecutingTask where
  taskId := task.taskId
  description := task.description
  status := task.status
  progressPct := (progress task.taskId).progressPct
  startedAt := task.updatedAt
  checkpointsCompleted := (progress task.taskId).checkpoints
  hasChildren := decide (task.childTaskIds ≠ [])
  pendingChildren := ledger.presentExcept task.childTaskIds isCompletedOrSkipped
  nextAction := ledger.determineNextActionForTask (progress task.taskId) task
  blockers := task.blockedBy
  waitingFor := ledger.getWaitingFor task

def pendingTask (task : Task) : PendingTask :=
  let (canExecute, reason) := ledger.canTaskExecute task
  { taskId := task.taskId
    description := task.description
    priority := task.priority
    pendingReason := task.pendingReason
    canExecuteNow := canExecute
    waitingReason := if canExecute then none else some reason
    prerequisites := task.prerequisites
    prerequisitesStatus := ledger.getPrerequisitesStatus task
    executionMode := task.executionMode
    parentTask := task.parentTaskId
    isDynamic := decide (task.taskType = .autonomous) }

def blockedTask (ledger : SmartLedger) (task : Task) : BlockedTask where
  taskId := task.taskId
  description := task.description
  status := task.status
  blockedReason := task.blockedReason
  blockedBy := task.blockedBy
  deferredUntil := task.deferredUntil
  deferredReason := task.deferredReason
  delegatedTo := task.delegatedTo
  delegationType := task.delegationType
  unblockCondition := getUnblockCondition rendering ledger task

def withStatus (bucket : Status → Bool) : List Task :=
  ledger.tasks.rows.filter fun task => bucket task.status

/-- At or before: a task without `completed_at` counts as the earliest. -/
def ExecutedTask.notAfter (a b : ExecutedTask) : Bool :=
  match a.completedAt, b.completedAt with
  | none, _ => true
  | some _, none => false
  | some s, some t => decide (s ≤ t)

def executedTasks (ledger : SmartLedger) : List ExecutedTask :=
  ((ledger.withStatus isExecuted).map (executedTask rendering)).insertionSort fun a b =>
    b.notAfter a = true

def executingTasks (progress : TaskId → TaskProgress) : List ExecutingTask :=
  (ledger.withStatus isExecuting).map (ledger.executingTask progress)

def PendingTask.readiness (row : PendingTask) : Bool ×ₗ Int :=
  toLex (row.canExecuteNow, row.priority)

def pendingTasks : List PendingTask :=
  ((ledger.withStatus fun status => decide (status = .pending)).map
    ledger.pendingTask).insertionSort fun a b =>
      b.readiness ≤ a.readiness

def blockedTasks (ledger : SmartLedger) : List BlockedTask :=
  (ledger.withStatus isWaiting).map (blockedTask rendering ledger)

inductive RecommendedAction where
  | retryFailed (taskId : TaskId) (description reason : String) (retryCount : Nat)
  | completeTask (taskId : TaskId) (description reason : String)
  | executeChild (taskId parentTaskId : TaskId) (description reason : String)
  | startTask (taskId : TaskId) (description reason : String) (isDynamic : Bool)
  | startParallel (taskIds : List TaskId) (description reason : String)
  | resolveBlocker (taskId : TaskId) (description : String) (blockerType : Status)
      (resolution : String)
  | allComplete (description summary reason : String)
  | continueTask (taskId : TaskId) (description : String) (progress : ℚ) (nextAction : NextAction)
  | wait (description reason : String)
  deriving DecidableEq

def NextAction.isComplete : NextAction → Bool
  | .complete _ _ => true
  | _ => false

def RecommendedAction.isAllComplete : RecommendedAction → Bool
  | .allComplete _ _ _ => true
  | _ => false

def childToExecute (executing : List ExecutingTask) : Option (ExecutingTask × Task) :=
  executing.findSome? fun row =>
    (row.pendingChildren.head?.bind ledger.getTask).map fun child => (row, child)

def successes : Nat :=
  executed.countP fun row => row.outcome = .success

def failures : Nat :=
  executed.countP fun row => row.outcome = .failure

def parallelReady (pending : List PendingTask) : List PendingTask :=
  pending.filter fun row => decide (row.executionMode = .parallel) && row.canExecuteNow

def getRecommendedAction (executing : List ExecutingTask) (pending : List PendingTask)
    (blocked : List BlockedTask) :
    RecommendedAction :=
  match executed.find? fun row => row.outcome = .failure ∧ row.retryCount < 3 with
  | some task =>
      .retryFailed task.taskId s!"Retry failed task: {task.description}"
        s!"Failed with error: {orNone task.error}" task.retryCount
  | none => match executing.find? fun row => row.nextAction.isComplete with
  | some task =>
      .completeTask task.taskId s!"Complete: {task.description}"
        "Task execution finished, mark as complete"
  | none => match ledger.childToExecute executing with
  | some (row, child) =>
      .executeChild child.taskId row.taskId s!"Execute child task: {child.description}"
        s!"Required to complete parent: {row.description}"
  | none => match pending.find? PendingTask.canExecuteNow with
  | some task =>
      .startTask task.taskId s!"Start: {task.description}"
        s!"Highest priority ready task (priority: {task.priority})" task.isDynamic
  | none =>
      if (parallelReady pending).length > 1 then
        .startParallel (((parallelReady pending).take 3).map PendingTask.taskId)
          s!"Start {(parallelReady pending).length} tasks in parallel"
          "Multiple independent tasks can run concurrently"
      else match blocked, executing, pending with
      | blocker :: _, [], _ =>
          .resolveBlocker blocker.taskId s!"Resolve blocker for: {blocker.description}"
            blocker.status blocker.unblockCondition
      | [], [], [] =>
          .allComplete "All tasks completed"
            s!"{successes executed} succeeded, {failures executed} failed"
            "No more tasks to execute"
      | _, task :: _, _ =>
          .continueTask task.taskId s!"Continue: {task.description}" task.progressPct
            task.nextAction
      | [], [], _ :: _ =>
          .wait "Waiting for blocked tasks to unblock" "No executable tasks available"

def failureHint : List String :=
  -- `fail_rate > 0.3`, on exact fractions.
  if 3 * executed.length < 10 * failures executed then
    let failRate : ℚ := failures executed / executed.length
    [s!"Warning: {rendering.fixed 0 (failRate * 100)}% failure rate - consider reviewing approach"]
  else []

/-- The hint for tasks that may be stalled takes `len` of the number of checkpoints.
It is reached, and raises, where the progress is under 20. -/
def stalledHints (executing : List ExecutingTask) : Option (List String) :=
  if executing.any fun row => row.progressPct < 20 then none else some []

def blockedHint (blocked : List BlockedTask) : List String :=
  if blocked.length > 3 then [s!"{blocked.length} tasks blocked - prioritize unblocking"] else []

def parallelHint (pending : List PendingTask) : List String :=
  let parallelCount := pending.countP fun row => row.executionMode = .parallel
  if parallelCount > 2 then
    [s!"{parallelCount} tasks can run in parallel - consider concurrent execution"]
  else []

def parentHints (pending : List PendingTask) : List String :=
  (pending.filter fun row => nonEmpty row.parentTask && !row.canExecuteNow).map fun row =>
    s!"Task {row.taskId} waiting on parent - check parent status"

/-- `_generate_execution_hints`; `none` is its TypeError. -/
def generateExecutionHints (executing : List ExecutingTask) (pending : List PendingTask)
    (blocked : List BlockedTask) :
    Option (List String) :=
  (stalledHints executing).map fun stalled =>
    failureHint rendering executed ++ stalled ++ blockedHint blocked ++ parallelHint pending ++
      parentHints pending

structure OverallProgress where
  totalTasks : Nat
  completed : Nat
  failed : Nat
  inProgress : Nat
  pending : Nat
  blocked : Nat
  completionPct : ℚ
  deriving DecidableEq

structure Awareness where
  timestamp : Time
  progress : OverallProgress
  executedTasks : List ExecutedTask
  executingTasks : List ExecutingTask
  pendingTasks : List PendingTask
  blockedTasks : List BlockedTask
  recommendedAction : RecommendedAction
  nextExecutableTask : Option Task
  parallelReadyTasks : List TaskId
  hints : List String

def overallProgress (ledger : SmartLedger) (executing pending blocked : Nat) : OverallProgress :=
  let total := ledger.tasks.rows.length
  let completed := (ledger.withStatus fun status => decide (status = .completed)).length
  { totalTasks := total
    completed := completed
    failed := (ledger.withStatus fun status => decide (status = .failed)).length
    inProgress := executing
    pending := pending
    blocked := blocked
    completionPct := if total > 0 then rendering.rounded ((completed / total : ℚ) * 100) else 0 }

/-- `get_awareness`. `none` is the exception of the hints, which come last. -/
def getAwareness (ledger : SmartLedger) (progress : TaskId → TaskProgress) (now : Time) :
    Option Awareness :=
  let executed := executedTasks rendering ledger
  let executing := ledger.executingTasks progress
  let pending := ledger.pendingTasks
  let blocked := blockedTasks rendering ledger
  (generateExecutionHints rendering executed executing pending blocked).map fun hints =>
    { timestamp := now
      progress := overallProgress rendering ledger executing.length pending.length blocked.length
      executedTasks := executed
      executingTasks := executing
      pendingTasks := pending
      blockedTasks := blocked
      recommendedAction := ledger.getRecommendedAction executed executing pending blocked
      nextExecutableTask := ledger.getNextExecutableTask
      parallelReadyTasks := ledger.getParallelExecutableTasks.map Task.taskId
      hints := hints }

def Awareness.listed (awareness : Awareness) : List TaskId :=
  awareness.executedTasks.map ExecutedTask.taskId ++
    awareness.executingTasks.map ExecutingTask.taskId ++
    awareness.pendingTasks.map PendingTask.taskId ++
    awareness.blockedTasks.map BlockedTask.taskId

variable (status : Status) (rendering : Rendering) (ledger : SmartLedger) (bucket : Status → Bool)
  (progress : TaskId → TaskProgress)

theorem mem_withStatus (task : Task) (member : task ∈ ledger.tasks.rows) :
    task.taskId ∈ (ledger.withStatus bucket).map Task.taskId ↔ bucket task.status = true := by
  constructor
  · intro listed
    obtain ⟨other, found, same⟩ := List.mem_map.mp listed
    obtain ⟨present, chosen⟩ := List.mem_filter.mp found
    have first := ledger.tasks.mem_get? other present
    rw [same, ledger.tasks.mem_get? task member] at first
    cases first
    exact chosen
  · intro chosen
    exact List.mem_map_of_mem (List.mem_filter.mpr ⟨member, chosen⟩)

theorem count_withStatus (task : Task) (member : task ∈ ledger.tasks.rows) :
    ((ledger.withStatus bucket).map Task.taskId).count task.taskId =
      (bucket task.status).toNat := by
  have once : ((ledger.withStatus bucket).map Task.taskId).Nodup :=
    ledger.tasks.unique.sublist (List.filter_sublist.map Task.taskId)
  have listed := ledger.mem_withStatus bucket task member
  rw [List.Nodup.count once]
  cases chosen : bucket task.status <;> simp_all

theorem executedTasks_ids :
    ((executedTasks rendering ledger).map ExecutedTask.taskId).Perm
      ((ledger.withStatus isExecuted).map Task.taskId) := by
  have sorted := (List.perm_insertionSort
    (fun a b : ExecutedTask => b.notAfter a = true)
    ((ledger.withStatus isExecuted).map (executedTask rendering))).map ExecutedTask.taskId
  rw [List.map_map] at sorted
  exact sorted

theorem pendingTasks_ids :
    (ledger.pendingTasks.map PendingTask.taskId).Perm
      ((ledger.withStatus fun status => decide (status = .pending)).map Task.taskId) := by
  have sorted := (List.perm_insertionSort
    (fun a b : PendingTask => b.readiness ≤ a.readiness)
    ((ledger.withStatus fun status => decide (status = .pending)).map ledger.pendingTask)).map
      PendingTask.taskId
  rw [List.map_map] at sorted
  exact sorted

theorem executingTasks_ids :
    (ledger.executingTasks progress).map ExecutingTask.taskId =
      (ledger.withStatus isExecuting).map Task.taskId := by
  rw [executingTasks, List.map_map]
  rfl

theorem blockedTasks_ids :
    (blockedTasks rendering ledger).map BlockedTask.taskId =
      (ledger.withStatus isWaiting).map Task.taskId := by
  rw [blockedTasks, List.map_map]
  rfl

def listsNaming (status : Status) : Nat :=
  (isExecuted status).toNat + (isExecuting status).toNat + (decide (status = .pending)).toNat +
    (isWaiting status).toNat

theorem listsNaming_eq_one :
    listsNaming status = 1 ↔
      status ≠ .paused ∧ status ≠ .userStopped ∧ status ≠ .notApplicable := by
  cases status <;> decide

theorem getAwareness_lists {rendering : Rendering} {ledger : SmartLedger}
    {progress : TaskId → TaskProgress} {now : Time} {awareness : Awareness}
    (found : getAwareness rendering ledger progress now = some awareness) :
    awareness.executedTasks = executedTasks rendering ledger ∧
    awareness.executingTasks = ledger.executingTasks progress ∧
    awareness.pendingTasks = ledger.pendingTasks ∧
    awareness.blockedTasks = blockedTasks rendering ledger ∧
    awareness.recommendedAction = ledger.getRecommendedAction awareness.executedTasks
      awareness.executingTasks awareness.pendingTasks awareness.blockedTasks := by
  obtain ⟨hints, _, rfl⟩ := Option.map_eq_some_iff.mp found
  exact ⟨rfl, rfl, rfl, rfl, rfl⟩

theorem count_listed {rendering : Rendering} {ledger : SmartLedger}
    {progress : TaskId → TaskProgress} {now : Time} {awareness : Awareness}
    (found : getAwareness rendering ledger progress now = some awareness) (task : Task)
    (member : task ∈ ledger.tasks.rows) :
    awareness.listed.count task.taskId = listsNaming task.status := by
  obtain ⟨executed, executing, pending, blocked, _⟩ := getAwareness_lists found
  rw [Awareness.listed, executed, executing, pending, blocked, List.count_append,
    List.count_append, List.count_append, (executedTasks_ids rendering ledger).count_eq,
    executingTasks_ids, ledger.pendingTasks_ids.count_eq, blockedTasks_ids,
    ledger.count_withStatus _ task member, ledger.count_withStatus _ task member,
    ledger.count_withStatus _ task member, ledger.count_withStatus _ task member]
  rfl

theorem stalledHints_none (executing : List ExecutingTask) :
    stalledHints executing = none ↔ ∃ row ∈ executing, row.progressPct < 20 := by
  simp [stalledHints]

theorem getAwareness_returns (now : Time) :
    (∃ awareness, getAwareness rendering ledger progress now = some awareness) ↔
      ∀ task ∈ ledger.tasks.rows, isExecuting task.status = true →
        20 ≤ (progress task.taskId).progressPct := by
  have raises : getAwareness rendering ledger progress now = none ↔
      ∃ task ∈ ledger.withStatus isExecuting, (progress task.taskId).progressPct < 20 := by
    rw [getAwareness, Option.map_eq_none_iff, generateExecutionHints, Option.map_eq_none_iff,
      stalledHints_none, executingTasks]
    simp only [List.mem_map, exists_exists_and_eq_and]
    rfl
  rw [← Option.ne_none_iff_exists', ne_eq, raises]
  simp [withStatus]

/-- Only a report with three empty lists says that all is complete. -/
theorem allComplete_empty (executed : List ExecutedTask) (executing : List ExecutingTask)
    (pending : List PendingTask) (blocked : List BlockedTask)
    (complete :
      (ledger.getRecommendedAction executed executing pending blocked).isAllComplete = true) :
    executing = [] ∧ pending = [] ∧ blocked = [] := by
  unfold getRecommendedAction at complete
  split at complete
  · cases complete
  · split at complete
    · cases complete
    · split at complete
      · cases complete
      · split at complete
        · cases complete
        · split at complete
          · cases complete
          · split at complete
            · cases complete
            · exact ⟨rfl, rfl, rfl⟩
            · cases complete
            · cases complete

theorem isTerminal_of_listed (named : listsNaming status = 1) (idle : isExecuting status = false)
    (started : status ≠ .pending) (free : isWaiting status = false) :
    isTerminalState status = true := by
  cases status <;> simp_all [listsNaming, isExecuted, isExecuting, isWaiting, isTerminalState]

theorem allComplete_terminal {rendering : Rendering} {ledger : SmartLedger}
    {progress : TaskId → TaskProgress} {now : Time} {awareness : Awareness}
    (found : getAwareness rendering ledger progress now = some awareness)
    (complete : awareness.recommendedAction.isAllComplete = true) (task : Task)
    (member : task ∈ ledger.tasks.rows) (named : listsNaming task.status = 1) :
    task.isTerminal = true := by
  obtain ⟨_, executing, pending, blocked, action⟩ := getAwareness_lists found
  rw [action] at complete
  obtain ⟨noExecuting, noPending, noBlocked⟩ := ledger.allComplete_empty _ _ _ _ complete
  have unlisted (bucket : Status → Bool) (empty : (ledger.withStatus bucket).map Task.taskId = []) :
      bucket task.status = false := by
    have absent := ledger.mem_withStatus bucket task member
    rw [empty] at absent
    simpa using absent
  apply isTerminal_of_listed task.status named
  · apply unlisted
    rw [← ledger.executingTasks_ids progress, ← executing, noExecuting, List.map_nil]
  · have ids := ledger.pendingTasks_ids
    rw [← pending, noPending] at ids
    simpa using unlisted (fun status => decide (status = .pending)) ids.nil_eq.symm
  · apply unlisted
    rw [← blockedTasks_ids rendering ledger, ← blocked, noBlocked, List.map_nil]

structure LiveLedger where
  ledger : SmartLedger
  progress : TaskId → TaskProgress

inductive LiveCall where
  | call (call : LedgerCall)
  | updateTaskProgress (taskId : TaskId) (progressPct : ℚ) (checkpoint : Option String) (now : Time)
  -- A task object handed in, or read back from storage, has a progress of its own.
  | taskProgress (taskId : TaskId) (progress : TaskProgress)

namespace LiveLedger

def step (live : LiveLedger) : LiveCall → LiveLedger
  | .call call => { live with ledger := live.ledger.perform call }
  | .updateTaskProgress taskId progressPct checkpoint now =>
      match live.ledger.getTask taskId with
      | none => live
      | some _ =>
          { ledger := (live.ledger.updateTaskProgress taskId now).2
            progress := Function.update live.progress taskId
              ((live.progress taskId).update progressPct checkpoint) }
  | .taskProgress taskId progress =>
      { live with progress := Function.update live.progress taskId progress }

/-- An agent that asks is told: the call returns, each task stands in one list, and
"all complete" is said only when nothing is left to do. -/
def Aware (rendering : Rendering) (live : LiveLedger) : Prop :=
  ∀ now, ∃ awareness, getAwareness rendering live.ledger live.progress now = some awareness ∧
    (∀ task ∈ live.ledger.tasks.rows, awareness.listed.count task.taskId = 1) ∧
    (awareness.recommendedAction.isAllComplete = true →
      ∀ task ∈ live.ledger.tasks.rows, task.isTerminal = true)

structure Shown (live : LiveLedger) : Prop where
  listed : ∀ task ∈ live.ledger.tasks.rows,
    task.status ≠ .paused ∧ task.status ≠ .userStopped ∧ task.status ≠ .notApplicable
  underway : ∀ task ∈ live.ledger.tasks.rows, isExecuting task.status = true →
    20 ≤ (live.progress task.taskId).progressPct

theorem aware_iff (rendering : Rendering) (live : LiveLedger) :
    live.Aware rendering ↔ live.Shown := by
  constructor
  · intro aware
    obtain ⟨awareness, found, once, _⟩ := aware 0
    constructor
    · intro task member
      rw [← listsNaming_eq_one, ← count_listed found task member]
      exact once task member
    · exact (getAwareness_returns rendering live.ledger live.progress 0).mp ⟨awareness, found⟩
  · intro shown now
    obtain ⟨awareness, found⟩ :=
      (getAwareness_returns rendering live.ledger live.progress now).mpr shown.underway
    have named (task : Task) (member : task ∈ live.ledger.tasks.rows) :
        listsNaming task.status = 1 :=
      (listsNaming_eq_one task.status).mpr (shown.listed task member)
    refine ⟨awareness, found, ?_, ?_⟩
    · intro task member
      rw [count_listed found task member]
      exact named task member
    · intro complete task member
      exact allComplete_terminal found complete task member (named task member)

theorem always_aware_iff (rendering : Rendering) (verdict : Nat → Verdict)
    (progress : TaskId → TaskProgress) (run : List LiveCall) :
    StepSystem.Always step (Aware rendering) ⟨opened verdict, progress⟩ run ↔
      StepSystem.Always step Shown ⟨opened verdict, progress⟩ run :=
  StepSystem.always_congr step (aware_iff rendering) run _

def begunCalls : List LiveCall :=
  let call (operation : LedgerOperation) (now : Time) : LiveCall :=
    .call ⟨operation, now, sampleHost⟩
  [call (.addTask (Task.create "a" "work" .autonomous 0) false) 1,
    call (.updateTaskStatus "a" { status := .inProgress }) 2]

def heldCalls : List LiveCall :=
  begunCalls ++ [.call ⟨.method "a" (.pause "later"), 3, sampleHost⟩]

def sampleRendering : Rendering where
  isoformat := fun _ => ""
  fixed := fun _ _ => ""
  rounded := id

def idle : LiveLedger := ⟨opened fun _ => .accepted, fun _ => {}⟩

def report (run : List LiveCall) : Option Awareness :=
  let live := StepSystem.final step idle run
  getAwareness sampleRendering live.ledger live.progress 9

/-- The call raises on a task just begun, and on hold the task is in no list while all
is said to be complete. -/
theorem held_task_unseen :
    report begunCalls = none ∧
    (report heldCalls).map Awareness.listed = some [] ∧
    (report heldCalls).map (fun awareness => awareness.recommendedAction.isAllComplete) =
      some true ∧
    (StepSystem.final step idle heldCalls).ledger.tasks.rows.map Task.status = [.paused] ∧
    ¬ StepSystem.Always step (Aware sampleRendering) idle begunCalls ∧
    ¬ StepSystem.Always step (Aware sampleRendering) idle heldCalls := by
  have raises : report begunCalls = none := by decide +kernel
  have unseen : (report heldCalls).map Awareness.listed = some [] := by decide +kernel
  have complete : (report heldCalls).map
      (fun awareness => awareness.recommendedAction.isAllComplete) = some true := by decide +kernel
  have held : (StepSystem.final step idle heldCalls).ledger.tasks.rows.map Task.status =
      [.paused] := by decide +kernel
  refine ⟨raises, unseen, complete, held, ?_, ?_⟩
  · intro aware
    obtain ⟨awareness, found, _⟩ := StepSystem.always_final aware 9
    rw [report, found] at raises
    cases raises
  · intro aware
    obtain ⟨awareness, found, _, terminal⟩ := StepSystem.always_final aware 9
    rw [report, found] at complete
    obtain ⟨task, member, paused⟩ :
        ∃ task ∈ (StepSystem.final step idle heldCalls).ledger.tasks.rows,
          task.status = .paused := by
      have listed : Status.paused ∈
          (StepSystem.final step idle heldCalls).ledger.tasks.rows.map Task.status := by
        exact List.mem_singleton_self _
      exact List.mem_map.mp listed
    have finished := terminal (Option.some.inj complete) task member
    rw [Task.isTerminal, paused] at finished
    cases finished

end LiveLedger

end Hartos.SmartLedger
