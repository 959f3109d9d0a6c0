import Hartos.TaskStatus
import Mathlib.Data.Rat.Defs
import Mathlib.Data.List.Basic

/-!
A task as the ledger stores it: the whole record, the dictionary `to_dict` makes of
it and the reading `from_dict` gives back. Fields that code outside fills are left
as the JSON values they hold. A dictionary is the list of its items in order.
-/
namespace Hartos
open TaskStatus

inductive Json where
  | null
  | bool (flag : Bool)
  | number (n : ℚ)
  | text (s : String)
  | array (items : List Json)
  | object (fields : List (String × Json))

namespace Json

def truthy : Json → Bool
  | .null => false
  | .bool flag => flag
  | .number n => n ≠ 0
  | .text s => s ≠ ""
  | .array items => !items.isEmpty
  | .object fields => !fields.isEmpty

def orElse (value default : Json) : Json := if value.truthy then value else default

end Json

abbrev Fields := List (String × Json)

namespace Fields

def get (fields : Fields) (name : String) : Json := (fields.lookup name).getD .null

def getD (fields : Fields) (name : String) (default : Json) : Json :=
  (fields.lookup name).getD default

end Fields

namespace TaskStatus

def TaskType.value : TaskType → String
  | .preAssigned => "pre_assigned"
  | .autonomous => "autonomous"
  | .userRequested => "user_requested"
  | .intermediate => "intermediate"

def ExecutionMode.value : ExecutionMode → String
  | .parallel => "parallel"
  | .sequential => "sequential"

/-- `TaskType(...)`: the member with this value, or `ValueError`. -/
def TaskType.ofJson : Json → Option TaskType
  | .text s => [preAssigned, autonomous, userRequested, intermediate].find? (·.value = s)
  | _ => none

def ExecutionMode.ofJson : Json → Option ExecutionMode
  | .text s => [parallel, sequential].find? (·.value = s)
  | _ => none

def Status.ofJson : Json → Option Status
  | .text s =>
      [pending, deferred, inProgress, delegated, paused, userStopped, blocked, completed, failed,
        cancelled, terminated, skipped, notApplicable, rolledBack, resuming].find? (·.value = s)
  | _ => none

end TaskStatus

structure TaskRecord where
  taskId : Json
  description : Json
  taskType : TaskType
  executionMode : ExecutionMode := .sequential
  status : Status := .pending
  prerequisites : Json := .array []
  context : Json := .object []
  priority : Json := .number 50
  parentTaskId : Json := .null
  createdAt : Json
  updatedAt : Json
  completedAt : Json := .null
  errorMessage : Json := .null
  result : Json := .null
  stateHistory : Json
  pausedAt : Json := .null
  resumedAt : Json := .null
  pauseCount : Json := .number 0
  stopReason : Json := .null
  terminationReason : Json := .null
  childTaskIds : Json := .array []
  siblingTaskIds : Json := .array []
  dependentTaskIds : Json := .array []
  messagesToDependents : Json := .array []
  receivedMessages : Json := .array []
  blockedBy : Json := .array []
  blockedReason : Json := .null
  failureReason : Json := .null
  pendingReason : Json := .null
  delegatedTo : Json := .null
  delegatedAt : Json := .null
  delegationType : Json := .null
  delegationResult : Json := .null
  deferredAt : Json := .null
  deferredUntil : Json := .null
  deferredReason : Json := .null
  scheduledAt : Json := .null
  retryCount : Json := .number 0
  maxRetries : Json := .number 3
  lastRetryAt : Json := .null
  retryErrors : Json := .array []
  progressPct : Json := .number 0
  checkpoints : Json := .array []
  rolledBackAt : Json := .null
  rollbackReason : Json := .null
  originalResult : Json := .null
  ownerNodeId : Json := .null
  ownerUserId : Json := .null
  ownerPromptId : Json := .null
  ownedAt : Json := .null
  ownershipHistory : Json := .array []
  recipePromptId : Json := .null
  recipeFlowId : Json := .null
  recipeActionId : Json := .null
  timeBudgetS : Json := .null
  sparkBudget : Json := .null
  computeRequirements : Json := .object []
  timeoutS : Json := .null
  startedAt : Json := .null
  sparkSpent : Json := .number 0
  timeSpentS : Json := .number 0
  deadline : Json := .null
  slaTargetS : Json := .null
  slaBreached : Json := .bool false
  lastHeartbeatAt : Json := .null
  heartbeatIntervalS : Json := .number 30
  statusMessages : Json := .array []
  locality : Json := .text "global"
  sensitivity : Json := .text "public"
  dataHash : Json := .null
  resultHash : Json := .null
  -- What the constructor makes of a falsy argument.
  prerequisitesKept : prerequisites.orElse (.array []) = prerequisites
  contextKept : context.orElse (.object []) = context

namespace TaskRecord

theorem orElse_kept (value default : Json) :
    (value.orElse default).orElse default = value.orElse default := by
  unfold Json.orElse
  split <;> simp_all

def init (taskId description : Json) (taskType : TaskType) (executionMode : ExecutionMode)
    (status : Status) (prerequisites context priority parentTaskId : Json) (now : String) :
    TaskRecord where
  taskId := taskId
  description := description
  taskType := taskType
  executionMode := executionMode
  status := status
  prerequisites := prerequisites.orElse (.array [])
  context := context.orElse (.object [])
  priority := priority
  parentTaskId := parentTaskId
  createdAt := .text now
  updatedAt := .text now
  stateHistory := .array [.object [("status", .text status.value), ("timestamp", .text now),
    ("reason", .text "Task created")]]
  prerequisitesKept := orElse_kept prerequisites _
  contextKept := orElse_kept context _

def toDict (task : TaskRecord) : Fields :=
  [("task_id", task.taskId), ("description", task.description),
   ("task_type", .text task.taskType.value), ("execution_mode", .text task.executionMode.value),
   ("status", .text task.status.value), ("prerequisites", task.prerequisites),
   ("context", task.context), ("priority", task.priority), ("parent_task_id", task.parentTaskId),
   ("created_at", task.createdAt), ("updated_at", task.updatedAt),
   ("completed_at", task.completedAt), ("error_message", task.errorMessage),
   ("result", task.result), ("state_history", task.stateHistory), ("paused_at", task.pausedAt),
   ("resumed_at", task.resumedAt), ("pause_count", task.pauseCount),
   ("stop_reason", task.stopReason), ("termination_reason", task.terminationReason),
   ("child_task_ids", task.childTaskIds), ("sibling_task_ids", task.siblingTaskIds),
   ("dependent_task_ids", task.dependentTaskIds),
   ("messages_to_dependents", task.messagesToDependents),
   ("received_messages", task.receivedMessages), ("blocked_by", task.blockedBy),
   ("blocked_reason", task.blockedReason), ("failure_reason", task.failureReason),
   ("pending_reason", task.pendingReason), ("delegated_to", task.delegatedTo),
   ("delegated_at", task.delegatedAt), ("delegation_type", task.delegationType),
   ("delegation_result", task.delegationResult), ("deferred_at", task.deferredAt),
   ("deferred_until", task.deferredUntil), ("deferred_reason", task.deferredReason),
   ("scheduled_at", task.scheduledAt), ("retry_count", task.retryCount),
   ("max_retries", task.maxRetries), ("last_retry_at", task.lastRetryAt),
   ("retry_errors", task.retryErrors), ("progress_pct", task.progressPct),
   ("checkpoints", task.checkpoints), ("rolled_back_at", task.rolledBackAt),
   ("rollback_reason", task.rollbackReason), ("original_result", task.originalResult),
   ("owner_node_id", task.ownerNodeId), ("owner_user_id", task.ownerUserId),
   ("owner_prompt_id", task.ownerPromptId), ("owned_at", task.ownedAt),
   ("ownership_history", task.ownershipHistory), ("recipe_prompt_id", task.recipePromptId),
   ("recipe_flow_id", task.recipeFlowId), ("recipe_action_id", task.recipeActionId),
   ("time_budget_s", task.timeBudgetS), ("spark_budget", task.sparkBudget),
   ("compute_requirements", task.computeRequirements), ("timeout_s", task.timeoutS),
   ("started_at", task.startedAt), ("spark_spent", task.sparkSpent),
   ("time_spent_s", task.timeSpentS), ("deadline", task.deadline),
   ("sla_target_s", task.slaTargetS), ("sla_breached", task.slaBreached),
   ("last_heartbeat_at", task.lastHeartbeatAt),
   ("heartbeat_interval_s", task.heartbeatIntervalS), ("status_messages", task.statusMessages),
   ("locality", task.locality), ("sensitivity", task.sensitivity), ("data_hash", task.dataHash),
   ("result_hash", task.resultHash)]

def fromDict (data : Fields) (now : String) : Option TaskRecord := do
  let taskId ← data.lookup "task_id"
  let description ← data.lookup "description"
  let taskType ← (data.lookup "task_type").bind TaskType.ofJson
  let executionMode ← (data.lookup "execution_mode").bind ExecutionMode.ofJson
  let status ← (data.lookup "status").bind Status.ofJson
  let task := init taskId description taskType executionMode status
    (data.getD "prerequisites" (.array [])) (data.getD "context" (.object []))
    (data.getD "priority" (.number 50)) (data.get "parent_task_id") now
  return { task with
    createdAt := data.getD "created_at" task.createdAt
    updatedAt := data.getD "updated_at" task.updatedAt
    completedAt := data.get "completed_at"
    errorMessage := data.get "error_message"
    result := data.get "result"
    stateHistory := data.getD "state_history" task.stateHistory
    pausedAt := data.get "paused_at"
    resumedAt := data.get "resumed_at"
    pauseCount := data.getD "pause_count" (.number 0)
    stopReason := data.get "stop_reason"
    terminationReason := data.get "termination_reason"
    childTaskIds := data.getD "child_task_ids" (.array [])
    siblingTaskIds := data.getD "sibling_task_ids" (.array [])
    dependentTaskIds := data.getD "dependent_task_ids" (.array [])
    messagesToDependents := data.getD "messages_to_dependents" (.array [])
    receivedMessages := data.getD "received_messages" (.array [])
    blockedBy := data.getD "blocked_by" (.array [])
    blockedReason := data.get "blocked_reason"
    failureReason := data.get "failure_reason"
    pendingReason := data.get "pending_reason"
    delegatedTo := data.get "delegated_to"
    delegatedAt := data.get "delegated_at"
    delegationType := data.get "delegation_type"
    delegationResult := data.get "delegation_result"
    deferredAt := data.get "deferred_at"
    deferredUntil := data.get "deferred_until"
    deferredReason := data.get "deferred_reason"
    scheduledAt := data.get "scheduled_at"
    retryCount := data.getD "retry_count" (.number 0)
    maxRetries := data.getD "max_retries" (.number 3)
    lastRetryAt := data.get "last_retry_at"
    retryErrors := data.getD "retry_errors" (.array [])
    progressPct := data.getD "progress_pct" (.number 0)
    checkpoints := data.getD "checkpoints" (.array [])
    rolledBackAt := data.get "rolled_back_at"
    rollbackReason := data.get "rollback_reason"
    originalResult := data.get "original_result"
    ownerNodeId := data.get "owner_node_id"
    ownerUserId := data.get "owner_user_id"
    ownerPromptId := data.get "owner_prompt_id"
    ownedAt := data.get "owned_at"
    ownershipHistory := data.getD "ownership_history" (.array [])
    recipePromptId := data.get "recipe_prompt_id"
    recipeFlowId := data.get "recipe_flow_id"
    recipeActionId := data.get "recipe_action_id"
    timeBudgetS := data.get "time_budget_s"
    sparkBudget := data.get "spark_budget"
    computeRequirements := data.getD "compute_requirements" (.object [])
    timeoutS := data.get "timeout_s"
    startedAt := data.get "started_at"
    sparkSpent := data.getD "spark_spent" (.number 0)
    timeSpentS := data.getD "time_spent_s" (.number 0)
    deadline := data.get "deadline"
    slaTargetS := data.get "sla_target_s"
    slaBreached := data.getD "sla_breached" (.bool false)
    lastHeartbeatAt := data.get "last_heartbeat_at"
    heartbeatIntervalS := data.getD "heartbeat_interval_s" (.number 30)
    statusMessages := data.getD "status_messages" (.array [])
    locality := data.getD "locality" (.text "global")
    sensitivity := data.getD "sensitivity" (.text "public")
    dataHash := data.get "data_hash"
    resultHash := data.get "result_hash" }

theorem read_cons (key wanted : String) (value : Json) (rest : Fields) :
    List.lookup wanted ((key, value) :: rest) =
      if wanted = key then some value else List.lookup wanted rest := by
  by_cases same : wanted = key
  · simp [same]
  · have differ : (wanted == key) = false := by simpa using same
    simp [List.lookup_cons, differ, same]

theorem type_read (taskType : TaskType) :
    TaskType.ofJson (.text taskType.value) = some taskType := by
  cases taskType <;> decide +kernel

theorem mode_read (mode : ExecutionMode) : ExecutionMode.ofJson (.text mode.value) = some mode := by
  cases mode <;> decide +kernel

theorem status_read (status : Status) : Status.ofJson (.text status.value) = some status := by
  cases status <;> decide +kernel

variable (task : TaskRecord) (now : String)

/-- Every field written is read back under the same name. -/
theorem fromDict_toDict : fromDict task.toDict now = some task := by
  simp [fromDict, toDict, read_cons, Fields.get, Fields.getD, init, type_read, mode_read,
    status_read, task.prerequisitesKept, task.contextKept]

theorem toDict_fromDict : (fromDict task.toDict now).map toDict = some task.toDict := by
  rw [fromDict_toDict, Option.map_some]

end TaskRecord

end Hartos
