import Hartos.CompletionRouting

/-!
The operations that put tasks into the ledger without going through `add_task`,
and the one that takes finished tasks out. Each numbers its ids by a count of
its own; none looks whether the id is taken, and none enters it in `task_order`.
Recipe coordinates are left out.
-/
namespace Hartos.SmartLedger
open TaskStatus KeyedTable

/-- The keyword arguments `create_parent_child_task` hands on to `Task`. -/
structure ChildOptions where
  executionMode : ExecutionMode := .sequential
  prerequisites : List TaskId := []
  context : Context := {}
  priority : Int := 50

def childId (parent : Task) : TaskId := s!"{parent.taskId}_child_{parent.childTaskIds.length + 1}"

variable (ledger : SmartLedger) (classification : Classification) (parentTaskId : TaskId)

def createParentChildTask (childDescription : String) (childType : TaskType)
    (options : ChildOptions) (now : Time) :
    Option Task × SmartLedger :=
  match ledger.getTask parentTaskId with
  | none => (none, ledger)
  | some parent =>
      let child := { Task.create (childId parent) childDescription childType now with
        executionMode := options.executionMode
        prerequisites := options.prerequisites
        context := options.context
        priority := options.priority
        parentTaskId := some parentTaskId }
      let linked := ledger.putTask (parent.addChildTask (childId parent) now)
      (some child, (linked.putTask child).save.2)

def siblingIds (count : Nat) : List TaskId :=
  (List.range count).map fun i => s!"{parentTaskId}_sibling_{i + 1}"

def enterSibling (taskType : TaskType) (now : Time) (ledger : SmartLedger)
    (entry : TaskId × String) : SmartLedger :=
  (ledger.putTask { Task.create entry.1 entry.2 taskType now with
    parentTaskId := some parentTaskId }).modifyTask parentTaskId (·.addChildTask entry.1 now)

def linkSiblings (ids : List TaskId) (now : Time) (ledger : SmartLedger) (id : TaskId) :
    SmartLedger :=
  ledger.modifyTask id fun sibling =>
    (ids.filter (· ≠ id)).foldl (fun task other => task.addSiblingTask other now) sibling

def createSiblingTasks (siblingDescriptions : List String) (taskType : TaskType) (now : Time) :
    List TaskId × SmartLedger :=
  match ledger.getTask parentTaskId with
  | none => ([], ledger)
  | some _ =>
      let ids := siblingIds parentTaskId siblingDescriptions.length
      let entered := (ids.zip siblingDescriptions).foldl
        (enterSibling parentTaskId taskType now) ledger
      let linked := ids.foldl (linkSiblings ids now) entered
      (ids, linked.save.2)

def givenParent (parentTaskId : Option TaskId) : Option TaskId :=
  parentTaskId.filter (· ≠ "")

def sequentialName (parentTaskId : Option TaskId) (position size : Nat) : TaskId :=
  match givenParent parentTaskId with
  | some parent => s!"{parent}_seq_{position}"
  | none => s!"seq_task_{size + 1}"

def sequentialId (parentTaskId : Option TaskId) (position : Nat) : TaskId :=
  sequentialName parentTaskId position ledger.tasks.rows.length

def chainedTask (taskId : TaskId) (description : String) (taskType : TaskType)
    (parentTaskId previousTaskId : Option TaskId) (now : Time) : Task :=
  let task := { Task.create taskId description taskType now with parentTaskId := parentTaskId }
  match previousTaskId with
  | none => task
  | some previous =>
      { (({ task with prerequisites := task.prerequisites ++ [previous] }.addBlockingTask previous
          now).setBlockedReason (some s!"Blocked by prerequisite {previous}") now) with
        pendingReason := some "awaiting_prerequisites" }

def tellPrevious (taskId : TaskId) (previousTaskId : Option TaskId) (now : Time) : SmartLedger :=
  match previousTaskId with
  | none => ledger
  | some previous => ledger.modifyTask previous (·.addDependentTask taskId now)

def enterChained (taskId : TaskId) (description : String) (taskType : TaskType)
    (parentTaskId previousTaskId : Option TaskId) (now : Time) :
    SmartLedger :=
  let told := ledger.tellPrevious taskId previousTaskId now
  let entered := told.putTask
    (chainedTask taskId description taskType parentTaskId previousTaskId now)
  match givenParent parentTaskId with
  | none => entered
  | some parent => entered.modifyTask parent (·.addChildTask taskId now)

def enterSequence (taskType : TaskType) (parentTaskId : Option TaskId) (now : Time) :
    List String → Nat → Option TaskId → SmartLedger → List TaskId × SmartLedger
  | [], _, _, ledger => ([], ledger)
  | description :: rest, position, previousTaskId, ledger =>
      let taskId := ledger.sequentialId parentTaskId position
      let entered := ledger.enterChained taskId description taskType parentTaskId previousTaskId now
      let later := enterSequence taskType parentTaskId now rest (position + 1) (some taskId) entered
      (taskId :: later.1, later.2)

def createSequentialTasks (taskDescriptions : List String) (taskType : TaskType)
    (parentTaskId : Option TaskId) (now : Time) :
    List TaskId × SmartLedger :=
  let entered := enterSequence taskType parentTaskId now taskDescriptions 1 none ledger
  (entered.1, entered.2.save.2)

/-- What the classifier answers. `raw` is the dictionary itself, which the context
keeps; an absent `defer_reason` is the outer `none`, a null one the inner. -/
structure Classification where
  relationship : String := "independent"
  relatedToTaskId : Option TaskId := none
  executionMode : String := "sequential"
  priority : Int := 50
  prerequisites : List TaskId := []
  blockedBy : List TaskId := []
  blockedReason : Option String := none
  condition : Option OutcomeCondition := none
  shouldDelegate : Bool := false
  delegateTo : Option AgentId := none
  delegationType : Option String := none
  defer : Bool := false
  deferUntil : Option Stamp := none
  deferReason : Option (Option String) := none
  scheduledAt : Option String := none
  maxRetries : Int := 3
  canRunParallelWith : List TaskId := []
  raw : Value := .null

/-- The keys of the `context` argument that are read. -/
structure Discovery where
  currentActionId : Option Int := none
  userMessage : String := ""
  discoveredBy : String := "assistant"

def Discovery.currentAction (discovery : Discovery) : Option TaskId :=
  match discovery.currentActionId with
  | none => none
  | some actionId => if actionId = 0 then none else some s!"action_{actionId}"

def isDynamicId (taskId : TaskId) : Bool := "dynamic_".toList.isPrefixOf taskId.toList

def dynamicId : TaskId :=
  s!"dynamic_{(ledger.tasks.keys.filter isDynamicId).length + 1}"

def Classification.outcome : Option OutcomeCondition :=
  classification.condition.filter fun condition => condition.taskId ≠ ""

def Classification.parent (discovery : Discovery) : Option TaskId :=
  if classification.relationship = "child" then
    if nonEmpty classification.relatedToTaskId then classification.relatedToTaskId
    else discovery.currentAction
  else none

def Classification.route (task : Task) (now : Time) : Task :=
  let delegated :=
    if classification.shouldDelegate then
      let marked := { task with
        delegatedTo := classification.delegateTo
        delegatedAt := some now
        delegationType := classification.delegationType }
      let delegate := classification.delegateTo.getD "None"
      (marked.transitionTo .delegated s!"Delegated to {delegate}" now).getD marked
    else task
  let deferred :=
    if classification.defer then
      let marked := { delegated with
        deferredAt := some now
        deferredUntil := classification.deferUntil
        deferredReason := classification.deferReason.join }
      (marked.transitionTo .deferred ((classification.deferReason.getD (some "Deferred")).getD "")
        now).getD marked
    else delegated
  if nonEmpty classification.scheduledAt then
    { deferred with scheduledAt := classification.scheduledAt }
  else deferred

def Classification.created (discovery : Discovery) (taskId : TaskId) (description : String)
    (now : Time) : Task :=
  { Task.create taskId description .autonomous now with
    executionMode := if classification.executionMode = "parallel" then .parallel else .sequential
    prerequisites := classification.prerequisites
    context :=
      { extra := [("discovered_by", .text discovery.discoveredBy),
          ("discovery_context", .text discovery.userMessage), ("classification", classification.raw),
          ("current_action_at_discovery", (discovery.currentAction.map Value.text).getD .null)] }
    priority := classification.priority
    parentTaskId := classification.parent discovery }

def Classification.blocking (task : Task) : Task :=
  if classification.blockedBy = [] then task
  else { task with
    blockedBy := classification.blockedBy
    blockedReason := classification.blockedReason
    pendingReason := some "awaiting_prerequisites" }

def Classification.conditional (relatedPresent : Bool) (task : Task) : Task :=
  let related := if relatedPresent then classification.relatedToTaskId.toList else []
  { task with
    maxRetries := classification.maxRetries
    siblingTaskIds := related ++ classification.canRunParallelWith
    context := { task.context with dependsOnOutcome := classification.outcome }
    prerequisites := match classification.outcome with
      | none => task.prerequisites
      | some condition =>
          if condition.taskId ∈ task.prerequisites then task.prerequisites
          else task.prerequisites ++ [condition.taskId] }

def settlePendingReason (task : Task) : Task :=
  if task.status = .pending then
    { task with
      pendingReason := some (if task.prerequisites = [] then "ready"
        else "awaiting_prerequisites") }
  else task

def Classification.task (discovery : Discovery) (taskId : TaskId) (description : String)
    (relatedPresent : Bool) (now : Time) : Task :=
  let created := classification.created discovery taskId description now
  let routed := classification.route (classification.blocking created) now
  settlePendingReason (classification.conditional relatedPresent routed)

def relatedSibling : Option TaskId :=
  if classification.relationship = "sibling" then
    classification.relatedToTaskId.filter fun id => id ≠ "" && (ledger.getTask id).isSome
  else none

def appendLink (id : TaskId) (ids : List TaskId) : List TaskId :=
  if id ∈ ids then ids else ids ++ [id]

def registerDependent (taskId : TaskId) (ledger : SmartLedger) (prerequisiteId : TaskId) :
    SmartLedger :=
  ledger.modifyTask prerequisiteId fun task =>
    { task with dependentTaskIds := appendLink taskId task.dependentTaskIds }

def awaitChild (host : Host) (ledger : SmartLedger) (parentTaskId : Option TaskId)
    (taskId : TaskId) (taskDescription : String) (now : Time) : SmartLedger :=
  match parentTaskId.filter fun id => id ≠ "" && (ledger.getTask id).isSome with
  | none => ledger
  | some parentId =>
      let linked := ledger.modifyTask parentId fun t =>
        { t with childTaskIds := appendLink taskId t.childTaskIds }
      match linked.getTask parentId with
      | none => linked
      | some waiting =>
          if waiting.status = .blocked ∨ waiting.status = .completed then linked
          else
            (linked.updateTaskStatus host parentId
              { status := .blocked
                errorMessage := some s!"Waiting for child task: {taskDescription}" } now).2

def addDynamicTask (host : Host) (ledger : SmartLedger) (taskDescription : String)
    (discovery : Discovery) (classification : Classification) (now : Time) :
    Task × SmartLedger :=
  let taskId := ledger.dynamicId
  let related := ledger.relatedSibling classification
  let task := classification.task discovery taskId taskDescription related.isSome now
  let told := match related with
    | none => ledger
    | some id => ledger.modifyTask id fun other =>
        { other with siblingTaskIds := other.siblingTaskIds ++ [taskId] }
  let wired := task.prerequisites.foldl (registerDependent taskId) told
  let saved := (wired.putTask task).save.2
  (task, saved.awaitChild host task.parentTaskId taskId taskDescription now)

structure SubtaskSpec where
  subtaskId : Option TaskId := none
  description : String := "Subtask"
  dependsOn : List TaskId := []

def actionTaskId (actionId : Int) : TaskId := s!"action_{actionId}"

def subtaskName (parentActionId : Int) (subtask : SubtaskSpec) (size : Nat) : TaskId :=
  subtask.subtaskId.getD s!"{parentActionId}.{size}"

def subtaskId (parentActionId : Int) (subtask : SubtaskSpec) : TaskId :=
  subtaskName parentActionId subtask ledger.tasks.rows.length

def enterSubtask (parentActionId : Int) (now : Time) (ledger : SmartLedger)
    (subtask : SubtaskSpec) : SmartLedger :=
  ledger.putTask
    { Task.create (ledger.subtaskId parentActionId subtask) subtask.description .autonomous now with
      parentTaskId := some (actionTaskId parentActionId)
      prerequisites := subtask.dependsOn.foldl (fun ids id => appendLink id ids) [] }

def addSubtasks (parentActionId : Int) (subtasks : List SubtaskSpec) (now : Time) :
    Bool × SmartLedger :=
  let parentTaskId := actionTaskId parentActionId
  match ledger.getTask parentTaskId with
  | none => (false, ledger)
  | some _ =>
      let entered := subtasks.foldl (enterSubtask parentActionId now) ledger
      -- The parent is looked up again: a subtask may have taken its id.
      let waiting := entered.modifyTask parentTaskId fun parent =>
        (parent.transitionTo .blocked s!"Waiting for {subtasks.length} subtasks to complete"
          now).getD parent
      (true, waiting.save.2)

def completedIds : List TaskId :=
  (ledger.tasks.rows.filter fun task => task.status = .completed).map Task.taskId

def clearCompletedTasks : SmartLedger :=
  ({ ledger with tasks := ledger.completedIds.foldl Table.erase ledger.tasks }).save.2

end Hartos.SmartLedger
