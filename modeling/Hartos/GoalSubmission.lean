import Hartos.CoordinatorSteps

/-!
`submit_goal`: a parent and its children staged in memory and committed by one
save. A goal that is already in the ledger is dispatched again instead: its
tasks are healed, re-stamped, re-armed and released, and no task is added.
-/
namespace Hartos
open TaskStatus KeyedTable

def hiveDepth : Int := 3

def hiveWorkerCapabilities : List String :=
  ["marketing", "news", "finance", "revenue", "coding", "ip_protection", "provision", "vision"]

structure TaskDefinition where
  taskId : Option TaskId := none
  description : Option String
  capabilities : Option (List String) := none
  deriving DecidableEq

inductive GoalError where
  | badHop
  | hiveDepthExceeded (hop : Int)
  | couldNotStage (taskId : TaskId)
  | couldNotStart
  | missingDescription
  | couldNotPersist
  | baselineRaised
  deriving DecidableEq

inductive GoalOutcome where
  | returned
  | raised (error : GoalError)
  deriving DecidableEq

namespace SmartLedger
variable (ledger : SmartLedger) (goalId : TaskId) (host : Host)

def childTaskIdsOf : List TaskId :=
  match ledger.getTask goalId with
  | none => []
  | some parent => parent.childTaskIds

def unofferedGoalType (goalType : Option String) (demanded : List String) : Bool :=
  match goalType with
  | none => false
  | some name => name ≠ "" ∧ name ∈ demanded ∧ name ∉ hiveWorkerCapabilities

def demandsGoalType (child : Task) : Bool :=
  child.status = .pending ∧ nonEmpty child.context.claimedBy = false ∧
    unofferedGoalType child.context.goalType (child.context.capabilitiesRequired.getD [])

def dropGoalType (child : Task) : Task :=
  { child with
    context := { child.context with
      capabilitiesRequired := some ((child.context.capabilitiesRequired.getD []).filter
        (some · ≠ child.context.goalType)) } }

def healChild (state : Snapshots × SmartLedger) (childId : TaskId) : Snapshots × SmartLedger :=
  match state.2.getTask childId with
  | none => state
  | some child =>
      if demandsGoalType child then (state.1 ++ [child], state.2.putTask (dropGoalType child))
      else state

def commitChanges (changed : Snapshots × SmartLedger) : Nat × SmartLedger :=
  if changed.1.isEmpty then (0, changed.2)
  else
    let committed := changed.2.commitDeferred changed.1 []
    (if committed.1 then changed.1.length else 0, committed.2)

def healGoalTypeDemands : Nat × SmartLedger :=
  commitChanges ((ledger.childTaskIdsOf goalId).foldl healChild ([], ledger))

def requesterKeys (context : Context) : Context :=
  { userId := context.userId, sourceNode := context.sourceNode }

def staleRequester (wanted : Context) (task : Task) : Bool :=
  (wanted.userId ≠ none ∧ task.context.userId ≠ wanted.userId) ∨
    (wanted.sourceNode ≠ none ∧ task.context.sourceNode ≠ wanted.sourceNode)

def restamp (wanted : Context) (task : Task) : Task :=
  { task with context := task.context.update wanted }

def refreshRequester (context : Context) : Nat × SmartLedger :=
  let wanted := requesterKeys context
  let stale := ((goalId :: ledger.childTaskIdsOf goalId).filterMap ledger.getTask).filter
    (staleRequester wanted)
  commitChanges (stale,
    stale.foldl (fun current task => current.putTask (restamp wanted task)) ledger)

def rearm (task : Task) : Task :=
  { task with
    context := { task.context with
      resultHash := none
      lastResultHash :=
        if nonEmpty task.context.resultHash then task.context.resultHash
        else task.context.lastResultHash
      claimedBy := none
      claimedAt := none
      runs := some (task.context.runs.getD 0 + 1) } }

def reopenChildren (now : Time) : List TaskId → SmartLedger → Bool × SmartLedger
  | [], ledger => (true, ledger)
  | childId :: rest, ledger =>
      let reopened := ledger.reopenTask childId "continuous goal: re-armed for its next run" true now
      if reopened.1 then reopenChildren now rest (reopened.2.modifyTask childId rearm)
      else (false, reopened.2)

def reopenFinishedRun (now : Time) : Nat × SmartLedger :=
  let childIds := ledger.childTaskIdsOf goalId
  if childIds.isEmpty ∨ ¬ childIds.all fun childId =>
      (ledger.getTask childId).any fun child => child.status = .completed then (0, ledger)
  else
    let snapshots := childIds.filterMap ledger.getTask
    let reopened := reopenChildren now childIds ledger
    if reopened.1 then commitChanges (snapshots, reopened.2)
    else (0, reopened.2.restoreSnapshots snapshots)

def heldForHelp (task : Task) : Bool :=
  task.status = .blocked ∧ task.blockedReason = some BlockedReason.inputRequired.value

def releaseHeld : StatusUpdate where
  status := .pending
  reason := some "the goal was dispatched again: the help it asked for is in"
  deferSave := true

def unhold (now : Time) (task : Task) : Task :=
  { task.setBlockedReason none now with
    errorMessage := none
    startedAt := none
    context := { task.context with
      claimedBy := none
      claimedAt := none
      runs := some (task.context.runs.getD 0 + 1) } }

def releaseChildren (host : Host) (now : Time) : List Task → SmartLedger → Bool × SmartLedger
  | [], ledger => (true, ledger)
  | child :: rest, ledger =>
      let update := ledger.updateTaskStatus host child.taskId releaseHeld now
      if update.1 then
        releaseChildren host now rest (update.2.modifyTask child.taskId (unhold now))
      else (false, update.2)

def releaseHeldTasks (ledger : SmartLedger) (goalId : TaskId) (now : Time) : Nat × SmartLedger :=
  let candidates := ((ledger.childTaskIdsOf goalId).filterMap ledger.getTask).filter heldForHelp
  let released := releaseChildren host now candidates ledger
  if released.1 then
    commitChanges (candidates, released.2)
  else (0, released.2.restoreSnapshots candidates)

def redispatchGoal (ledger : SmartLedger) (context : Context) (goalId : TaskId) (now : Time) :
    SmartLedger :=
  let healed := (ledger.healGoalTypeDemands goalId).2
  let refreshed := (healed.refreshRequester goalId context).2
  let reopened :=
    if context.continuous = some true then (refreshed.reopenFinishedRun goalId now).2 else refreshed
  (reopened.releaseHeldTasks host goalId now).2

def goalTask (objective : String) (context : Context) (now : Time) : Task :=
  { Task.create goalId s!"[GOAL] {objective}" .preAssigned now with
    context := Context.update { objective := some objective } context }

def childTask (goalId childId : TaskId) (description : String) (capabilities : Option (List String))
    (context : Context) (now : Time) : Task :=
  { Task.create childId description .autonomous now with
    context := Context.update { capabilitiesRequired := some (capabilities.getD []) } context
    parentTaskId := some goalId }

def childIdOf (size : Nat) (definition : TaskDefinition) : TaskId :=
  definition.taskId.getD s!"{goalId}_sub_{size}"

def addChildId (childId : TaskId) (parent : Task) : Task :=
  { parent with childTaskIds := parent.childTaskIds ++ [childId] }

inductive Staging where
  | staged
  | missingDescription
  | collision (childId : TaskId)
  deriving DecidableEq

def stageChildren (goalId : TaskId) (context : Context) (now : Time) :
    List TaskDefinition → List TaskId → SmartLedger → Staging × List TaskId × SmartLedger
  | [], added, ledger => (.staged, added, ledger)
  | definition :: rest, added, ledger =>
      let childId := childIdOf goalId ledger.tasks.rows.length definition
      match definition.description with
      | none => (.missingDescription, added, ledger)
      | some description =>
          match ledger.insertTask
              (childTask goalId childId description definition.capabilities context now) with
          | none => (.collision childId, added, ledger)
          | some inserted =>
              stageChildren goalId context now rest (added ++ [childId])
                (inserted.modifyTask goalId (addChildId childId))

/-- `create_snapshot`, whose write goes to a key of its own and may raise. -/
def baselineSnapshot : Bool × SmartLedger :=
  (decide (ledger.backend.next ≠ .raised),
    { ledger with backend := { ledger.backend with writes := ledger.backend.writes + 1 } })

/-- `int(context.get("hop", 0) or 0)`; `none` is a ValueError. -/
def readHop (context : Context) : Option Int :=
  match context.hop with
  | none => some 0
  | some (.number hop) => some hop
  | some (.unreadable text) => if text = "" then some 0 else none

def finishGoal (staging : Staging × List TaskId × SmartLedger) : GoalOutcome × SmartLedger :=
  let added := staging.2.1
  let ledger := staging.2.2
  match staging.1 with
  -- The one exit of the staging loop that keeps what was staged.
  | .missingDescription => (.raised .missingDescription, ledger)
  | .collision childId => (.raised (.couldNotStage childId), ledger.discardAddedTasks added)
  | .staged =>
      let committed := ledger.commitDeferred [] added
      if committed.1 then
        let baseline := committed.2.baselineSnapshot
        (if baseline.1 then .returned else .raised .baselineRaised, baseline.2)
      else (.raised .couldNotPersist, committed.2)

def stageGoal (ledger : SmartLedger) (objective : String) (definitions : List TaskDefinition)
    (context : Context) (goalId : TaskId) (now : Time) :
    GoalOutcome × SmartLedger :=
  match ledger.insertTask (goalTask goalId objective context now) with
  | none => (.raised (.couldNotStage goalId), ledger)
  | some inserted =>
      let started := inserted.updateTaskStatus host goalId
        { status := .inProgress, deferSave := true } now
      if started.1 then
        finishGoal (stageChildren goalId context now definitions [goalId] started.2)
      else (.raised .couldNotStart, started.2.discardAddedTasks [goalId])

/-- `submit_goal` for the id the caller gives or, without one, a minted one. -/
def submitGoal (ledger : SmartLedger) (objective : String) (definitions : List TaskDefinition)
    (context : Context) (goalId : TaskId) (now : Time) :
    GoalOutcome × SmartLedger :=
  if goalId ∈ ledger.tasks.keys then (.returned, ledger.redispatchGoal host context goalId now)
  else match readHop context with
    | none => (.raised .badHop, ledger)
    | some hop =>
        if hop ≥ hiveDepth then (.raised (.hiveDepthExceeded hop), ledger)
        else
          ledger.stageGoal host objective definitions { context with hop := some (.number hop) }
            goalId now

end SmartLedger

end Hartos
