import Hartos.SmartLedger
import Mathlib.Logic.Function.Basic

/-!
The action lifecycle of the hooks module and its projection onto the agent
ledger. Each action has a state of its own; `set_action_state` checks the move
against the action table, writes the projected status to the ledger task
`action_<id>`, and only then takes the new state. The audit record, the event
bus, the consent check and the telemetry that follow decide nothing and are left
out with the log lines.
-/
namespace Hartos.Lifecycle
open Hartos.TaskStatus

inductive ActionState where
  | assigned | inProgress | statusVerificationRequested | completed | pending | error
  | fallbackRequested | fallbackReceived | recipeRequested | recipeReceived | terminated
  | executingMotion | sensorConfirm | previewPending | previewApproved | gaveUp
  deriving DecidableEq

def ActionState.value : ActionState → String
  | .assigned => "assigned"
  | .inProgress => "in_progress"
  | .statusVerificationRequested => "status_verification_requested"
  | .completed => "completed"
  | .pending => "pending"
  | .error => "error"
  | .fallbackRequested => "fallback_requested"
  | .fallbackReceived => "fallback_received"
  | .recipeRequested => "recipe_requested"
  | .recipeReceived => "recipe_received"
  | .terminated => "terminated"
  | .executingMotion => "executing_motion"
  | .sensorConfirm => "sensor_confirm"
  | .previewPending => "preview_pending"
  | .previewApproved => "preview_approved"
  | .gaveUp => "gave_up"

def stateMap : ActionState → Status
  | .assigned => .pending
  | .inProgress => .inProgress
  | .statusVerificationRequested => .inProgress
  | .completed => .completed
  | .pending => .blocked
  | .error => .failed
  | .fallbackRequested => .blocked
  | .fallbackReceived => .inProgress
  | .recipeRequested => .inProgress
  | .recipeReceived => .completed
  | .terminated => .completed
  | .gaveUp => .failed
  | .executingMotion => .inProgress
  | .sensorConfirm => .inProgress
  | .previewPending => .blocked
  | .previewApproved => .inProgress

/-- The table inside `validate_state_transition`. Two states have no row. -/
def actionTransitions : ActionState → List ActionState
  | .assigned => [.inProgress, .assigned, .previewPending]
  | .inProgress => [.statusVerificationRequested, .inProgress, .error, .pending]
  | .statusVerificationRequested => [.completed, .pending, .error, .statusVerificationRequested]
  | .completed => [.fallbackRequested, .recipeRequested, .terminated, .completed]
  | .pending => [.completed, .error, .pending, .inProgress]
  | .error => [.inProgress, .pending, .error, .fallbackRequested, .recipeRequested, .terminated]
  | .fallbackRequested => [.fallbackReceived, .fallbackRequested]
  | .fallbackReceived => [.recipeRequested, .fallbackReceived]
  | .recipeRequested => [.recipeReceived, .recipeRequested, .fallbackRequested, .terminated, .error]
  | .recipeReceived => [.terminated, .recipeReceived]
  | .terminated => [.assigned, .recipeRequested]
  | .gaveUp => [.assigned, .recipeRequested, .gaveUp]
  | .previewPending => [.previewApproved, .error, .terminated]
  | .previewApproved => [.inProgress]
  | .executingMotion | .sensorConfirm => []

/-- `validate_state_transition`, with the current state read by the caller. -/
def validateStateTransition (currentState newState : ActionState) : Bool :=
  -- Giving up is open to every action that is neither verified nor finished.
  if newState = .gaveUp ∧
      currentState ∉ [ActionState.completed, .recipeReceived, .terminated, .gaveUp] then true
  else decide (newState ∈ actionTransitions currentState)

structure OwnershipEntry where
  action : String
  nodeId : Option String
  userId : Option String
  promptId : Option String
  timestamp : Time
  deriving DecidableEq

structure StatusMessage where
  message : String
  timestamp : Time
  deriving DecidableEq

structure Tracking where
  ownerNodeId : Option String := none
  ownerUserId : Option String := none
  ownerPromptId : Option String := none
  ownedAt : Option Time := none
  ownershipHistory : List OwnershipEntry := []
  lastHeartbeatAt : Option Time := none
  deadline : Option Stamp := none
  slaTarget : Option Time := none
  slaBreached : Bool := false
  statusMessages : List StatusMessage := []
  timeSpent : Time := 0
  deriving DecidableEq

namespace Tracking
variable (tracking : Tracking)

def isOwned : Bool :=
  SmartLedger.nonEmpty tracking.ownerNodeId || SmartLedger.nonEmpty tracking.ownerUserId

def claim (nodeId userId promptId : Option String) (now : Time) : Tracking :=
  if tracking.isOwned then tracking else
    { tracking with
      ownerNodeId := nodeId
      ownerUserId := userId
      ownerPromptId := promptId
      ownedAt := some now
      ownershipHistory := tracking.ownershipHistory ++ [⟨"claimed", nodeId, userId, promptId, now⟩] }

def release (now : Time) : Tracking :=
  if tracking.isOwned then
    { tracking with
      ownershipHistory := tracking.ownershipHistory ++
        [⟨"released", tracking.ownerNodeId, tracking.ownerUserId, tracking.ownerPromptId, now⟩]
      ownerNodeId := none
      ownerUserId := none
      ownerPromptId := none
      ownedAt := none }
  else tracking

def heartbeat (now : Time) : Tracking :=
  { tracking with lastHeartbeatAt := some now }

def postStatus (message : String) (now : Time) : Tracking :=
  let messages := tracking.statusMessages ++ [⟨message, now⟩]
  { tracking with
    lastHeartbeatAt := some now
    statusMessages := messages.drop (messages.length - 50) }

def isSlaBreached (startedAt : Option Time) (now : Time) : Option Bool :=
  let late := match tracking.slaTarget, startedAt with
    | some target, some started => decide (target ≠ 0 ∧ now - started > target)
    | _, _ => false
  match tracking.deadline with
  | some (.unreadable text) => if text = "" then some late else none
  | some (.at deadline) => some (decide (now > deadline) || late)
  | none => some late

/-- The bookkeeping after a committed write. It runs under a handler of its own:
an unreadable deadline costs what comes after it and nothing else. -/
def bookkeep (ledgerStatus : Status) (startedAt : Option Time) (now : Time)
    (tracking : Tracking) : Tracking :=
  let alive := tracking.heartbeat now
  match alive.isSlaBreached startedAt now with
  | none => alive
  | some breached =>
      let flagged :=
        if breached ∧ alive.slaBreached = false then
          { alive with slaBreached := true }.postStatus
            "SLA breached — requesting status update from agent" now
        else alive
      if isTerminalState ledgerStatus ∧ flagged.isOwned then
        { flagged with
          timeSpent := flagged.timeSpent +
            match startedAt with
            | some started => now - started
            | none => 0 }.release now
      else flagged

end Tracking

abbrev UserPrompt := String

/-- The module's registries. `nodeId` is this machine's name; the counters are
`_MASKED_FAILURE_STATE`. -/
structure Hooks where
  actionStates : UserPrompt → Int → Option ActionState
  ledgerRegistry : UserPrompt → Option SmartLedger
  tracking : UserPrompt → TaskId → Tracking
  nodeId : String
  maskedFailures : Nat := 0
  maskedFailuresPrevented : Nat := 0

/-- One call of `set_action_state`, with what the disk says of the action's
recipe: `none` where the task has no recipe coordinates. -/
structure Call where
  state : ActionState
  result : Option Value := none
  bankedArtifactExists : Option Bool := none
  now : Time

inductive StateTransitionError where
  | invalidTransition (actionId : Int) (currentState newState : ActionState)
  | ledgerPersistenceFailed (actionId : Int) (newState : ActionState)
  deriving DecidableEq

def StateTransitionError.message : StateTransitionError → String
  | .invalidTransition actionId currentState newState =>
      s!"Invalid transition: Action {actionId} cannot go from {currentState.value} to {newState.value}"
  | .ledgerPersistenceFailed actionId newState =>
      s!"Ledger persistence failed for Action {actionId} -> {newState.value}"

def actionTaskId (actionId : Int) : TaskId := s!"action_{actionId}"

def extractOwnershipFromPrompt (userPrompt : UserPrompt) : String × Option String :=
  match userPrompt.toList.span (· ≠ '_') with
  | (_, []) => (userPrompt, none)
  | (user, _ :: prompt) => (String.ofList user, some (String.ofList prompt))

def isPossibleMaskedFailure (recoverFailed : Bool) (state : ActionState) : Bool :=
  recoverFailed && decide (state = .terminated)

def recoverFailed (task : Task) (state : ActionState) : Bool :=
  decide (stateMap state = .completed ∧ task.status = .failed)

def maskedFailurePrevented (task : Task) (call : Call) : Bool :=
  isPossibleMaskedFailure (recoverFailed task call.state) call.state &&
    decide (call.bankedArtifactExists = some false)

/-- The direct resume paths: the task is moved in memory and the ledger saved; a
move or a save that is refused leaves only the attempt in the backend. -/
def saveResumed (ledger : SmartLedger) (moved : Option Task) : Bool × SmartLedger :=
  match moved with
  | none => (false, ledger)
  | some task =>
      let saved := (ledger.putTask { task with blockedReason := none }).save
      if saved.1 then (true, saved.2) else (false, { ledger with backend := saved.2.backend })

def projectedUpdate (call : Call) : SmartLedger.StatusUpdate where
  status := stateMap call.state
  result := if call.state = .completed then call.result else none
  reason := some s!"ActionState: {call.state.value}"

def moveLedgerTask (host : Host) (ledger : SmartLedger) (task : Task) (call : Call) :
    Bool × SmartLedger :=
  let ledgerStatus := stateMap call.state
  if ledgerStatus = .inProgress ∧ (task.status = .paused ∨ task.status = .userStopped) then
    saveResumed ledger (task.resume s!"Resumed via ActionState.{call.state.value}" call.now)
  else if ledgerStatus = .inProgress ∧ task.status = .blocked then
    -- The table has no way from BLOCKED to IN_PROGRESS but through PENDING.
    saveResumed ledger
      ((task.transitionTo .pending s!"Unblocked via ActionState.{call.state.value}" call.now).bind
        fun unblocked =>
          unblocked.transitionTo .inProgress s!"Resumed via ActionState.{call.state.value}" call.now)
  else if task.status = ledgerStatus then (true, ledger)
  -- The terminal skip: the action has moved on where the ledger cannot follow.
  else if task.isTerminal && !recoverFailed task call.state then (true, ledger)
  else if maskedFailurePrevented task call then (true, ledger)
  else
    ledger.updateTaskStatus host task.taskId (projectedUpdate call) call.now

def claimsOwnership (tracking : Tracking) (state : ActionState) : Bool :=
  decide (stateMap state = .inProgress) && !tracking.isOwned

def claimTask (claims : Bool) (now : Time) (task : Task) : Task :=
  if claims then { task with updatedAt := now } else task

def claimTracking (claims : Bool) (nodeId : String) (userPrompt : UserPrompt) (now : Time)
    (tracking : Tracking) : Tracking :=
  if claims then
    tracking.claim (some nodeId) (some (extractOwnershipFromPrompt userPrompt).1)
      (extractOwnershipFromPrompt userPrompt).2 now
  else tracking

def recordReason (state : ActionState) (now : Time) (task : Task) : Task :=
  if stateMap state = .blocked then
    match state with
    | .previewPending => task.setBlockedReason (some "approval_required") now
    | .fallbackRequested => task.setBlockedReason (some "input_required") now
    | .pending =>
        if task.blockedReason ≠ some "input_required" then
          task.setBlockedReason (some "dependency") now
        else task
    | _ => task
  else if stateMap state = .failed then
    match state with
    | .error => task.setFailureReason "error" now
    | .gaveUp => task.setFailureReason "abandoned" now
    | _ => task
  else task

namespace Hooks
variable (hooks : Hooks) (userPrompt : UserPrompt) (actionId : Int)

def getActionState : ActionState :=
  (hooks.actionStates userPrompt actionId).getD .assigned

def putActionState (state : ActionState) : Hooks :=
  { hooks with
    actionStates := Function.update hooks.actionStates userPrompt
      (Function.update (hooks.actionStates userPrompt) actionId (some state)) }

def putLedger (ledger : SmartLedger) : Hooks :=
  { hooks with ledgerRegistry := Function.update hooks.ledgerRegistry userPrompt (some ledger) }

def putTracking (taskId : TaskId) (tracking : Tracking) : Hooks :=
  { hooks with
    tracking := Function.update hooks.tracking userPrompt
      (Function.update (hooks.tracking userPrompt) taskId tracking) }

def ledgerTask : Option Task :=
  (hooks.ledgerRegistry userPrompt).bind fun ledger => ledger.getTask (actionTaskId actionId)

def ledgerStatus : Option Status :=
  (hooks.ledgerTask userPrompt actionId).map Task.status

def countMaskedFailure (task : Task) (call : Call) : Hooks :=
  if isPossibleMaskedFailure (recoverFailed task call.state) call.state then
    if maskedFailurePrevented task call then
      { hooks with maskedFailuresPrevented := hooks.maskedFailuresPrevented + 1 }
    else { hooks with maskedFailures := hooks.maskedFailures + 1 }
  else hooks

def settleSync (taskId : TaskId) (ledger : SmartLedger) (tracking : Tracking) (call : Call) :
    Hooks :=
  let startedAt := (ledger.getTask taskId).bind Task.startedAt
  let kept := tracking.bookkeep (stateMap call.state) startedAt call.now
  let touched := kept ≠ tracking.heartbeat call.now
  (hooks.putLedger userPrompt (ledger.modifyTask taskId fun task =>
      let reasoned := recordReason call.state call.now task
      if touched then { reasoned with updatedAt := call.now } else reasoned)).putTracking
    userPrompt taskId kept

def autoSyncToLedger (host : Host) (hooks : Hooks) (userPrompt : UserPrompt) (actionId : Int)
    (call : Call) : Bool × Hooks :=
  match hooks.ledgerRegistry userPrompt with
  | none => (true, hooks)
  | some ledger =>
      let taskId := actionTaskId actionId
      match ledger.getTask taskId with
      | none => (true, hooks)
      | some task =>
          let tracking := hooks.tracking userPrompt taskId
          let claims := claimsOwnership tracking call.state
          let claimed := claimTask claims call.now task
          let owned := claimTracking claims hooks.nodeId userPrompt call.now tracking
          let moved := moveLedgerTask host (ledger.putTask claimed) claimed call
          let counted := hooks.countMaskedFailure task call
          if moved.1 then (true, counted.settleSync userPrompt taskId moved.2 owned call)
          else
            -- The copy taken at the start undoes the claim as well.
            (false, counted.putLedger userPrompt (moved.2.putTask task))

end Hooks

def setActionState (host : Host) (hooks : Hooks) (userPrompt : UserPrompt) (actionId : Int)
    (call : Call) : Except StateTransitionError Unit × Hooks :=
  let currentState := hooks.getActionState userPrompt actionId
  if currentState = call.state then (.ok (), hooks)
  else if validateStateTransition currentState call.state then
    let synced := hooks.autoSyncToLedger host userPrompt actionId call
    if synced.1 then (.ok (), synced.2.putActionState userPrompt actionId call.state)
    else (.error (.ledgerPersistenceFailed actionId call.state), synced.2)
  else (.error (.invalidTransition actionId currentState call.state), hooks)

end Hartos.Lifecycle
