import Hartos.ClaimAtomicity
import Hartos.GoalSubmission

/-!
One tick of the worker loop, over the Redis lock. What the tick meets outside
itself is a `TickWorld`: whether the goal still runs, how the turn ends, and
whatever others do to ledger and lock while it lasts. Redis answers its commands;
`release_task` itself swallows the case where it does not.
-/
namespace Hartos
open TaskStatus KeyedTable

inductive TurnOutcome where
  | raised
  | heldForHelp (reason : String)
  | deferredForRetry (reason : String)
  | result (value : Value)
  | nothing
  deriving DecidableEq

structure TickWorld where
  nodeId : AgentId
  capabilities : List String
  dispatchWouldDefer : Bool := false
  goalNotRunning : Task → Option String
  executeTask : Task → TurnOutcome
  meanwhile : Coordinator DistributedTaskLock → Coordinator DistributedTaskLock
  retryAfterS : Int := 60
  claimedAt : Time
  endedAt : Time

def taskHop (task : Task) : Int :=
  match task.context.hop with
  | some (.number hop) => hop
  | _ => 0

def heldForHelpHistory : String :=
  "held for help: the action was handed to a person or an expert"

def goalStoppedHistory : String :=
  "held: its goal is not running; back on the goal's next dispatch"

namespace Coordinator

def reportTurn (host : Host) (world : TickWorld) (c : Coordinator DistributedTaskLock)
    (taskId : TaskId) : TurnOutcome → Coordinator DistributedTaskLock
  -- The exception leaves the tick; the loop logs it and goes on.
  | .raised => c
  | .heldForHelp reason =>
      (c.holdTask host taskId world.nodeId reason heldForHelpHistory world.endedAt).2
  | .deferredForRetry reason =>
      (c.deferTask taskId world.nodeId reason world.retryAfterS world.endedAt).2
  | .result value => (c.submitResult host taskId world.nodeId (some value) world.endedAt).2
  | .nothing => c.abandonTask taskId world.nodeId world.endedAt

def runClaimed (host : Host) (world : TickWorld) (c : Coordinator DistributedTaskLock)
    (task : Task) : Coordinator DistributedTaskLock :=
  if taskHop task ≥ hiveDepth then c
  else match world.goalNotRunning task with
    | some stopped =>
        (c.holdTask host task.taskId world.nodeId stopped goalStoppedHistory world.endedAt).2
    | none => (world.meanwhile c).reportTurn host world task.taskId (world.executeTask task)

def tick (host : Host) (world : TickWorld) (c : Coordinator DistributedTaskLock) :
    Coordinator DistributedTaskLock :=
  if world.nodeId = "" ∨ world.dispatchWouldDefer = true then c
  else
    let claim := c.claimNextTask host world.nodeId (some world.capabilities) world.claimedAt
    match claim.1.bind claim.2.ledger.getTask with
    | none => claim.2
    | some task => claim.2.runClaimed host world task

end Coordinator

namespace WorkerTick

structure Released (lock : DistributedTaskLock) (taskId : TaskId) (agentId : AgentId)
    (now : Time) : Prop where
  owner : getTaskOwner lock taskId now ≠ some agentId
  heartbeat : (taskId, agentId) ∉ lock.heartbeats

section Tick
variable (host : Host) (world : TickWorld)
variable (c : Coordinator DistributedTaskLock) (taskId : TaskId) (agentId : AgentId)

end Tick

def sampleWorld (outcome : TurnOutcome) : TickWorld where
  nodeId := "worker"
  capabilities := []
  goalNotRunning := fun _ => none
  executeTask := fun _ => outcome
  meanwhile := id
  claimedAt := 0
  endedAt := seconds 20

end WorkerTick

end Hartos
