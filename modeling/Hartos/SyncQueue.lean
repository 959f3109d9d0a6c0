import Hartos.SharedRow
import Hartos.StepSystem

/-!
The outbound sync queue of a node and the drains that work on it. A drain is one database
transaction: what it writes keeps the rows to it until it commits or its transaction is
rolled back. Adding an item, adopting rows and every statement of a drain may come between
the statements of another drain.
-/
namespace Hartos.Sync
open SharedRow StepSystem

inductive QueueStatus where
  | queued | inProgress | completed | failed | dead
  deriving DecidableEq

structure QueueItem where
  nodeId : String
  operationType : String
  payload : String
  status : QueueStatus := .queued
  retryCount : Option Nat := some 0
  maxRetries : Option Nat := some 5
  errorMessage : Option String := none
  deriving DecidableEq

def QueueStatus.Selected (status : QueueStatus) : Prop := status = .queued ∨ status = .failed

instance : DecidablePred QueueStatus.Selected := fun status =>
  inferInstanceAs (Decidable (status = .queued ∨ status = .failed))

inductive DrainStage where
  | idle
  | selecting (nodeId : String)
  | claiming (ids : List String)
  | fetching (ids : List String)
  | sending (items : List String)
  | committing
  deriving DecidableEq

inductive ParentAnswer where
  | processed (ids : List String)
  | refused (statusCode : Nat)
  | requestException (error : String)
  -- Any other exception, such as a body that is not the expected JSON.
  | raised
  deriving DecidableEq

structure SyncState where
  ids : List String
  row : String → Row Nat QueueItem
  drain : Nat → DrainStage
  listed : List String

def failedBy (error : String) (item : QueueItem) : QueueItem :=
  { item with
    status := .failed
    retryCount := some (item.retryCount.getD 0 + 1)
    errorMessage := some error }

def answered (answer : ParentAnswer) (id : String) (item : QueueItem) : QueueItem :=
  match answer with
  | .processed ids =>
      if id ∈ ids then { item with status := .completed } else failedBy "Not in processed list" item
  | .refused statusCode => failedBy s!"HTTP {statusCode}" item
  | .requestException error => failedBy error item
  | .raised => item

def retryLimit (item : QueueItem) : Nat :=
  match item.maxRetries with
  | some 0 => 5
  | some limit => limit
  | none => 5

def buried (item : QueueItem) : QueueItem :=
  if item.status = .failed ∧ retryLimit item ≤ item.retryCount.getD 0 then
    { item with
      status := .dead
      errorMessage := some ("Max retries exceeded: " ++ item.errorMessage.getD "None") }
  else item

namespace SyncState
variable (state : SyncState)

def opened : SyncState :=
  ⟨[], fun _ => ⟨⟨"", "", "", .queued, some 0, some 5, none⟩, none⟩, fun _ => .idle, []⟩

def seen (session : Nat) (id : String) : QueueItem := (state.row id).seen session

variable (session : Nat)

def go (stage : DrainStage) : SyncState :=
  { state with drain := fun other => if other = session then stage else state.drain other }

def writeRows (ids : List String) (change : String → QueueItem → QueueItem) : SyncState :=
  { state with row := fun id =>
      if id ∈ ids then (state.row id).write session (change id (state.seen session id))
      else state.row id }

def commitRows : SyncState :=
  { state with row := fun id => (state.row id).commit session }

def rollbackRows : SyncState :=
  { state with row := fun id => (state.row id).rollback session }

def enqueue (id nodeId operationType payload : String) : SyncState :=
  if id ∈ state.ids then state
  else
    { state with
      ids := state.ids ++ [id]
      row := fun other =>
        if other = id then ⟨{ nodeId, operationType, payload }, none⟩ else state.row other }

def begin (nodeId : String) : SyncState :=
  match state.drain session with
  | .idle => state.go session (.selecting nodeId)
  | _ => state

def adopt : SyncState :=
  match state.drain session with
  | .selecting nodeId =>
      let others := state.ids.filter fun id =>
        (state.seen session id).nodeId ≠ nodeId ∧ (state.seen session id).status.Selected
      if others.all fun id => (state.row id).free session then
        (state.writeRows session others fun _ item => { item with nodeId }).commitRows session
      else state
  | _ => state

def select (session batchSize : Nat) : SyncState :=
  match state.drain session with
  | .selecting nodeId =>
      let ids := (state.ids.filter fun id =>
        (state.seen session id).nodeId = nodeId ∧ (state.seen session id).status.Selected).take batchSize
      state.go session (if ids = [] then .committing else .claiming ids)
  | _ => state

def claim : SyncState :=
  match state.drain session with
  | .claiming ids =>
      if ids.all fun id => (state.row id).free session then
        let claimed := ids.filter fun id => (state.seen session id).status.Selected
        (state.writeRows session claimed fun _ item => { item with status := .inProgress }).go session
          (if claimed = [] then .committing else .fetching ids)
      else state
  | _ => state

def fetch : SyncState :=
  match state.drain session with
  | .fetching ids =>
      let items := ids.filter fun id => (state.seen session id).status = .inProgress
      state.go session (if items = [] then .committing else .sending items)
  | _ => state

/-- An exception that `drain_queue` does not catch, or a crash: the transaction is rolled
back and the drain is over. -/
def abandon : SyncState := (state.rollbackRows session).go session .idle

def answer (reply : ParentAnswer) : SyncState :=
  match state.drain session with
  | .sending items =>
      match reply with
      | .raised => state.abandon session
      | .processed ids =>
          { (state.writeRows session items fun id item =>
              buried (answered (.processed ids) id item)).go session .committing with
            listed := ids ++ state.listed }
      | reply =>
          (state.writeRows session items fun id item => buried (answered reply id item)).go session
            .committing
  | _ => state

def commit : SyncState :=
  match state.drain session with
  | .committing => (state.commitRows session).go session .idle
  | _ => state

end SyncState

inductive SyncEvent where
  | enqueue (id nodeId operationType payload : String)
  | begin (session : Nat) (nodeId : String)
  | adopt (session : Nat)
  | select (session batchSize : Nat)
  | claim (session : Nat)
  | fetch (session : Nat)
  | answer (session : Nat) (reply : ParentAnswer)
  | commit (session : Nat)
  | abandon (session : Nat)
  deriving DecidableEq

def SyncState.step (state : SyncState) : SyncEvent → SyncState
  | .enqueue id nodeId operationType payload => state.enqueue id nodeId operationType payload
  | .begin session nodeId => state.begin session nodeId
  | .adopt session => state.adopt session
  | .select session batchSize => state.select session batchSize
  | .claim session => state.claim session
  | .fetch session => state.fetch session
  | .answer session reply => state.answer session reply
  | .commit session => state.commit session
  | .abandon session => state.abandon session

end Hartos.Sync
