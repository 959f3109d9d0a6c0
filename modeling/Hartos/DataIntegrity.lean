import Hartos.CoordinatorEvents
import Hartos.HistoryRuns

/-!
The data hash of a task and the operations that leave it behind. The hash covers the
context and the priority, which completions, claims and a change of priority write
without sealing the task again; only `update_task_context` does. `data_hash` is kept
beside the ledger, under the id of the task that holds it.
-/
namespace Hartos
open TaskStatus KeyedTable StepSystem
open SmartLedger (LedgerCall LedgerOperation WritesWithin completeFields)
open Hartos.Task (SameData DataBound Lived)

structure TaskData where
  taskId : TaskId
  description : String
  taskType : TaskType
  prerequisites : List TaskId
  context : Context
  priority : Int
  parentTaskId : Option TaskId
  deriving DecidableEq

namespace Task

def data (task : Task) : TaskData where
  taskId := task.taskId
  description := task.description
  taskType := task.taskType
  prerequisites := task.prerequisites.insertionSort (· ≤ ·)
  context := task.context
  priority := task.priority
  parentTaskId := task.parentTaskId

theorem SameData.data {old new : Task} (same : SameData old new) : new.data = old.data := by
  simp only [SameData, Prod.mk.injEq] at same
  simp [Task.data, same]

end Task

section Source
variable {Lock Digest : Type} [TaskLock Lock] [DecidableEq Digest]
  (digest : TaskData → Digest) (host : Host)

def computeDataHash (task : Task) : Digest := digest task.data

def verifyIntegrity (dataHash : Option Digest) (task : Task) : Bool :=
  match dataHash with
  | none => true
  | some stored => decide (computeDataHash digest task = stored)

structure SealedLedger (Lock Digest : Type) where
  coordinator : Coordinator Lock
  dataHash : TaskId → Option Digest

namespace SealedLedger

def ledger (state : SealedLedger Lock Digest) : SmartLedger := state.coordinator.ledger

end SealedLedger

/-- The operations that work on the tasks held: not `add_task`, which is handed one, nor
those that read the tasks back from storage. -/
def LedgerOperation.stays : LedgerOperation → Bool
  | .addTask .. | .change (.addTask _) | .reload _ | .restart _ => false
  | _ => true

inductive IntegrityCall (Digest : Type) where
  | addTask (task : Task) (dataHash : Option Digest) (deferSave : Bool)
  | ledger (call : LedgerCall) (stays : LedgerOperation.stays call.operation = true)
  | coordinate (event : CoordinatorEvent)

/-- An action of a prompt. `none` is an absent key; a bare string is its own text. -/
structure Action where
  actionId : Option Value := none
  description : Option String := none
  action : Option String := none
  prerequisites : List Value := []
  flow : Value := .null
  persona : Value := .null

namespace Action

def taskId (position : Nat) (action : Action) : TaskId :=
  "action_" ++ host.text (action.actionId.getD (.number position))

/-- `100 - action_id`, which raises for an id that is no number. -/
def priority (action : Action) : Option Int :=
  match action.actionId.getD (.number 0) with
  | .number n => some (100 - n)
  | .bool flag => some (100 - flag.toNat)
  | _ => none

def task (position : Nat) (action : Action) (now : Time) : Option Task :=
  action.priority.map fun priority =>
    { Task.create (action.taskId host position) (action.description.getD (action.action.getD ""))
        .preAssigned now with
      executionMode := if action.prerequisites.isEmpty then .parallel else .sequential
      prerequisites := action.prerequisites.map fun id => "action_" ++ host.text id
      context := { extra := [("action_id", action.actionId.getD .null), ("flow", action.flow),
        ("persona", action.persona)] }
      priority := priority }

end Action

variable (state : SealedLedger Lock Digest) (isSealed : TaskId → Prop)

def SealedLedger.IsSealed (taskId : TaskId) : Prop :=
  (state.dataHash taskId).isSome = true

def ResultKnown (host : Host) (state : SealedLedger Lock Digest) (taskId : TaskId)
    (result : Option Value) : Prop :=
  ∀ task hash, state.ledger.getTask taskId = some task →
    task.validateTransition .completed = true → state.ledger.backend.next = .accepted →
    state.IsSealed taskId → result.bind host.resultHash = some hash →
      task.context.resultHash = some hash

def UpForClaim (now : Time) (task : Task) : Prop :=
  task.status = .pending ∨ (task.status = .deferred ∧ deferIsDue task now = true) ∨
    (task.status = .inProgress ∧ ∃ age, claimAge task now = some age ∧ age > host.orphanAfter)

def LedgerSpares (call : LedgerCall) : Prop :=
  match call.operation with
  | .updateTaskStatus taskId update => update.status = .completed → update.deferSave = false →
      ResultKnown call.host state taskId update.result
  | .completeTask taskId result | .change (.completeDelegation taskId result _) =>
      ResultKnown call.host state taskId result
  | .reprioritizeTask taskId newPriority => ∀ task, state.ledger.getTask taskId = some task →
      state.IsSealed taskId → max 0 (min 100 newPriority) = task.priority
  | .method taskId (.injectVlmContext context) => ∀ task, state.ledger.getTask taskId = some task →
      state.IsSealed taskId → context = task.context
  | _ => True

def Spares : IntegrityCall Digest → Prop
  | .addTask task dataHash _ =>
      state.ledger.acceptsId task.taskId = true → verifyIntegrity digest dataHash task = true
  | .ledger call _ => LedgerSpares state call
  | .coordinate (.claimNextTask _ _ now) | .coordinate (.claimParallelBatch _ _ _ now) =>
      ∀ task ∈ state.ledger.tasks.rows, state.IsSealed task.taskId → ¬ UpForClaim host now task
  | .coordinate (.submitResult _ taskId result _) => ResultKnown host state taskId result
  | .coordinate (.deferTask _ taskId _ _ _) => ∀ task, state.ledger.getTask taskId = some task →
      task.validateTransition .deferred = true → state.ledger.backend.next = .accepted →
      state.IsSealed taskId → task.context.claimedBy = none ∧ task.context.claimedAt = none
  | .coordinate (.abandonTask ..) | .coordinate (.holdTask ..) => True

def SealedKept (old new : Task) : Prop :=
  new.taskId = old.taskId ∧ (isSealed old.taskId → SameData old new)

instance (isSealed : TaskId → Prop) : DataBound (SealedKept isSealed) where
  ofData := fun same => ⟨DataBound.taskId same, fun _ => same⟩
  taskId := fun kept => kept.1

variable (agentId : AgentId) (now : Time) {isSealed fresh : TaskId → Prop}
  (state : SealedLedger Lock Digest) (call : LedgerCall)

def SealedSame (isSealed : TaskId → Prop) (old new : Task) : Prop :=
  new.taskId = old.taskId ∧ (isSealed old.taskId → new = old)

theorem SealedSame.kept {isSealed : TaskId → Prop} {old new : Task}
    (same : SealedSame isSealed old new) : SealedKept isSealed old new :=
  ⟨same.1, fun held => by rw [same.2 held]; rfl⟩

theorem SealedSame.trans {isSealed : TaskId → Prop} (first second third : Task)
    (one : SealedSame isSealed first second) (two : SealedSame isSealed second third) :
    SealedSame isSealed first third :=
  ⟨two.1.trans one.1, fun held => (two.2 (one.1.symm ▸ held)).trans (one.2 held)⟩

end Source

def plainHost : Host where
  resultHash := fun _ => some "result"
  setOrder := .insertion
  text
    | .number n => toString n
    | .text s => s
    | _ => ""

def ledgerCall (operation : LedgerOperation) (now : Time)
    (stays : LedgerOperation.stays operation = true) : IntegrityCall TaskData :=
  .ledger ⟨operation, now, plainHost⟩ stays

end Hartos
