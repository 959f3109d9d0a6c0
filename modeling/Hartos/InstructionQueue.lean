import Hartos.KahnLevels
import Hartos.KeyedTable
import Mathlib.Data.List.Sort
import Mathlib.Data.String.Basic

/-!
The queue of a user's instructions: statuses written by several operations, pulls within a
budget, and the waves of an execution plan.
-/
namespace Hartos.InstructionQueue
open KeyedTable

inductive Status
  | queued
  | batched
  | inProgress
  | done
  | failed
  | cancelled
  deriving DecidableEq

def Status.terminal : Status → Bool
  | .done | .failed | .cancelled => true
  | .queued | .batched | .inProgress => false

def Status.taken : Status → Bool
  | .batched | .inProgress => true
  | .queued | .done | .failed | .cancelled => false

/-- `contextChars` is the length of the context as JSON, `ledgerTaskId` its entry of that name. -/
structure Instruction where
  id : String
  text : String
  status : Status
  createdAt : String
  priority : Int
  contextChars : Nat
  ledgerTaskId : Option String
  batchId : Option String
  attempts : Int
  deriving DecidableEq

abbrev Instructions := Table Instruction.id

def revise (table : Instructions) (change : Instruction → Instruction)
    (same : ∀ inst, (change inst).id = inst.id) : Instructions :=
  ⟨table.rows.map change, by
    have keys : (table.rows.map change).map Instruction.id = table.rows.map Instruction.id := by
      rw [List.map_map]
      exact List.map_congr_left fun inst _ => same inst
    rw [keys]
    exact table.unique⟩

def keep (table : Instructions) (wanted : Instruction → Bool) : Instructions :=
  ⟨table.rows.filter wanted, table.unique.sublist (List.filter_sublist.map Instruction.id)⟩

structure Queue where
  instructions : Instructions
  taskMap : String → Option String
  file : Instructions

def Queue.init : Queue := ⟨Table.empty _, fun _ => none, Table.empty _⟩

structure LedgerTask where
  prerequisites : List String
  blockedBy : List String
  parentTaskId : Option String

abbrev Ledger := Option (String → Option LedgerTask)

namespace Queue
variable (q : Queue)

def save : Queue := { q with file := q.instructions }

def load : Queue where
  instructions := q.file
  taskMap id := (q.file.get? id).bind Instruction.ledgerTaskId
  file := q.file

def before (first second : Instruction) : Prop :=
  first.priority < second.priority ∨
    (first.priority = second.priority ∧ first.createdAt ≤ second.createdAt)

instance (first second : Instruction) : Decidable (before first second) :=
  inferInstanceAs (Decidable (_ ∨ _))

def getPending : List Instruction :=
  (q.instructions.rows.filter fun inst => inst.status = .queued).insertionSort before

def duplicate (text : String) : Bool :=
  q.instructions.rows.any fun inst => inst.text = text ∧ inst.status = .queued

def enqueue (id text : String) (priority : Int) (createdAt : String) (contextChars : Nat)
    (ledgerTaskId registered : Option String) : Queue :=
  if q.duplicate text then q
  else
    let inst : Instruction :=
      ⟨id, text, .queued, createdAt, priority, contextChars, registered <|> ledgerTaskId, none, 0⟩
    save { q with
      instructions := q.instructions.set inst
      taskMap := if registered.isSome then Function.update q.taskMap id registered else q.taskMap }

variable (id : String) (batchId : String)

def change (update : Instruction → Instruction) (same : ∀ inst, (update inst).id = inst.id) :
    Queue :=
  if (q.instructions.get? id).isSome then
    save { q with
      instructions := revise q.instructions (fun inst => if inst.id = id then update inst else inst)
        fun inst => by split <;> simp [same] }
  else q

def markStatus (status : Status) : Queue :=
  q.change id (fun inst => { inst with status := status }) fun _ => rfl

def cancel : Queue := q.markStatus id .cancelled

def completeInstruction : Queue :=
  q.change id (fun inst => { inst with status := .done }) fun _ => rfl

def failed (maxAttempts : Int) (transient : Bool) (inst : Instruction) : Instruction :=
  let attempts := if transient then inst.attempts else inst.attempts + 1
  { inst with
    attempts := attempts
    status := if !transient ∧ maxAttempts ≤ attempts then .failed else .queued
    batchId := none }

def failInstruction (maxAttempts : Int) (id : String) (transient : Bool) : Queue :=
  q.change id (failed maxAttempts transient) fun _ => rfl

def completeBatch : Queue :=
  save { q with
    instructions := revise q.instructions
      (fun inst => if inst.batchId = some batchId then { inst with status := .done } else inst)
      fun inst => by split <;> rfl }

def failBatch : Queue :=
  save { q with
    instructions := revise q.instructions
      (fun inst => if inst.batchId = some batchId ∧ inst.status = .batched then
        { inst with status := .queued, batchId := none } else inst)
      fun inst => by split <;> rfl }

def clearDone : Queue :=
  let kept := keep q.instructions fun inst => inst.status ≠ .done ∧ inst.status ≠ .cancelled
  if kept.rows.length = q.instructions.rows.length then q else save { q with instructions := kept }

def withinBudget (budget : Int) : Int → Bool → List Instruction → List Instruction
  | _, _, [] => []
  | total, started, inst :: rest =>
      let chars : Int := inst.text.length + inst.contextChars
      if budget < total + chars ∧ started then [] else
        inst :: withinBudget budget (total + chars) true rest

def select (pending : List Instruction) (maxTokens : Int) (maxInstructions : Nat) :
    List Instruction :=
  withinBudget (maxTokens * 4) 0 false (pending.take maxInstructions)

def markBatched (selected : List Instruction) : Queue :=
  save { q with
    instructions := revise q.instructions
      (fun inst => if inst.id ∈ selected.map Instruction.id then
        { inst with status := .batched, batchId := some batchId } else inst)
      fun inst => by split <;> rfl }

section Mapping
variable (ledger : Ledger)

def task (inst : Instruction) : Option String :=
  match ledger with
  | none => none
  | some tasks => (q.taskMap inst.id).filter fun id => id ≠ "" ∧ (tasks id).isSome

variable (instructions : List Instruction)

def instByTask : List (String × Instruction) :=
  instructions.foldl (fun table inst =>
    match q.task ledger inst with
    | some id => put Prod.fst (id, inst) table
    | none => table) []

def unmapped : List Instruction :=
  instructions.filter fun inst => (q.task ledger inst).isNone

def dependencies (id : String) : List String :=
  match ledger.bind (· id) with
  | none => []
  | some task => task.prerequisites ++ task.blockedBy ++ task.parentTaskId.toList

def buildWaves : List (List Instruction) :=
  let table := q.instByTask ledger instructions
  let ours := table.map Prod.fst
  let deps := fun id => (dependencies ledger id).filter (· ∈ ours)
  let waves := (KahnLevels.levels deps (ours.length + 1) [] ours).map fun level =>
    level.filterMap fun id => (lookup Prod.fst id table).map Prod.snd
  if table = [] then [instructions]
  else
    match q.unmapped ledger instructions, waves with
    | [], waves => waves
    | unmapped, [] => [unmapped]
    | unmapped, first :: rest => (unmapped ++ first) :: rest

def pullExecutionPlan (batchId : String) (maxTokens : Int) (maxInstructions : Nat) :
    Option (List (List Instruction)) × Queue :=
  let selected := select q.getPending maxTokens maxInstructions
  if selected = [] then (none, q)
  else (some (q.buildWaves ledger selected), q.markBatched batchId selected)

def sequential (ours : List String) : List String → List String → List String
  | _, [] => []
  | seen, id :: rest =>
      if id ∈ ours ∧ id ∉ seen then id :: sequential ours (id :: seen) rest else []

def ledgerOrderedPending (parallel next : List String) : List Instruction :=
  let pending := q.getPending
  let table := q.instByTask ledger pending
  let ours := table.map Prod.fst
  let first := (parallel.filter (· ∈ ours)).eraseDups
  let seen := first ++ sequential ours first (next.take (table.length + 5))
  if table = [] then pending
  else
    (seen.filterMap fun id => (lookup Prod.fst id table).map Prod.snd) ++
      (table.filter fun row => row.1 ∉ seen).map Prod.snd ++ q.unmapped ledger pending

def pullBatch (batchId : String) (parallel next : List String) (maxTokens : Int)
    (maxInstructions : Nat) : List Instruction × Queue :=
  let selected := select (q.ledgerOrderedPending ledger parallel next) maxTokens maxInstructions
  if selected = [] then ([], q) else (selected, q.markBatched batchId selected)

end Mapping
end Queue

section Selection
variable {q : Queue} {inst : Instruction}

theorem mem_getPending : inst ∈ q.getPending ↔ inst ∈ q.instructions.rows ∧ inst.status = .queued := by
  rw [Queue.getPending, (List.perm_insertionSort _ _).mem_iff, List.mem_filter, decide_eq_true_eq]

theorem withinBudget_sublist (budget total : Int) (started : Bool) (pending : List Instruction) :
    (Queue.withinBudget budget total started pending).Sublist pending := by
  induction pending generalizing total started with
  | nil => exact List.Sublist.refl _
  | cons first rest ih =>
    simp only [Queue.withinBudget]
    split_ifs
    · exact List.nil_sublist _
    · exact (ih _ _).cons_cons first

variable (pending : List Instruction) (maxTokens : Int) (maxInstructions : Nat)

theorem select_sublist : (Queue.select pending maxTokens maxInstructions).Sublist pending :=
  (withinBudget_sublist _ _ _ _).trans (List.take_sublist _ _)

theorem select_subset : Queue.select pending maxTokens maxInstructions ⊆ pending :=
  (select_sublist pending maxTokens maxInstructions).subset

theorem pending_unique {q : Queue} : (q.getPending.map Instruction.id).Nodup := by
  have waits := q.instructions.unique.sublist ((List.filter_sublist (p := fun inst =>
    decide (inst.status = .queued)) (l := q.instructions.rows)).map Instruction.id)
  exact ((List.perm_insertionSort _ _).map Instruction.id).nodup_iff.mpr waits

theorem select_ne_nil {pending : List Instruction} (some : pending ≠ []) (maxTokens : Int)
    {maxInstructions : Nat} (positive : 0 < maxInstructions) :
    Queue.select pending maxTokens maxInstructions ≠ [] := by
  obtain ⟨first, rest, rfl⟩ := List.exists_cons_of_ne_nil some
  obtain ⟨count, rfl⟩ := Nat.exists_eq_add_of_lt positive
  simp [Queue.select, Queue.withinBudget]

theorem eq_of_id {table : Instructions} {other : Instruction} (member : inst ∈ table.rows)
    (member' : other ∈ table.rows) (same : other.id = inst.id) : other = inst := by
  have found := table.mem_get? inst member
  rw [← same, table.mem_get? other member'] at found
  exact Option.some.inj found

end Selection

end Hartos.InstructionQueue
