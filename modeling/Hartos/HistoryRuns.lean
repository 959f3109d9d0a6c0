import Hartos.CreationSteps
import Hartos.StepSystem

/-!
No call takes a history off the transition table. One lemma says what a call does to
the tasks it finds and which ids it mints; the rest of the operations add a task,
take tasks out, or read them back from storage.
-/
namespace Hartos.SmartLedger
open TaskStatus KeyedTable
open Hartos.Task (Lived DataBound SameIdentity)

def LedgerOperation.mintedIds (ledger : SmartLedger) (now : Time) :
    LedgerOperation → List TaskId
  | .createParentChildTask parentTaskId _ _ _ =>
      ((ledger.getTask parentTaskId).map childId).toList
  | .createSiblingTasks parentTaskId descriptions _ =>
      if (ledger.getTask parentTaskId).isSome then siblingIds parentTaskId descriptions.length
      else []
  | .createSequentialTasks descriptions taskType parentTaskId =>
      (ledger.createSequentialTasks descriptions taskType parentTaskId now).1
  | .addDynamicTask _ _ _ => [ledger.dynamicId]
  | .addSubtasks parentActionId subtasks =>
      if (ledger.getTask (actionTaskId parentActionId)).isSome then
        subtaskIds parentActionId now subtasks ledger
      else []
  | _ => []

def LedgerOperation.addedTask : LedgerOperation → Option Task
  | .addTask task _ => some task
  | .change (.addTask task) => some task
  | _ => none

def LedgerOperation.creates : LedgerOperation → Bool
  | .createParentChildTask .. | .createSiblingTasks .. | .createSequentialTasks ..
  | .addDynamicTask .. | .addSubtasks .. => true
  | _ => false

def LedgerOperation.replacesTasks : LedgerOperation → Bool
  | .clearCompletedTasks | .reload _ | .restart _ => true
  | _ => false

variable (ledger : SmartLedger) (call : LedgerCall)

/-- The creating operations only link the tasks they find. -/
theorem creating_worked (creates : call.operation.creates = true) :
    Worked Linked (· ∈ call.operation.mintedIds ledger call.now) ledger
      (ledger.perform call) := by
  obtain ⟨operation, now, host⟩ := call
  cases operation with
  | createParentChildTask parentTaskId description childType options =>
    apply createParentChildTask_worked
    intro parent found
    simp [LedgerOperation.mintedIds, found]
  | createSiblingTasks parentTaskId descriptions taskType =>
    apply createSiblingTasks_worked
    intro present id member
    simp only [LedgerOperation.mintedIds, present, ↓reduceIte]
    exact member
  | createSequentialTasks descriptions taskType parentTaskId =>
    apply createSequentialTasks_worked
    intro id member
    exact member
  | addDynamicTask description discovery classification =>
    apply addDynamicTask_worked
    exact List.mem_singleton_self ledger.dynamicId
  | addSubtasks parentActionId subtasks =>
    apply addSubtasks_worked
    intro present id member
    simp only [LedgerOperation.mintedIds, present, ↓reduceIte]
    exact member
  | _ => cases creates

/-- The writes of a call to the data of tasks it finds are changes that `kept` allows;
every other write is to fields outside the data. -/
def WritesWithin (kept : Task → Task → Prop) (ledger : SmartLedger) (call : LedgerCall) : Prop :=
  match call.operation with
  | .updateTaskStatus taskId update => update.status = .completed → update.deferSave = false →
      CompletesWithin kept call.host ledger taskId update.result
  | .completeTask taskId result | .change (.completeDelegation taskId result _) =>
      CompletesWithin kept call.host ledger taskId result
  | .reprioritizeTask taskId newPriority => ∀ task, ledger.getTask taskId = some task →
      kept task { task with priority := max 0 (min 100 newPriority), updatedAt := call.now }
  | .updateTaskContext taskId context _ | .method taskId (.injectVlmContext context) =>
      ∀ task, ledger.getTask taskId = some task →
        kept task { task with context := context, updatedAt := call.now }
  | _ => True

theorem writesWithin_identity : WritesWithin SameIdentity ledger call := by
  unfold WritesWithin
  split
  · exact fun _ _ _ _ _ _ _ _ => rfl
  · exact fun _ _ _ _ _ _ => rfl
  · exact fun _ _ _ _ _ _ => rfl
  · exact fun _ _ => rfl
  · exact fun _ _ => rfl
  · exact fun _ _ => rfl
  · trivial

theorem perform_worked {kept : Task → Task → Prop} [bound : DataBound kept]
    (ledger : SmartLedger) (call : LedgerCall) (keeps : call.operation.replacesTasks = false)
    (existing : call.operation.addedTask = none) (writes : WritesWithin kept ledger call) :
    Worked kept (· ∈ call.operation.mintedIds ledger call.now) ledger (ledger.perform call) := by
  have created (creates : call.operation.creates = true) :
      Worked kept (· ∈ call.operation.mintedIds ledger call.now) ledger (ledger.perform call) :=
    (creating_worked ledger call creates).mono
      (fun old new linked => bound.ofData (Linked.sameData old new linked)) fun _ inside => inside
  obtain ⟨operation, now, host⟩ := call
  cases operation with
  | addTask task deferSave => cases existing
  | updateTaskStatus taskId update =>
    exact updateTaskStatus_worked host ledger taskId update now writes
  | completeTask taskId result =>
    exact updateTaskStatus_worked host ledger taskId _ now fun _ _ => writes
  | change operation =>
    apply change_worked host ledger now operation
    · rintro task rfl
      cases existing
    · rintro taskId result reason rfl
      exact writes
  | reopenTask taskId reason deferSave =>
    exact reopenTask_worked ledger taskId reason deferSave now
  | reprioritizeTask taskId newPriority =>
    exact reprioritizeTask_worked ledger taskId newPriority now writes
  | updateTaskContext taskId context deferSave =>
    exact updateTaskContext_worked ledger taskId context deferSave now writes
  | updateTaskProgress taskId => exact updateTaskProgress_worked ledger taskId now
  | cancelTask taskId cascade stack => exact cancelTask_worked host now cascade stack ledger taskId
  | pauseAllActiveTasks reason =>
    exact moveAll_worked ledger _ _ fun _ _ done =>
      Task.move_lived done (bound.ofData rfl) rfl rfl
  | resumeAllPausedTasks reason =>
    exact moveAll_worked ledger _ _ fun _ _ done =>
      Task.resume_lived (fun _ => bound.ofData rfl) done
  | deferAllPendingTasks reason =>
    exact moveAll_worked ledger _ _ fun _ _ done =>
      Task.move_lived done (bound.ofData rfl) rfl rfl
  | undeferAllTasks reason =>
    exact moveAll_worked ledger _ _ fun _ _ done =>
      Task.moveFrom_lived done (by decide) (bound.ofData rfl) rfl rfl
  | completeTaskAndRoute taskId outcome result =>
    exact completeTaskAndRoute_worked host ledger taskId outcome result now
  | checkAndUnblockParent completedTaskId =>
    exact checkAndUnblockParent_worked ledger completedTaskId now
  | method taskId method =>
    refine Reworked.worked (reworked_modifyTask Lived.refl ledger taskId _ ?_ ?_)
    · intro task named
      have life : Lived SameIdentity task (method.apply task now) :=
        method_lived method task now fun _ _ => rfl
      exact life.taskId.trans named
    · rintro task found
      apply method_lived
      rintro context rfl
      exact writes task found
  | save => exact save_worked ledger
  | clearEvents | enablePubsub => exact Worked.of_same rfl rfl rfl rfl
  | clearCompletedTasks | reload | restart => cases keeps
  | createParentChildTask | createSiblingTasks | createSequentialTasks | addDynamicTask
  | addSubtasks => exact created rfl

inductive CallEnd (ledger : SmartLedger) (call : LedgerCall) : Prop
  | added (task : Task) (deferSave : Bool) (handed : call.operation.addedTask = some task)
      (ends : ledger.perform call = (ledger.addTask task deferSave).2)
  | cleared (asked : call.operation = .clearCompletedTasks)
      (ends : ledger.perform call = ledger.clearCompletedTasks)
  | reloaded (readable : Bool) (asked : call.operation = .reload readable)
      (ends : ledger.perform call = ledger.reload readable)
  | restarted (readable : Bool) (asked : call.operation = .restart readable)
      (ends : ledger.perform call = ledger.restart readable)
  | worked (keeps : call.operation.replacesTasks = false)
      (ends : Worked SameIdentity (· ∈ call.operation.mintedIds ledger call.now) ledger
        (ledger.perform call))

theorem perform_ends : CallEnd ledger call := by
  by_cases replaces : call.operation.replacesTasks = true
  · obtain ⟨operation, now, host⟩ := call
    cases operation with
    | clearCompletedTasks => exact .cleared rfl rfl
    | reload readable => exact .reloaded readable rfl rfl
    | restart readable => exact .restarted readable rfl rfl
    | _ => cases replaces
  · have keeps : call.operation.replacesTasks = false := by simpa using replaces
    cases handed : call.operation.addedTask with
    | none =>
      exact .worked keeps
        (perform_worked ledger call keeps handed (writesWithin_identity ledger call))
    | some task =>
      obtain ⟨operation, now, host⟩ := call
      cases operation with
      | addTask added deferSave =>
        cases handed
        exact .added task deferSave rfl rfl
      | change operation =>
        cases operation with
        | addTask added =>
          cases handed
          exact .added task false rfl rfl
        | _ => cases handed
      | _ => cases handed

def TableValid (table : TaskTable) : Prop :=
  ∀ taskId task, table.get? taskId = some task → task.ValidHistory

structure HistoriesValid (ledger : SmartLedger) : Prop where
  tasks : TableValid ledger.tasks
  stored : ∀ image, ledger.backend.stored = some image → TableValid image.tasks

theorem tableValid_empty : TableValid (Table.empty Task.taskId) := by
  intro taskId task found
  simp [Table.empty, Table.get?, lookup] at found

theorem Grown.valid {kept : Task → Task → Prop} {minted : TaskId → Prop}
    {first second : TaskTable} (grown : Grown kept minted first second)
    (valid : TableValid first) : TableValid second := by
  intro taskId new found
  rcases grown.origin taskId new found with ⟨old, there, life⟩ | ⟨_, born⟩
  · exact life.validHistory (valid taskId old there)
  · exact born

theorem historiesValid_iff :
    HistoriesValid ledger ↔ HoldsOfImages (fun image => TableValid image.tasks) ledger :=
  ⟨fun valid => ⟨valid.tasks, valid.stored⟩, fun holds => ⟨holds.memory, holds.stored⟩⟩

theorem tableValid_put (tasks : TaskTable) (task : Task) (fresh : task.StartsFresh)
    (valid : TableValid tasks) : TableValid (tasks.set task) := by
  intro taskId new found
  rw [Table.get?_set] at found
  split at found
  · cases found
    exact fresh.validHistory
  · exact valid taskId new found

theorem clearCompletedTasks_valid (valid : HistoriesValid ledger) :
    HistoriesValid ledger.clearCompletedTasks := by
  rw [historiesValid_iff]
  refine HoldsOfImages.save ⟨?_, valid.stored⟩
  intro taskId task found
  simp only [image, Table.get?_eraseAll] at found
  split at found
  · cases found
  · exact valid.tasks taskId task found

theorem perform_valid (fresh : ∀ task ∈ call.operation.addedTask, task.StartsFresh)
    (valid : HistoriesValid ledger) : HistoriesValid (ledger.perform call) := by
  have images := (historiesValid_iff ledger).mp valid
  cases perform_ends ledger call with
  | added task deferSave handed ends =>
    rw [ends, historiesValid_iff]
    exact images.addTask task deferSave (tableValid_put _ task (fresh task handed) valid.tasks)
  | cleared _ ends => exact ends ▸ clearCompletedTasks_valid ledger valid
  | reloaded readable _ ends =>
    rw [ends, historiesValid_iff]
    exact images.reload tableValid_empty readable
  | restarted readable _ ends =>
    rw [ends, historiesValid_iff]
    exact images.restart tableValid_empty readable
  | worked _ ends =>
    rw [historiesValid_iff]
    exact images.worked ends fun tasks grown => grown.valid valid.tasks

end Hartos.SmartLedger
