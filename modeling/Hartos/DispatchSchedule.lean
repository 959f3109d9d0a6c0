import Hartos.CompletionPaths
import Hartos.DispatchSafety
import Hartos.Waves

/-!
The schedule a ledger prescribes: in each wave the tasks the selectors name once
the earlier waves are COMPLETED. What the selectors look at is made explicit, so
that a ledger in work can be compared with the one the work began with.
-/
namespace Hartos.SmartLedger
open TaskStatus KeyedTable

def KeepsBlockers (lost : TaskId → Prop) (old new : Task) : Prop :=
  ∀ id, ¬ lost id → (id ∈ new.blockedBy ↔ id ∈ old.blockedBy)

variable (host : Host) (ledger : SmartLedger) (task : Task) (update : StatusUpdate)
  {lost : TaskId → Prop}

theorem KeepsBlockers.of_eq {old new : Task} (same : new.blockedBy = old.blockedBy) :
    KeepsBlockers lost old new := by
  intro id _
  rw [same]

theorem KeepsBlockers.trans (a b c : Task) (first : KeepsBlockers lost a b)
    (second : KeepsBlockers lost b c) : KeepsBlockers lost a c :=
  fun id kept => (second id kept).trans (first id kept)

/-- The loop takes the completed task off the lists, and nothing else. -/
theorem Settled.keepsBlockers {ledger : SmartLedger} {completedId : TaskId} {old new : Task}
    (settled : Settled ledger completedId old new) :
    KeepsBlockers (· = completedId) old new := by
  by_cases reached : Reaches ledger completedId old.taskId
  · intro id other
    rw [(settled.reached reached).1, List.mem_erase_of_ne other]
  · exact KeepsBlockers.of_eq (settled.spared reached).1

def lostBlocker (status : Status) (taskId id : TaskId) : Prop := status = .completed ∧ id = taskId

theorem stageStatus_blockers (now : Time) (found : ledger.getTask task.taskId = some task) :
    Reworked (KeepsBlockers (lostBlocker update.status task.taskId)) ledger
      (stageStatus host ledger task update now).1 := by
  have finish (current : SmartLedger) :
      Reworked (KeepsBlockers (lostBlocker update.status task.taskId)) current
        (current.modifyTask task.taskId (finishFields update now)) := by
    apply (finish_rows current task.taskId update now).mono
    rintro old new (same | ⟨_, same⟩)
    · exact KeepsBlockers.of_eq (same ▸ rfl)
    · exact KeepsBlockers.of_eq (same ▸ (finishFields_receipt update now old).2.2)
  have recorded (new : Task) (sameId : new.taskId = task.taskId)
      (same : new.blockedBy = task.blockedBy) :
      Reworked (KeepsBlockers (lostBlocker update.status task.taskId)) ledger
        (ledger.putTask new) :=
    reworked_putTask ledger task new (fun _ _ => KeepsBlockers.of_eq rfl) (sameId ▸ found)
      (KeepsBlockers.of_eq same)
  refine Reworked.trans KeepsBlockers.trans ?_ (finish _)
  by_cases completing : update.status = .completed
  · simp only [completing, ↓reduceIte]
    have first := recorded (completeFields host update.result
      (task.recordStateTransition .completed update.transitionReason now))
      (completeFields_keeps host update.result _).2.2 (by
        rfl)
    have sameId := (completeFields_keeps host update.result
      (task.recordStateTransition .completed update.transitionReason now)).2.2
    rw [completing] at first
    generalize completeFields host update.result
      (task.recordStateTransition .completed update.transitionReason now) = completed
      at first sameId ⊢
    have row : (ledger.putTask completed).getTask completed.taskId = some completed := by
      simp [getTask_putTask]
    have cascade := (handleTaskCompletion_settles host (ledger.putTask completed) completed now
      row).1
    rw [show completed.taskId = task.taskId from sameId] at cascade
    refine first.trans KeepsBlockers.trans (cascade.mono ?_)
    intro old new settled id kept
    exact settled.keepsBlockers id fun same => kept ⟨rfl, same⟩
  · simp only [completing, ↓reduceIte]
    exact recorded _ rfl rfl

theorem updateTaskStatus_moves (now : Time) (found : ledger.getTask task.taskId = some task)
    (durable : update.deferSave = false) (valid : task.validateTransition update.status = true)
    (accepted : ledger.backend.next = .accepted) :
    Table.Evolves (fun old new => StatusSet task.taskId update.status old new ∧
        KeepsBlockers (lostBlocker update.status task.taskId) old new) ledger.tasks
      (ledger.updateTaskStatus host task.taskId update now).2.tasks := by
  rw [(updateTaskStatus_accepted host ledger task update now found durable valid accepted).2]
  have staged := stageStatus_staged host ledger task update now found
  have blockers := stageStatus_blockers host ledger task update now found
  apply Table.evolves_of_get? staged.keys.symm
  intro id old new before there
  obtain ⟨same, again, row⟩ := staged.getTask_some id old before
  obtain ⟨other, third, kept⟩ := blockers.getTask_some id old before
  cases there.symm.trans again
  cases there.symm.trans third
  exact ⟨row.set, kept⟩

end Hartos.SmartLedger

namespace Hartos.ParallelDispatch
open SmartLedger TaskStatus KeyedTable

def finishedTask (finished : List TaskId) (task : Task) : Task :=
  if task.taskId ∈ finished then { task with status := .completed } else task

variable (ledger : SmartLedger) (finished : List TaskId) (task : Task)

theorem finishedTask_taskId : (finishedTask finished task).taskId = task.taskId := by
  simp only [finishedTask]
  split <;> rfl

theorem finished_ids (tasks : List Task) :
    (tasks.map (finishedTask finished)).map Task.taskId = tasks.map Task.taskId := by
  rw [List.map_map]
  exact List.map_congr_left fun task _ => finishedTask_taskId finished task

def withFinished (ledger : SmartLedger) (finished : List TaskId) : SmartLedger :=
  { ledger with
    tasks := ⟨ledger.tasks.rows.map (finishedTask finished),
      (finished_ids finished ledger.tasks.rows).symm ▸ ledger.tasks.unique⟩ }

def nextWave (workers : Nat) (ledger : SmartLedger) (finished : List TaskId) : List TaskId :=
  (picked workers (withFinished ledger finished)).map Task.taskId

def schedule (workers : Nat) (ledger : SmartLedger) (waves : Nat) : List TaskId :=
  Waves.after (nextWave workers ledger) waves

structure Card where
  taskId : TaskId
  priority : Int
  candidate : Bool
  passes : Bool
  ready : Bool

def card (ledger : SmartLedger) (task : Task) : Card where
  taskId := task.taskId
  priority := task.priority
  candidate := isCandidate task
  passes := ledger.passesChecks task
  ready := ledger.isParallelReady task

def pickedCards (workers : Nat) (cards : List Card) : List TaskId :=
  if (cards.filter Card.ready).isEmpty then
    ((((cards.filter Card.candidate).insertionSort fun a b => b.priority ≤ a.priority).find?
      Card.passes).map Card.taskId).toList
  else ((cards.filter Card.ready).take workers).map Card.taskId

theorem picked_ids (workers : Nat) (ledger : SmartLedger) :
    (picked workers ledger).map Task.taskId =
      pickedCards workers (ledger.tasks.rows.map (card ledger)) := by
  have readies : (ledger.tasks.rows.map (card ledger)).filter Card.ready =
      ledger.getParallelExecutableTasks.map (card ledger) := by
    rw [List.filter_map]
    rfl
  have candidates : ((ledger.tasks.rows.map (card ledger)).filter Card.candidate).insertionSort
        (fun a b => b.priority ≤ a.priority) =
      (byPriority (ledger.tasks.rows.filter isCandidate)).map (card ledger) := by
    rw [List.filter_map, byPriority, List.map_insertionSort (fun a b : Task => b.priority ≤ a.priority)
      (fun a b : Card => b.priority ≤ a.priority)]
    · rfl
    · intro a _ b _
      exact Iff.rfl
  simp only [picked, pickedCards, readies, candidates, List.isEmpty_map]
  split
  · rw [List.find?_map, Option.map_map, ← Option.toList_map]
    rfl
  · rw [← List.map_take, List.map_map]
    rfl

structure Alike (finished : List TaskId) (old new : Task) : Prop where
  frame : statusFrame new = statusFrame old
  status : new.status = old.status
  blockers : KeepsBlockers (· ∈ finished) old new

theorem allPresent_eq (ids : List TaskId) (test : Status → Bool) :
    ledger.allPresent ids test = ids.all fun id => (ledger.statusOf id).all test := by
  simp only [allPresent, statusOf]
  congr 1
  funext id
  cases ledger.getTask id <;> rfl

theorem outcomeAllows_eq :
    ledger.outcomeAllows task = task.context.dependsOnOutcome.all fun condition =>
      (ledger.statusOf condition.taskId).all fun status =>
        decide (condition.requiredOutcome = some "any") ||
          decide (condition.requiredOutcome =
            some (if status = .completed then "success" else "failure")) := by
  simp only [outcomeAllows, statusOf]
  cases task.context.dependsOnOutcome with
  | none => rfl
  | some condition =>
    cases found : ledger.getTask condition.taskId with
    | none => simp [found]
    | some dependency => simp [found]

section Selecting
variable {finished : List TaskId} {left right : SmartLedger}

theorem statusOf_alike (rows : Table.Evolves (Alike finished) left.tasks right.tasks) :
    right.statusOf = left.statusOf := by
  funext id
  have pair := rows.get? id
  simp only [statusOf, getTask]
  generalize left.tasks.get? id = old at pair ⊢
  generalize right.tasks.get? id = new at pair ⊢
  cases pair with
  | none => rfl
  | some alike => exact congrArg some alike.status

theorem card_alike (statuses : right.statusOf = left.statusOf)
    (completed : ∀ id ∈ finished, ∀ status, left.statusOf id = some status → status = .completed)
    (old new : Task) (alike : Alike finished old new) : card right new = card left old := by
  have prerequisites : new.prerequisites = old.prerequisites :=
    (congrArg Task.prerequisites alike.frame :)
  have children : new.childTaskIds = old.childTaskIds := (congrArg Task.childTaskIds alike.frame :)
  have outcome : new.context.dependsOnOutcome = old.context.dependsOnOutcome :=
    (congrArg (fun task => task.context.dependsOnOutcome) alike.frame :)
  have reason : new.pendingReason = old.pendingReason := (congrArg Task.pendingReason alike.frame :)
  have mode : new.executionMode = old.executionMode := (congrArg Task.executionMode alike.frame :)
  have blocked : (new.blockedBy.all fun id => (left.statusOf id).all isResolved) =
      old.blockedBy.all fun id => (left.statusOf id).all isResolved := by
    rw [Bool.eq_iff_iff, List.all_eq_true, List.all_eq_true]
    constructor
    all_goals
      intro met id listed
      by_cases done : id ∈ finished
      -- A finished blocker holds nobody up, listed or not.
      · cases status : left.statusOf id with
        | none => rfl
        | some value =>
          rw [completed id done value status]
          rfl
    · exact met id ((alike.blockers id done).mpr listed)
    · exact met id ((alike.blockers id done).mp listed)
  simp only [card, passesChecks, isCandidate, isParallelReady, allPresent_eq, outcomeAllows_eq,
    statuses, prerequisites, children, outcome, reason, mode, alike.status, blocked,
    Card.mk.injEq, and_self, and_true]
  exact ⟨(congrArg Task.taskId alike.frame :), (congrArg Task.priority alike.frame :)⟩

theorem picked_alike (workers : Nat)
    (rows : Table.Evolves (Alike finished) left.tasks right.tasks)
    (completed : ∀ id ∈ finished, ∀ status, left.statusOf id = some status → status = .completed) :
    (picked workers right).map Task.taskId = (picked workers left).map Task.taskId := by
  have same := card_alike (statusOf_alike rows) completed
  have cards : left.tasks.rows.map (card left) = right.tasks.rows.map (card right) := by
    rw [← List.forall₂_eq_eq_eq, List.forall₂_map_left_iff, List.forall₂_map_right_iff]
    exact List.Forall₂.imp (fun old new pair => (same old new pair.2).symm) rows
  rw [picked_ids, picked_ids, cards]

end Selecting

end Hartos.ParallelDispatch
