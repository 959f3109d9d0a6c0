import Hartos.GoalRedispatch

/-!
Whether `submit_goal` is all-or-nothing. The loop stages the children in memory
only; how far it gets is decided by the ids and by which definitions have a
description, so the walk over them is worked out from the input alone and the
outcome is read off it.
-/
namespace Hartos.SmartLedger
open TaskStatus KeyedTable
variable (ledger : SmartLedger) (goalId : TaskId) (definitions : List TaskDefinition)

/-- The task under `childId` is the child that `definition` asks for. -/
def ChildFor (goalId childId : TaskId) (definition : TaskDefinition) : Prop :=
  ∃ child, ledger.getTask childId = some child ∧ child.parentTaskId = some goalId ∧
    definition.description = some child.description ∧
    ∀ wanted, definition.taskId = some wanted → childId = wanted

def OneChildEach : Prop :=
  ∃ parent, ledger.getTask goalId = some parent ∧ parent.status = .inProgress ∧
    parent.childTaskIds.Nodup ∧
    List.Forall₂ (ledger.ChildFor goalId) parent.childTaskIds definitions

def AllOrNothing (outcome : GoalOutcome × SmartLedger) : Prop :=
  match outcome.1 with
  | .returned => outcome.2.OneChildEach goalId definitions
  | .raised _ => outcome.2.tasks = ledger.tasks ∧ outcome.2.taskOrder = ledger.taskOrder

def stagingPlan (ledger : SmartLedger) (goalId : TaskId) :
    List TaskDefinition → List TaskId → Staging × List TaskId
  | [], staged => (.staged, staged)
  | definition :: rest, staged =>
      let size := ledger.tasks.rows.length + (staged.filter (· ∉ ledger.tasks.keys)).length
      let childId := childIdOf goalId size definition
      if definition.description = none then (.missingDescription, staged)
      else if childId ∈ staged ∨ ledger.acceptsId childId = false then (.collision childId, staged)
      else ledger.stagingPlan goalId rest (staged ++ [childId])

variable (host : Host) (ledger : SmartLedger) {before after : SmartLedger}

/-- `current` is `base` with tasks added under the ids `added`, none of it saved. -/
structure Added (base : SmartLedger) (added : List TaskId) (current : SmartLedger) : Prop where
  outside : ∀ id, id ∉ added → current.getTask id = base.getTask id
  keys : current.tasks.keys = base.tasks.keys ++ added.filter (· ∉ base.tasks.keys)
  taskOrder : current.taskOrder = base.taskOrder ++ added.filter (· ∉ base.taskOrder)
  loaded : ∀ id, id ∉ added → (id ∈ current.loadedTaskIds ↔ id ∈ base.loadedTaskIds)
  backend : current.backend = base.backend

section Adding
variable {base current next : SmartLedger} {added : List TaskId}

theorem Added.none (base : SmartLedger) : Added base [] base :=
  ⟨fun _ _ => rfl, by simp, by simp, fun _ _ => Iff.rfl, rfl⟩

theorem Added.acceptsId (grown : Added base added current) (id : TaskId) (fresh : id ∉ added) :
    current.acceptsId id = base.acceptsId id := by
  have same := grown.loaded id fresh
  simp only [SmartLedger.acceptsId, grown.outside id fresh, same]

theorem Added.size (grown : Added base added current) :
    current.tasks.rows.length =
      base.tasks.rows.length + (added.filter (· ∉ base.tasks.keys)).length := by
  have lengths := congrArg List.length grown.keys
  simpa [Table.keys] using lengths

theorem append_missing (old added : List TaskId) (id : TaskId) (fresh : id ∉ added) :
    (if id ∈ old ++ added.filter (· ∉ old) then old ++ added.filter (· ∉ old)
      else old ++ added.filter (· ∉ old) ++ [id]) =
      old ++ (added ++ [id]).filter (· ∉ old) := by
  by_cases present : id ∈ old
  · simp [present, List.filter_append]
  · simp [present, fresh, List.filter_append]

theorem Added.insert (grown : Added base added current) (task : Task)
    (fresh : task.taskId ∉ added) (inserted : current.insertTask task = some next) :
    Added base (added ++ [task.taskId]) next := by
  simp only [insertTask] at inserted
  split at inserted
  next =>
    cases inserted
    constructor
    · intro id other
      simp only [List.mem_append, List.mem_singleton, not_or] at other
      rw [← grown.outside id other.1]
      exact (Table.get?_set current.tasks task id).trans (if_neg (Ne.symm other.2))
    · rw [← append_missing base.tasks.keys added task.taskId fresh, ← grown.keys]
      exact current.tasks.keys_set task
    · rw [← append_missing base.taskOrder added task.taskId fresh, ← grown.taskOrder]
    · intro id other
      simp only [List.mem_append, List.mem_singleton, not_or] at other
      simpa [other.2] using grown.loaded id other.1
    · exact grown.backend
  next => cases inserted

theorem Added.modify (grown : Added base added current) (id : TaskId) (change : Task → Task)
    (member : id ∈ added)
    (sameId : ∀ task, task.taskId = id → (change task).taskId = id) :
    Added base added (current.modifyTask id change) := by
  have edit : Reworked (fun _ _ => True) current (current.modifyTask id change) :=
    reworked_modifyTask (fun _ => trivial) current id change sameId fun _ _ => trivial
  constructor
  · intro other outside
    have different : other ≠ id := fun same => outside (same ▸ member)
    rw [getTask_modifyTask current id change sameId, if_neg different]
    exact grown.outside other outside
  · rw [edit.keys, grown.keys]
  · rw [edit.taskOrder, grown.taskOrder]
  · intro other outside
    rw [edit.loadedTaskIds]
    exact grown.loaded other outside
  · rw [edit.backend, grown.backend]

structure Family (goalId : TaskId) (consumed : List TaskDefinition) (added : List TaskId)
    (current : SmartLedger) : Prop where
  parent : ∃ parent, current.getTask goalId = some parent ∧ parent.status = .inProgress ∧
    added = goalId :: parent.childTaskIds ∧
    List.Forall₂ (current.ChildFor goalId) parent.childTaskIds consumed
  unique : added.Nodup
  unfinished : ∀ id ∈ added, ∃ task, current.getTask id = some task ∧ task.isTerminal = false

variable {goalId : TaskId} {consumed : List TaskDefinition}

section

variable (family : Family goalId consumed added current)
include family

theorem Family.goal_mem : goalId ∈ added := by
  obtain ⟨parent, _, _, ids, _⟩ := family.parent
  rw [ids]
  exact List.mem_cons_self

-- An id staged in this call is refused: its task is not finished.
theorem Family.refuses (id : TaskId) (member : id ∈ added) : current.acceptsId id = false := by
  obtain ⟨task, found, running⟩ := family.unfinished id member
  simp only [SmartLedger.acceptsId, found, running, Bool.false_and]

/-- What the loop refuses is read off the ledger it started from. -/
theorem Family.refuses_iff (grown : Added base added current) (id : TaskId) :
    current.acceptsId id = false ↔ id ∈ added ∨ base.acceptsId id = false := by
  by_cases member : id ∈ added
  · simp only [family.refuses id member, member, true_or]
  · simp only [grown.acceptsId id member, member, false_or]

theorem Family.whole : current.OneChildEach goalId consumed := by
  obtain ⟨parent, found, running, ids, children⟩ := family.parent
  have unique := family.unique
  rw [ids, List.nodup_cons] at unique
  exact ⟨parent, found, running, unique.2, children⟩

end

theorem getTask_insertTask (task : Task) (inserted : current.insertTask task = some next)
    (wanted : TaskId) :
    next.getTask wanted = if task.taskId = wanted then some task else current.getTask wanted := by
  simp only [insertTask] at inserted
  split at inserted
  next =>
    cases inserted
    exact Table.get?_set current.tasks task wanted
  next => cases inserted

theorem Family.grow (family : Family goalId consumed added current) (definition : TaskDefinition)
    (child : Task) (fresh : child.taskId ∉ added) (pending : child.status = .pending)
    (ofGoal : child.parentTaskId = some goalId)
    (described : definition.description = some child.description)
    (named : ∀ wanted, definition.taskId = some wanted → child.taskId = wanted)
    (inserted : current.insertTask child = some next) :
    Family goalId (consumed ++ [definition]) (added ++ [child.taskId])
      (next.modifyTask goalId (addChildId child.taskId)) := by
  obtain ⟨parent, found, running, ids, children⟩ := family.parent
  have other : child.taskId ≠ goalId := fun same => fresh (same ▸ family.goal_mem)
  have lookup := getTask_insertTask child inserted
  have rows := next.getTask_modifyTask goalId (addChildId child.taskId) fun _ there => there
  have parentRow : (next.modifyTask goalId (addChildId child.taskId)).getTask goalId =
      some (addChildId child.taskId parent) := by
    rw [rows, if_pos rfl, lookup, if_neg other, found]
    rfl
  have childRow : (next.modifyTask goalId (addChildId child.taskId)).getTask child.taskId =
      some child := by
    rw [rows, if_neg other, lookup, if_pos rfl]
  have earlierRow (id : TaskId) (notGoal : id ≠ goalId) (notChild : id ≠ child.taskId) :
      (next.modifyTask goalId (addChildId child.taskId)).getTask id = current.getTask id := by
    rw [rows, if_neg notGoal, lookup, if_neg (Ne.symm notChild)]
  constructor
  · refine ⟨_, parentRow, running, ?_, ?_⟩
    · rw [ids]
      rfl
    · apply List.rel_append
      · have members := (List.forall₂_and_left _ _).mpr
          ⟨fun id (member : id ∈ parent.childTaskIds) => member, children⟩
        refine List.Forall₂.imp ?_ members
        rintro id wanted ⟨member, task, there, facts⟩
        have inside : id ∈ added := ids ▸ List.mem_cons_of_mem goalId member
        have notGoal : id ≠ goalId := by
          rintro rfl
          exact (List.nodup_cons.mp (ids ▸ family.unique)).1 member
        have notChild : id ≠ child.taskId := fun same => fresh (same ▸ inside)
        exact ⟨task, (earlierRow id notGoal notChild).trans there, facts⟩
      · exact List.Forall₂.cons ⟨child, childRow, ofGoal, described, named⟩ List.Forall₂.nil
  · rw [List.nodup_append]
    refine ⟨family.unique, List.nodup_singleton _, ?_⟩
    rintro id member last here rfl
    exact fresh (List.mem_singleton.mp here ▸ member)
  · intro id member
    by_cases goal : id = goalId
    · subst goal
      refine ⟨_, parentRow, ?_⟩
      simp only [Task.isTerminal, addChildId, running]
      rfl
    · by_cases newest : id = child.taskId
      · subst newest
        refine ⟨child, childRow, ?_⟩
        simp only [Task.isTerminal, pending]
        rfl
      · have earlier : id ∈ added := by simpa [newest] using member
        obtain ⟨task, there, going⟩ := family.unfinished id earlier
        exact ⟨task, (earlierRow id goal newest).trans there, going⟩

-- The loop goes as far as the plan says, and leaves the tasks the plan says.
theorem stageChildren_plan (context : Context) (now : Time) (definitions : List TaskDefinition)
    (grown : Added base added current) (family : Family goalId consumed added current) :
    ∀ staging, stageChildren goalId context now definitions added current = staging →
      (staging.1, staging.2.1) = base.stagingPlan goalId definitions added ∧
        Added base staging.2.1 staging.2.2 ∧ goalId ∈ staging.2.1 ∧
        (staging.1 = .staged →
          staging.2.2.OneChildEach goalId (consumed ++ definitions)) := by
  induction definitions generalizing added current consumed with
  | nil =>
    rintro staging rfl
    refine ⟨rfl, grown, family.goal_mem, ?_⟩
    intro _
    rw [List.append_nil]
    exact family.whole
  | cons definition rest ih =>
    rintro staging rfl
    simp only [stageChildren, stagingPlan, ← grown.size]
    cases described : definition.description with
    | none =>
      refine ⟨rfl, grown, family.goal_mem, ?_⟩
      rintro ⟨⟩
    | some description =>
      simp only [reduceCtorEq, ↓reduceIte]
      generalize childId : childIdOf goalId current.tasks.rows.length definition = id
      by_cases taken : id ∈ added ∨ base.acceptsId id = false
      · have refused := (family.refuses_iff grown id).mpr taken
        have nothing : current.insertTask (childTask goalId id description
            definition.capabilities context now) = none := by
          simp only [insertTask, childTask, Task.create, refused, Bool.false_eq_true, ↓reduceIte]
        rw [nothing, if_pos taken]
        refine ⟨rfl, grown, family.goal_mem, ?_⟩
        rintro ⟨⟩
      · have accepted : current.acceptsId id = true := by
          simpa using mt (family.refuses_iff grown id).mp taken
        rw [if_neg taken]
        rw [not_or] at taken
        cases inserted : current.insertTask (childTask goalId id description
            definition.capabilities context now) with
        | none =>
            simp only [insertTask, childTask, Task.create, accepted, ↓reduceIte,
              reduceCtorEq] at inserted
        | some next =>
            have named : ∀ wanted, definition.taskId = some wanted → id = wanted := by
              intro wanted given
              rw [← childId, childIdOf, given]
              rfl
            have grown' := (grown.insert _ taken.1 inserted).modify goalId (addChildId id)
              (List.mem_append_left _ family.goal_mem) fun _ there => there
            have family' := family.grow definition _ taken.1 rfl rfl described named inserted
            have tail := ih grown' family' _ rfl
            rw [List.append_assoc] at tail
            exact tail

end Adding

theorem start_pending (task : Task) (now : Time) (found : ledger.getTask task.taskId = some task)
    (pending : task.status = .pending) :
    ∃ row, ledger.updateTaskStatus host task.taskId
        { status := .inProgress, deferSave := true } now = (true, ledger.putTask row) ∧
      row.taskId = task.taskId ∧ row.status = .inProgress ∧
      row.childTaskIds = task.childTaskIds := by
  have allowed : task.validateTransition .inProgress = true := by
    simp only [Task.validateTransition, Task.transitionRefusal, pending]
    decide
  have update := ledger.updateTaskStatus_deferred host task
    { status := .inProgress, deferSave := true } now found rfl (by decide)
  rw [if_pos allowed] at update
  have keeps := updatedTask_keeps { status := .inProgress, deferSave := true } now task
  have frame := updatedTask_frame { status := .inProgress, deferSave := true } now task
  exact ⟨_, update, keeps.1, keeps.2.1, (congrArg Task.childTaskIds frame :)⟩

theorem Family.start {current : SmartLedger} {goalId : TaskId} (row : Task)
    (found : current.getTask goalId = some row) (running : row.status = .inProgress)
    (childless : row.childTaskIds = []) : Family goalId [] [goalId] current := by
  constructor
  · refine ⟨row, found, running, ?_, ?_⟩
    · rw [childless]
    · rw [childless]
      exact List.Forall₂.nil
  · exact List.nodup_singleton goalId
  · intro id member
    rw [List.mem_singleton.mp member]
    refine ⟨row, found, ?_⟩
    simp only [Task.isTerminal, running]
    rfl

-- A new goal's task is always taken and always started.
theorem stageGoal_starts (objective : String) (definitions : List TaskDefinition)
    (context : Context) (goalId : TaskId) (now : Time) (fresh : goalId ∉ ledger.tasks.keys) :
    ∃ started, Added ledger [goalId] started ∧ Family goalId [] [goalId] started ∧
      ledger.stageGoal host objective definitions context goalId now =
        finishGoal (stageChildren goalId context now definitions [goalId] started) := by
  have absent : ledger.getTask goalId = none := (Table.get?_none ledger.tasks goalId).mpr fresh
  have accepted : ledger.acceptsId goalId = true := by simp only [acceptsId, absent]
  cases inserted : ledger.insertTask (goalTask goalId objective context now) with
  | none =>
    simp only [insertTask, goalTask, Task.create, accepted, ↓reduceIte, reduceCtorEq] at inserted
  | some next =>
    have found : next.getTask goalId = some (goalTask goalId objective context now) :=
      (getTask_insertTask _ inserted goalId).trans (if_pos rfl)
    obtain ⟨row, update, named, running, childless⟩ := next.start_pending host
      (goalTask goalId objective context now) now found rfl
    have rowFound : (next.putTask row).getTask goalId = some row :=
      (getTask_putTask next row goalId).trans (if_pos named)
    have put : next.modifyTask goalId (fun _ => row) = next.putTask row := by
      simp only [modifyTask, found]
    have grown := ((Added.none ledger).insert _ List.not_mem_nil inserted).modify goalId
      (fun _ => row) List.mem_cons_self fun _ _ => named
    rw [put] at grown
    refine ⟨next.putTask row, grown, Family.start row rowFound running childless, ?_⟩
    have started : next.updateTaskStatus host goalId
        { status := .inProgress, deferSave := true } now = (true, next.putTask row) := update
    simp only [stageGoal, inserted, started, ↓reduceIte]

end Hartos.SmartLedger
