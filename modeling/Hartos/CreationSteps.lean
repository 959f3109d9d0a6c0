import Hartos.LedgerSteps

/-!
What the creating operations do. To the tasks they find they only add links, and
the parent of a new task may be moved to BLOCKED; each new task starts a history of
its own.
-/
namespace Hartos.SmartLedger
open TaskStatus KeyedTable
open Hartos.Task (Lived SameData SameIdentity)

def creationFrame (task : Task) : Task :=
  { task with
    status := .pending
    stateHistory := []
    updatedAt := 0
    errorMessage := none
    childTaskIds := []
    siblingTaskIds := []
    dependentTaskIds := [] }

structure Linked (old new : Task) : Prop where
  frame : creationFrame new = creationFrame old
  children : old.childTaskIds <+: new.childTaskIds
  siblings : old.siblingTaskIds <+: new.siblingTaskIds
  dependents : old.dependentTaskIds <+: new.dependentTaskIds

theorem Linked.refl (task : Task) : Linked task task :=
  ⟨rfl, List.prefix_rfl, List.prefix_rfl, List.prefix_rfl⟩

theorem Linked.trans {first second third : Task} (one : Linked first second)
    (two : Linked second third) : Linked first third := by
  constructor
  · exact two.frame.trans one.frame
  · exact one.children.trans two.children
  · exact one.siblings.trans two.siblings
  · exact one.dependents.trans two.dependents

theorem Linked.sameData (old new : Task) (linked : Linked old new) : SameData old new :=
  (congrArg (fun t : Task => (t.taskId, t.description, t.taskType, t.createdAt, t.prerequisites,
    t.context, t.priority, t.parentTaskId)) linked.frame :)

theorem Lived.linked {old new : Task} (life : Lived Linked old new) : Linked old new :=
  Task.Lived.keeps Linked.refl (fun _ _ _ one two => one.trans two)
    (fun _ _ _ _ => ⟨rfl, List.prefix_rfl, List.prefix_rfl, List.prefix_rfl⟩) life

theorem Lived.linked_taskId {old new : Task} (life : Lived Linked old new) :
    new.taskId = old.taskId :=
  (congrArg Task.taskId (Lived.linked life).frame :)

section Creating
variable {minted : TaskId → Prop}
variable (classification : Classification) (host : Host) (ledger : SmartLedger)
  (parentActionId : Int) (parentTaskId : TaskId) (taskId : TaskId) (task : Task) (id : TaskId)

theorem linkTask_worked (change : Task → Task) (links : ∀ task, Lived Linked task (change task)) :
    Worked Linked minted ledger (ledger.modifyTask taskId change) := by
  apply modifyTask_worked ledger taskId change
  · intro task named
    exact (Lived.linked_taskId (links task)).trans named
  · intro task _
    exact links task

variable (ids : List TaskId) (description : String) (taskType : TaskType) (now : Time)
  (subtasks : List SubtaskSpec)

theorem addChildTask_linked : Lived Linked task (task.addChildTask id now) := by
  simp only [Task.addChildTask, Task.appendOnce]
  split
  · exact Lived.refl task
  · exact Lived.fields ⟨rfl, List.prefix_append _ _, List.prefix_rfl, List.prefix_rfl⟩ rfl rfl

theorem addSiblingTask_linked : Lived Linked task (task.addSiblingTask id now) := by
  simp only [Task.addSiblingTask, Task.appendOnce]
  split
  · exact Lived.refl task
  · exact Lived.fields ⟨rfl, List.prefix_rfl, List.prefix_append _ _, List.prefix_rfl⟩ rfl rfl

theorem addDependentTask_linked : Lived Linked task (task.addDependentTask id now) := by
  simp only [Task.addDependentTask, Task.appendOnce]
  split
  · exact Lived.refl task
  · exact Lived.fields ⟨rfl, List.prefix_rfl, List.prefix_rfl, List.prefix_append _ _⟩ rfl rfl

theorem appendLink_prefix : ids <+: appendLink id ids := by
  simp only [appendLink]
  split
  · exact List.prefix_rfl
  · exact List.prefix_append _ _

theorem createParentChildTask_worked (childDescription : String) (childType : TaskType)
    (options : ChildOptions) (now : Time)
    (inside : ∀ parent, ledger.getTask parentTaskId = some parent → minted (childId parent)) :
    Worked Linked minted ledger
      (ledger.createParentChildTask parentTaskId childDescription childType options now).2 := by
  simp only [createParentChildTask]
  cases found : ledger.getTask parentTaskId with
  | none => exact Worked.refl ledger
  | some parent =>
    have linked : Worked Linked minted ledger
        (ledger.putTask (parent.addChildTask (childId parent) now)) := by
      have life := addChildTask_linked parent (childId parent) now
      have named : (parent.addChildTask (childId parent) now).taskId = parent.taskId :=
        Lived.linked_taskId life
      refine Reworked.worked (reworked_putTask ledger parent _ (fun other _ => Lived.refl other)
        ?_ life)
      rw [named]
      exact ledger.getTask_self parentTaskId parent found
    refine saved (linked.trans (putTask_minted _ _ (inside parent found) ?_))
    exact Task.StartsFresh.validHistory ⟨_, rfl, rfl⟩

theorem enterSibling_worked (ledger : SmartLedger) (entry : TaskId × String)
    (inside : minted entry.1) :
    Worked Linked minted ledger (enterSibling parentTaskId taskType now ledger entry) := by
  have entered : Worked Linked minted ledger
      (ledger.putTask { Task.create entry.1 entry.2 taskType now with
        parentTaskId := some parentTaskId }) :=
    putTask_minted ledger _ inside (Task.StartsFresh.validHistory ⟨_, rfl, rfl⟩)
  exact entered.trans (linkTask_worked _ parentTaskId _ fun parent =>
    addChildTask_linked parent entry.1 now)

theorem linkSiblings_worked (ledger : SmartLedger) (id : TaskId) :
    Worked Linked minted ledger (linkSiblings ids now ledger id) := by
  apply linkTask_worked ledger id
  intro sibling
  generalize ids.filter (· ≠ id) = others
  induction others generalizing sibling with
  | nil => exact Lived.refl sibling
  | cons other rest ih => exact (addSiblingTask_linked sibling other now).trans (ih _)

/-- A loop whose every pass keeps the relation keeps it. -/
theorem foldl_worked {Item : Type} {kept : Task → Task → Prop}
    (pass : SmartLedger → Item → SmartLedger) (items : List Item)
    (each : ∀ current, ∀ item ∈ items, Worked kept minted current (pass current item))
    (ledger : SmartLedger) : Worked kept minted ledger (items.foldl pass ledger) := by
  induction items generalizing ledger with
  | nil => exact Worked.refl ledger
  | cons item rest ih =>
    have first := each ledger item List.mem_cons_self
    exact first.trans (ih (fun current later member =>
      each current later (List.mem_cons_of_mem item member)) _)

theorem createSiblingTasks_worked (siblingDescriptions : List String) (taskType : TaskType)
    (now : Time)
    (inside : (ledger.getTask parentTaskId).isSome = true →
      ∀ id ∈ siblingIds parentTaskId siblingDescriptions.length, minted id) :
    Worked Linked minted ledger
      (ledger.createSiblingTasks parentTaskId siblingDescriptions taskType now).2 := by
  simp only [createSiblingTasks]
  cases found : ledger.getTask parentTaskId with
  | none => exact Worked.refl ledger
  | some parent =>
    have named := inside (by simp [found])
    generalize siblingIds parentTaskId siblingDescriptions.length = ids at named ⊢
    have entered := foldl_worked (enterSibling parentTaskId taskType now)
      (ids.zip siblingDescriptions) (fun current entry member =>
        enterSibling_worked parentTaskId taskType now current entry
          (named entry.1 (List.of_mem_zip member).1)) ledger
    exact saved (entered.trans (foldl_worked (linkSiblings ids now) ids
      (fun current id _ => linkSiblings_worked ids now current id) _))

theorem chainedTask_valid (parentTaskId previousTaskId : Option TaskId) (now : Time) :
    (chainedTask taskId description taskType parentTaskId previousTaskId now).ValidHistory ∧
      (chainedTask taskId description taskType parentTaskId previousTaskId now).taskId = taskId := by
  cases previousTaskId with
  | none => exact ⟨Task.StartsFresh.validHistory ⟨_, rfl, rfl⟩, rfl⟩
  | some previous => exact ⟨Task.StartsFresh.validHistory ⟨_, rfl, rfl⟩, rfl⟩

theorem enterChained_worked (parentTaskId previousTaskId : Option TaskId) (now : Time)
    (inside : minted taskId) :
    Worked Linked minted ledger
      (ledger.enterChained taskId description taskType parentTaskId previousTaskId now) := by
  have told : Worked Linked minted ledger (ledger.tellPrevious taskId previousTaskId now) := by
    cases previousTaskId with
    | none => exact Worked.refl ledger
    | some previous =>
      exact linkTask_worked ledger previous _ fun task => addDependentTask_linked task taskId now
  have chained := chainedTask_valid taskId description taskType parentTaskId previousTaskId now
  have entered := told.trans (putTask_minted _
    (chainedTask taskId description taskType parentTaskId previousTaskId now)
    (chained.2.symm ▸ inside) chained.1)
  simp only [enterChained]
  cases givenParent parentTaskId with
  | none => exact entered
  | some parent =>
    exact entered.trans (linkTask_worked _ parent _ fun task =>
      addChildTask_linked task taskId now)

theorem enterSequence_worked (parentTaskId : Option TaskId) (now : Time)
    (descriptions : List String) (position : Nat) (previousTaskId : Option TaskId)
    (ledger : SmartLedger)
    (inside : ∀ id ∈ (enterSequence taskType parentTaskId now descriptions position previousTaskId
      ledger).1, minted id) :
    Worked Linked minted ledger
      (enterSequence taskType parentTaskId now descriptions position previousTaskId ledger).2 := by
  induction descriptions generalizing position previousTaskId ledger with
  | nil => exact Worked.refl ledger
  | cons description rest ih =>
    have first := enterChained_worked ledger (ledger.sequentialId parentTaskId position)
      description taskType parentTaskId previousTaskId now (inside _ List.mem_cons_self)
    exact first.trans (ih _ _ _ fun id member => inside id (List.mem_cons_of_mem _ member))

theorem createSequentialTasks_worked (taskDescriptions : List String) (taskType : TaskType)
    (parentTaskId : Option TaskId) (now : Time)
    (inside : ∀ id ∈ (ledger.createSequentialTasks taskDescriptions taskType parentTaskId now).1,
      minted id) :
    Worked Linked minted ledger
      (ledger.createSequentialTasks taskDescriptions taskType parentTaskId now).2 :=
  saved (enterSequence_worked taskType parentTaskId now taskDescriptions 1 none ledger inside)

theorem enterSubtask_worked (ledger : SmartLedger) (subtask : SubtaskSpec)
    (inside : minted (ledger.subtaskId parentActionId subtask)) :
    Worked Linked minted ledger (enterSubtask parentActionId now ledger subtask) :=
  putTask_minted ledger _ inside (Task.StartsFresh.validHistory ⟨_, rfl, rfl⟩)

/-- The ids a call of `add_subtasks` gives its subtasks. -/
def subtaskIds (parentActionId : Int) (now : Time) : List SubtaskSpec → SmartLedger → List TaskId
  | [], _ => []
  | subtask :: rest, ledger =>
      ledger.subtaskId parentActionId subtask ::
        subtaskIds parentActionId now rest (enterSubtask parentActionId now ledger subtask)

theorem enterSubtasks_worked (ledger : SmartLedger)
    (inside : ∀ id ∈ subtaskIds parentActionId now subtasks ledger, minted id) :
    Worked Linked minted ledger
      (subtasks.foldl (enterSubtask parentActionId now) ledger) := by
  induction subtasks generalizing ledger with
  | nil => exact Worked.refl ledger
  | cons subtask rest ih =>
    have first := enterSubtask_worked parentActionId now ledger subtask
      (inside _ List.mem_cons_self)
    exact first.trans (ih _ fun id member => inside id (List.mem_cons_of_mem _ member))

theorem addSubtasks_worked (now : Time)
    (inside : (ledger.getTask (actionTaskId parentActionId)).isSome = true →
      ∀ id ∈ subtaskIds parentActionId now subtasks ledger, minted id) :
    Worked Linked minted ledger
      (ledger.addSubtasks parentActionId subtasks now).2 := by
  simp only [addSubtasks]
  cases found : ledger.getTask (actionTaskId parentActionId) with
  | none => exact Worked.refl ledger
  | some parent =>
    have entered := enterSubtasks_worked parentActionId now subtasks ledger
      (inside (by simp [found]))
    exact saved (entered.trans (linkTask_worked _ (actionTaskId parentActionId) _ fun task =>
      tried_lived task .blocked _ now))

theorem markedMove_lived (task marked : Task) (wanted : Bool) (newStatus : Status)
    (reason : String) (now : Time) (same : SameIdentity task marked)
    (status : marked.status = task.status) (history : marked.stateHistory = task.stateHistory) :
    Lived SameIdentity task
      (if wanted then (marked.transitionTo newStatus reason now).getD marked else task) := by
  split
  · exact (Lived.fields same status history).trans (tried_lived marked newStatus reason now)
  · exact Lived.refl task

theorem scheduledAt_lived (scheduledAt : Option String) :
    Lived SameIdentity task
      (if nonEmpty scheduledAt then { task with scheduledAt := scheduledAt } else task) := by
  split
  · exact Lived.fields rfl rfl rfl
  · exact Lived.refl task

theorem route_lived : Lived SameIdentity task (classification.route task now) :=
  ((markedMove_lived task _ classification.shouldDelegate .delegated _ now (by rfl) (by rfl)
      (by rfl)).trans
    (markedMove_lived _ _ classification.defer .deferred _ now (by rfl) (by rfl) (by rfl))).trans
    (scheduledAt_lived _ _)

theorem blocking_lived : Lived SameIdentity task (classification.blocking task) := by
  simp only [Classification.blocking]
  split
  · exact Lived.refl task
  · exact Lived.fields rfl rfl rfl

theorem settlePendingReason_lived : Lived SameIdentity task (settlePendingReason task) := by
  simp only [settlePendingReason]
  split
  · exact Lived.fields rfl rfl rfl
  · exact Lived.refl task

theorem task_lived (discovery : Discovery) (taskId : TaskId) (description : String)
    (relatedPresent : Bool) (now : Time) :
    Lived SameIdentity (Task.create taskId description .autonomous now)
      (classification.task discovery taskId description relatedPresent now) := by
  have created : Lived SameIdentity (Task.create taskId description .autonomous now)
      (classification.created discovery taskId description now) := Lived.fields rfl rfl rfl
  have routed := (created.trans (blocking_lived classification _)).trans
    (route_lived classification _ now)
  have conditional (task : Task) :
      Lived SameIdentity task (classification.conditional relatedPresent task) :=
    Lived.fields rfl rfl rfl
  exact (routed.trans (conditional _)).trans (settlePendingReason_lived _)

theorem registerDependent_worked (ledger : SmartLedger) (prerequisiteId : TaskId) :
    Worked Linked minted ledger (registerDependent taskId ledger prerequisiteId) := by
  apply linkTask_worked
  intro task
  exact Lived.fields ⟨rfl, List.prefix_rfl, List.prefix_rfl, appendLink_prefix _ _⟩ rfl rfl

/-- The parent of a new task is moved to BLOCKED, and told why. -/
theorem stageStatus_blocked (errorMessage : Option String) (now : Time)
    (found : ledger.getTask task.taskId = some task)
    (valid : task.validateTransition .blocked = true) :
    Reworked (Lived Linked) ledger (stageStatus host ledger task
      { status := .blocked, errorMessage := errorMessage } now).1 := by
  have allowed : transitionRefusalBetween task.status .blocked = none := by
    simpa [Task.validateTransition, Task.transitionRefusal] using valid
  have finish (current : Task) : Lived Linked current
      (finishFields { status := .blocked, errorMessage := errorMessage } now current) := by
    simp only [finishFields, reduceCtorEq, false_and, ↓reduceIte]
    split
    · exact Lived.fields ⟨rfl, List.prefix_rfl, List.prefix_rfl, List.prefix_rfl⟩ rfl rfl
    · exact Lived.refl current
  have recorded (reason : String) : Reworked (Lived Linked) ledger
      (ledger.putTask (task.recordStateTransition .blocked reason now)) := by
    have life : Lived Linked task (task.recordStateTransition .blocked reason now) :=
      Lived.moved task .blocked reason now (Or.inl allowed)
    exact reworked_putTask ledger task _ (fun other _ => Lived.refl other) found life
  have finished (current : SmartLedger) : Reworked (Lived Linked) current
      (current.modifyTask task.taskId
        (finishFields { status := .blocked, errorMessage := errorMessage } now)) := by
    apply reworked_modifyTask Lived.refl
    · intro other named
      exact (Lived.linked_taskId (finish other)).trans named
    · intro other _
      exact finish other
  exact (recorded _).trans (fun _ _ _ one two => one.trans two) (finished _)

theorem awaitChild_worked (parentTaskId : Option TaskId) (taskId : TaskId)
    (taskDescription : String) (now : Time) :
    Worked Linked minted ledger
      (ledger.awaitChild host parentTaskId taskId taskDescription now) := by
  simp only [awaitChild]
  split
  next => exact Worked.refl ledger
  next parentId _ =>
    have linked := @linkTask_worked minted ledger parentId
      (fun t => { t with childTaskIds := appendLink taskId t.childTaskIds })
      fun t => Lived.fields ⟨rfl, appendLink_prefix _ _, List.prefix_rfl, List.prefix_rfl⟩ rfl rfl
    split
    next => exact linked
    next waiting _ =>
      split
      · exact linked
      · exact linked.trans (updateTaskStatus_worked_of host _ parentId _ now
          fun current found _ valid _ => stageStatus_blocked host _ current _ now found valid)

theorem addDynamicTask_worked (taskDescription : String) (discovery : Discovery)
    (classification : Classification) (now : Time) (inside : minted ledger.dynamicId) :
    Worked Linked minted ledger
      (ledger.addDynamicTask host taskDescription discovery classification now).2 := by
  simp only [addDynamicTask]
  have life := task_lived classification discovery ledger.dynamicId taskDescription
    (ledger.relatedSibling classification).isSome now
  generalize classification.task discovery ledger.dynamicId taskDescription
    (ledger.relatedSibling classification).isSome now = task at life ⊢
  have named : task.taskId = ledger.dynamicId := life.taskId
  have onwards (told : SmartLedger) (linked : Worked Linked minted ledger told) :
      Worked Linked minted ledger (((task.prerequisites.foldl
        (registerDependent ledger.dynamicId) told).putTask task).save.2.awaitChild host
          task.parentTaskId ledger.dynamicId taskDescription now) := by
    have wired := linked.trans (foldl_worked (registerDependent ledger.dynamicId)
      task.prerequisites
      (fun current id _ => registerDependent_worked ledger.dynamicId current id) told)
    have entered := saved (wired.trans (putTask_minted _ task (named ▸ inside)
      (life.validHistory (Task.StartsFresh.validHistory ⟨_, rfl, rfl⟩))))
    exact entered.trans (awaitChild_worked host _ task.parentTaskId ledger.dynamicId
      taskDescription now)
  cases ledger.relatedSibling classification with
  | none => exact onwards ledger (Worked.refl ledger)
  | some id =>
    apply onwards
    apply linkTask_worked
    intro other
    exact Lived.fields ⟨rfl, List.prefix_rfl, List.prefix_append _ _, List.prefix_rfl⟩ rfl rfl

end Creating

end Hartos.SmartLedger
