import Hartos.LedgerSessions

/-!
The ids the creating operations give out. Each operation numbers by a count of its
own and none looks whether the id is taken, so what a call gives out follows from
the ids in the ledger; a task is replaced when one of these is among them. Only
`add_task` takes an id out of those that were loaded: a task created by another
operation under such an id still passes for one that an earlier process left.
-/
namespace Hartos.SmartLedger
open TaskStatus KeyedTable
open Hartos.Task (Lived SameIdentity)

def enteredKeys (keys : List TaskId) (taskId : TaskId) : List TaskId :=
  if taskId ∈ keys then keys else keys ++ [taskId]

def sequenceNames (parentTaskId : Option TaskId) : Nat → Nat → List TaskId → List TaskId
  | 0, _, _ => []
  | count + 1, position, keys =>
      let taskId := sequentialName parentTaskId position keys.length
      taskId :: sequenceNames parentTaskId count (position + 1) (enteredKeys keys taskId)

def subtaskNames (parentActionId : Int) : List SubtaskSpec → List TaskId → List TaskId
  | [], _ => []
  | subtask :: rest, keys =>
      let taskId := subtaskName parentActionId subtask keys.length
      taskId :: subtaskNames parentActionId rest (enteredKeys keys taskId)

def LedgerOperation.names (ledger : SmartLedger) : LedgerOperation → List TaskId
  | .createParentChildTask parentTaskId _ _ _ =>
      ((ledger.getTask parentTaskId).map childId).toList
  | .createSiblingTasks parentTaskId descriptions _ =>
      if (ledger.getTask parentTaskId).isSome then siblingIds parentTaskId descriptions.length
      else []
  | .createSequentialTasks descriptions _ parentTaskId =>
      sequenceNames parentTaskId descriptions.length 1 ledger.tasks.keys
  | .addDynamicTask _ _ _ => [ledger.dynamicId]
  | .addSubtasks parentActionId subtasks =>
      if (ledger.getTask (actionTaskId parentActionId)).isSome then
        subtaskNames parentActionId subtasks ledger.tasks.keys
      else []
  | _ => []

variable (ledger : SmartLedger) (taskId : TaskId) (call : LedgerCall) (task : Task)

theorem keys_putTask :
    (ledger.putTask task).tasks.keys = enteredKeys ledger.tasks.keys task.taskId :=
  Table.keys_set ledger.tasks task

theorem keys_linkTask (change : Task → Task) (links : ∀ task, Lived Linked task (change task)) :
    (ledger.modifyTask taskId change).tasks.keys = ledger.tasks.keys := by
  have change := @reworked_modifyTask (fun _ _ => True) (fun _ => trivial) ledger taskId change
    (fun task named => (Lived.linked_taskId (links task)).trans named) (fun _ _ => trivial)
  exact change.keys

theorem keys_enterChained (description : String) (taskType : TaskType)
    (parentTaskId previousTaskId : Option TaskId) (now : Time) :
    (ledger.enterChained taskId description taskType parentTaskId previousTaskId
      now).tasks.keys = enteredKeys ledger.tasks.keys taskId := by
  have told : (ledger.tellPrevious taskId previousTaskId now).tasks.keys = ledger.tasks.keys := by
    cases previousTaskId with
    | none => rfl
    | some previous =>
      exact keys_linkTask ledger previous _ fun task => addDependentTask_linked task taskId now
  have entered : ((ledger.tellPrevious taskId previousTaskId now).putTask (chainedTask taskId
      description taskType parentTaskId previousTaskId now)).tasks.keys =
        enteredKeys ledger.tasks.keys taskId := by
    rw [keys_putTask, told, (chainedTask_valid taskId description taskType parentTaskId
      previousTaskId now).2]
  simp only [enterChained]
  cases givenParent parentTaskId with
  | none => exact entered
  | some parent =>
    exact (keys_linkTask _ parent _ fun task => addChildTask_linked task taskId now).trans entered

theorem keys_length : ledger.tasks.keys.length = ledger.tasks.rows.length := List.length_map _

theorem sequence_names (taskType : TaskType) (parentTaskId : Option TaskId) (now : Time)
    (descriptions : List String) (position : Nat) (previousTaskId : Option TaskId)
    (ledger : SmartLedger) :
    (enterSequence taskType parentTaskId now descriptions position previousTaskId ledger).1 =
      sequenceNames parentTaskId descriptions.length position ledger.tasks.keys := by
  induction descriptions generalizing position previousTaskId ledger with
  | nil => rfl
  | cons description rest ih =>
    simp only [enterSequence, List.length_cons, sequenceNames, ih, keys_enterChained,
      sequentialId, keys_length]

theorem subtask_names (parentActionId : Int) (now : Time) (subtasks : List SubtaskSpec)
    (ledger : SmartLedger) :
    subtaskIds parentActionId now subtasks ledger =
      subtaskNames parentActionId subtasks ledger.tasks.keys := by
  induction subtasks generalizing ledger with
  | nil => rfl
  | cons subtask rest ih =>
    have entered : (enterSubtask parentActionId now ledger subtask).tasks.keys =
        enteredKeys ledger.tasks.keys (ledger.subtaskId parentActionId subtask) :=
      keys_putTask ledger _
    simp only [subtaskIds, subtaskNames, ih, entered, subtaskId, keys_length]

theorem minted_names (now : Time) (operation : LedgerOperation) :
    operation.mintedIds ledger now = operation.names ledger := by
  cases operation with
  | createSequentialTasks descriptions taskType parentTaskId =>
    exact sequence_names taskType parentTaskId now descriptions 1 none ledger
  | addSubtasks parentActionId subtasks =>
    simp only [LedgerOperation.mintedIds, LedgerOperation.names, subtask_names]
  | _ => rfl

structure Survives (old new : Task) : Prop where
  linked : Linked old new
  history : old.stateHistory <+: new.stateHistory
  status : new.stateHistory = old.stateHistory → new.status = old.status

/-- The tasks of this process stay, those that an earlier one has finished may go. -/
def Preserves (session : Session) (after : SmartLedger) : Prop :=
  ∀ taskId old, session.ledger.getTask taskId = some old →
    (∃ new, after.getTask taskId = some new ∧ Survives old new) ∨
      (old.isTerminal = true ∧ taskId ∈ session.ledger.loadedTaskIds ∧ taskId ∉ session.created)

-- A task whose history did not grow is in the status it was in.
theorem Lived.status_or_longer {kept : Task → Task → Prop} {old new : Task}
    (life : Lived kept old new) :
    new.status = old.status ∨ old.stateHistory.length < new.stateHistory.length := by
  induction life with
  | refl => exact Or.inl rfl
  | tail _ step before =>
    cases step with
    | fields same status history =>
      rw [status, history]
      exact before
    | moved newStatus reason now allowed =>
      simp only [Task.recordStateTransition, List.length_append, List.length_cons,
        List.length_nil]
      have shorter := (Lived.history_prefix ‹Relation.ReflTransGen _ _ _›).length_le
      omega

theorem Lived.survives {old new : Task} (life : Lived Linked old new) : Survives old new := by
  constructor
  · exact Lived.linked life
  · exact Task.Lived.history_prefix life
  · intro same
    rcases Lived.status_or_longer life with kept | longer
    · exact kept
    · rw [same] at longer
      exact absurd longer (Nat.lt_irrefl _)

theorem Survives.refl : Survives task task := Lived.survives (Task.Lived.refl task)

/-- The ids a call enters tasks under. -/
def LedgerOperation.handsOut (ledger : SmartLedger) (operation : LedgerOperation) : List TaskId :=
  match operation.addedTask with
  | some task => if ledger.acceptsId task.taskId then [task.taskId] else []
  | none => operation.names ledger

/-- Each id is free, or of a task that an earlier process finished and this one did not create
anew; and none is given out twice. -/
def FreeNames (session : Session) (operation : LedgerOperation) : Prop :=
  (operation.handsOut session.ledger).Nodup ∧
    ∀ taskId ∈ operation.handsOut session.ledger, session.ledger.acceptsId taskId = true ∧
      (taskId ∈ session.ledger.tasks.keys → taskId ∉ session.created)

instance (session : Session) (operation : LedgerOperation) :
    Decidable (FreeNames session operation) :=
  inferInstanceAs (Decidable (_ ∧ ∀ taskId ∈ operation.handsOut session.ledger,
    session.ledger.acceptsId taskId = true ∧
      (taskId ∈ session.ledger.tasks.keys → taskId ∉ session.created)))

def LedgerOperation.entersTasks (operation : LedgerOperation) : Bool :=
  operation.creates || operation.addedTask.isSome

variable (session : Session)

/-- A task whose id is given out all the same is one that may go. -/
theorem FreeNames.exempt {session : Session} {operation : LedgerOperation}
    (free : FreeNames session operation) (taskId : TaskId) (old : Task)
    (found : session.ledger.getTask taskId = some old)
    (hit : taskId ∈ operation.handsOut session.ledger) :
    old.isTerminal = true ∧ taskId ∈ session.ledger.loadedTaskIds ∧ taskId ∉ session.created := by
  obtain ⟨accepted, foreign⟩ := free.2 taskId hit
  simp only [acceptsId, found, Bool.and_eq_true, decide_eq_true_eq] at accepted
  refine ⟨accepted.1, accepted.2, foreign ?_⟩
  exact (Table.mem_keys session.ledger.tasks taskId).mpr ⟨old, found⟩

theorem addTask_keeps (deferSave : Bool) (taskId : TaskId) (old : Task)
    (found : ledger.getTask taskId = some old)
    (other : ledger.acceptsId task.taskId = true → task.taskId ≠ taskId) :
    (ledger.addTask task deferSave).2.getTask taskId = some old := by
  unfold addTask insertTask
  by_cases accepted : ledger.acceptsId task.taskId = true
  · have apart := other accepted
    have stays : (ledger.putTask task).getTask taskId = some old := by
      rw [getTask_putTask, if_neg apart, found]
    rw [if_pos accepted]
    cases deferSave with
    | true => exact stays
    | false => exact stays
  · rw [if_neg accepted]
    exact found

/-- The step lemma: a call that enters tasks keeps every task whose id it does not give out. -/
theorem perform_survives (enters : call.operation.entersTasks = true) (old : Task)
    (found : ledger.getTask taskId = some old) (missed : taskId ∉ call.operation.handsOut ledger) :
    ∃ new, (ledger.perform call).getTask taskId = some new ∧ Survives old new := by
  have added (task : Task) (deferSave : Bool) (handed : call.operation.addedTask = some task)
      (ends : ledger.perform call = (ledger.addTask task deferSave).2) :
      ∃ new, (ledger.perform call).getTask taskId = some new ∧ Survives old new := by
    refine ⟨old, ?_, Survives.refl old⟩
    rw [ends]
    apply addTask_keeps ledger task deferSave taskId old found
    intro accepted same
    apply missed
    unfold LedgerOperation.handsOut
    rw [handed, ← same]
    dsimp only
    rw [if_pos accepted]
    exact List.mem_singleton_self task.taskId
  obtain ⟨operation, now, host⟩ := call
  by_cases creates : operation.creates = true
  · have worked := creating_worked ledger ⟨operation, now, host⟩ creates
    have created : operation.addedTask = none := by
      cases operation with
      | createParentChildTask | createSiblingTasks | createSequentialTasks | addDynamicTask
      | addSubtasks => rfl
      | _ => cases creates
    have free : taskId ∉ operation.mintedIds ledger now := by
      rw [minted_names]
      unfold LedgerOperation.handsOut at missed
      rwa [created] at missed
    obtain ⟨new, there, life⟩ := worked.tasks.lives taskId old found free
    exact ⟨new, there, Lived.survives life⟩
  · cases operation with
    | addTask task deferSave => exact added task deferSave rfl rfl
    | change operation =>
      cases operation with
      | addTask task => exact added task false rfl rfl
      | _ => cases enters
    | _ => first | exact absurd rfl creates | cases enters

theorem step_tasks (enters : call.operation.entersTasks = true) : ∃ stored,
    (session.step call).ledger.tasks =
      ((session.ledger.withStored stored).perform call).tasks := by
  have reads : call.operation.reads = false := by
    obtain ⟨operation, now, host⟩ := call
    cases operation with
    | reload | restart => cases enters
    | _ => rfl
  unfold Session.step
  split
  · refine ⟨none, ?_⟩
    unfold Session.shareStep
    rw [reads]
    dsimp only [Bool.false_eq_true, ↓reduceIte]
    split
    · rfl
    · rfl
  · exact ⟨session.ledger.backend.stored, rfl⟩

theorem entering_preserves (enters : call.operation.entersTasks = true)
    (free : FreeNames session call.operation) :
    Preserves session (session.step call).ledger := by
  intro taskId old found
  by_cases hit : taskId ∈ call.operation.handsOut session.ledger
  · exact Or.inr (free.exempt taskId old found hit)
  · left
    obtain ⟨stored, same⟩ := step_tasks call session enters
    obtain ⟨new, there, survives⟩ :=
      perform_survives (session.ledger.withStored stored) taskId call enters old found hit
    refine ⟨new, ?_, survives⟩
    unfold getTask at there ⊢
    rw [same, there]

/-- In a run whose creating calls all meet a ledger in which the ids they number are free, no task
that is in the ledger is ever replaced by a new one, but for those that an earlier process has
finished. -/
theorem free_names_preserve_tasks (storage : Storage) (run : List LedgerCall)
    (free : StepSystem.Along Session.step
      (fun session call => FreeNames session call.operation) (Session.opened storage) run) :
    StepSystem.Along Session.step (fun session call => call.operation.entersTasks = true →
      Preserves session (session.step call).ledger) (Session.opened storage) run :=
  StepSystem.along_of_invariant Session.step (fun _ => True)
    (fun session call => FreeNames session call.operation)
    (fun session call => call.operation.entersTasks = true →
      Preserves session (session.step call).ledger)
    (fun _ _ _ _ => trivial)
    (fun session call _ met enters => entering_preserves call session enters met)
    run (Session.opened storage) trivial free

def familyCalls : List LedgerCall :=
  [calledAt 1 (.addTask (Task.create "action_1" "work" .autonomous 0) false),
    calledAt 2 (.createSiblingTasks "action_1" ["left", "right"] .autonomous),
    calledAt 3 (.createParentChildTask "action_1" "child" .intermediate {}),
    calledAt 4 (.createSequentialTasks ["first", "second"] .autonomous none),
    calledAt 5 (.addSubtasks 1 [{}, { subtaskId := some "x" }]),
    calledAt 6 (.addDynamicTask "found" {} {})]

theorem family_preserves_tasks :
    StepSystem.Along Session.step (fun session call => call.operation.entersTasks = true →
      Preserves session (session.step call).ledger) (Session.opened .inMemory) familyCalls :=
  free_names_preserve_tasks .inMemory familyCalls (by decide)

def siblingsTwice : List LedgerCall :=
  [calledAt 1 (.addTask (Task.create "p" "work" .autonomous 0) false),
    calledAt 2 (.createSiblingTasks "p" ["left"] .autonomous),
    calledAt 3 (.updateTaskStatus "p_sibling_1" { status := .inProgress }),
    calledAt 4 (.createSiblingTasks "p" ["right"] .autonomous)]

theorem siblings_created_twice_replace :
    ¬ StepSystem.Along Session.step (fun session call => call.operation.entersTasks = true →
      Preserves session (session.step call).ledger)
      (Session.opened (.copying fun _ => .accepted)) siblingsTwice := by
  rintro ⟨_, _, _, last, _⟩
  rcases last rfl "p_sibling_1" _ rfl with ⟨new, there, survives⟩ | ⟨terminal, _⟩
  · have history := survives.history.length_le
    cases there
    revert history
    decide
  · revert terminal
    decide

/-- After a restart the sibling that this process created and cancelled still passes for loaded. -/
example :
    let session := StepSystem.final Session.step (Session.opened .inMemory)
      [calledAt 1 (.addTask (Task.create "p" "work" .autonomous 0) false),
        calledAt 2 (.addTask
          { Task.create "p_sibling_1" "old" .autonomous 0 with status := .completed } false),
        calledAt 3 (.restart true),
        calledAt 4 (.createSiblingTasks "p" ["left"] .autonomous),
        calledAt 5 (.updateTaskStatus "p_sibling_1" { status := .cancelled })]
    session.ledger.acceptsId "p_sibling_1" = true ∧
      ¬ FreeNames session (.createSiblingTasks "p" ["right"] .autonomous) := by decide

end Hartos.SmartLedger
