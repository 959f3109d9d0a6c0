import Hartos.LedgerRuns
import Hartos.StateHistory

/-!
What each operation does to the tasks of a ledger, said once. A task that was
there lives on; a task that was not there, or that took the place of another,
stands under an id the operation minted and starts a history of its own. What
reaches storage is the ledger at some moment of the operation.
-/
namespace Hartos.SmartLedger
open TaskStatus KeyedTable

section Worked
variable (kept : Task → Task → Prop) (minted : TaskId → Prop)

structure Grown (before after : TaskTable) : Prop where
  lives : ∀ taskId old, before.get? taskId = some old → ¬ minted taskId →
    ∃ new, after.get? taskId = some new ∧ Task.Lived kept old new
  origin : ∀ taskId new, after.get? taskId = some new →
    (∃ old, before.get? taskId = some old ∧ Task.Lived kept old new) ∨
      (minted taskId ∧ new.ValidHistory)
  keys : ∀ taskId ∈ before.keys, taskId ∈ after.keys

structure Worked (before after : SmartLedger) : Prop where
  tasks : Grown kept minted before.tasks after.tasks
  taskOrder : after.taskOrder = before.taskOrder
  loadedTaskIds : after.loadedTaskIds = before.loadedTaskIds
  stored : after.backend.stored = before.backend.stored ∨
    ∃ image, after.backend.stored = some image ∧ image.taskOrder = before.taskOrder ∧
      Grown kept minted before.tasks image.tasks

variable {kept minted} {before middle after : SmartLedger}

theorem Grown.refl (table : TaskTable) : Grown kept minted table table := by
  constructor
  · intro taskId old found _
    exact ⟨old, found, Task.Lived.refl old⟩
  · intro taskId new found
    exact Or.inl ⟨new, found, Task.Lived.refl new⟩
  · intro taskId member
    exact member

theorem Grown.trans {first second third : TaskTable} (one : Grown kept minted first second)
    (two : Grown kept minted second third) : Grown kept minted first third := by
  constructor
  · intro taskId old found free
    obtain ⟨new, there, life⟩ := one.lives taskId old found free
    obtain ⟨newer, later, more⟩ := two.lives taskId new there free
    exact ⟨newer, later, life.trans more⟩
  · intro taskId new found
    rcases two.origin taskId new found with ⟨old, there, life⟩ | born
    · rcases one.origin taskId old there with ⟨older, earlier, more⟩ | ⟨here, valid⟩
      · exact Or.inl ⟨older, earlier, more.trans life⟩
      · exact Or.inr ⟨here, life.validHistory valid⟩
    · exact Or.inr born
  · intro taskId member
    exact two.keys taskId (one.keys taskId member)

variable {coarse : Task → Task → Prop} {wider : TaskId → Prop} {first second : TaskTable}
  (ledger : SmartLedger)

theorem Grown.of_evolves (rows : Table.Evolves (Task.Lived kept) first second) :
    Grown kept minted first second := by
  constructor
  · intro taskId old found _
    exact rows.get?_some taskId old found
  · intro taskId new found
    exact Or.inl (rows.get?_origin taskId new found)
  · intro taskId member
    exact rows.keys ▸ member

theorem Grown.mono (grown : Grown kept minted first second)
    (weaker : ∀ old new, kept old new → coarse old new)
    (wide : ∀ taskId, minted taskId → wider taskId) : Grown coarse wider first second := by
  constructor
  · intro taskId old found free
    obtain ⟨new, there, life⟩ :=
      grown.lives taskId old found fun inside => free (wide taskId inside)
    exact ⟨new, there, life.mono weaker⟩
  · intro taskId new found
    rcases grown.origin taskId new found with ⟨old, there, life⟩ | ⟨inside, valid⟩
    · exact Or.inl ⟨old, there, life.mono weaker⟩
    · exact Or.inr ⟨wide taskId inside, valid⟩
  · exact grown.keys

/-- An operation that leaves tasks, order and storage alone. -/
theorem Worked.of_same (tasks : after.tasks = before.tasks)
    (taskOrder : after.taskOrder = before.taskOrder)
    (loadedTaskIds : after.loadedTaskIds = before.loadedTaskIds)
    (stored : after.backend.stored = before.backend.stored) : Worked kept minted before after := by
  refine ⟨?_, taskOrder, loadedTaskIds, Or.inl stored⟩
  rw [tasks]
  exact Grown.refl before.tasks

theorem Worked.refl : Worked kept minted ledger ledger :=
  Worked.of_same rfl rfl rfl rfl

theorem Worked.trans (one : Worked kept minted before middle)
    (two : Worked kept minted middle after) : Worked kept minted before after := by
  constructor
  · exact one.tasks.trans two.tasks
  · exact two.taskOrder.trans one.taskOrder
  · exact two.loadedTaskIds.trans one.loadedTaskIds
  · rcases two.stored with same | ⟨image, written, order, rows⟩
    · rw [same]
      exact one.stored
    · exact Or.inr ⟨image, written, order.trans one.taskOrder, one.tasks.trans rows⟩

theorem Worked.mono (worked : Worked kept minted before after)
    (weaker : ∀ old new, kept old new → coarse old new)
    (wide : ∀ taskId, minted taskId → wider taskId) : Worked coarse wider before after := by
  refine ⟨worked.tasks.mono weaker wide, worked.taskOrder, worked.loadedTaskIds, ?_⟩
  rcases worked.stored with same | ⟨image, written, order, rows⟩
  · exact Or.inl same
  · exact Or.inr ⟨image, written, order, rows.mono weaker wide⟩

theorem Reworked.worked (change : Reworked (Task.Lived kept) before after) :
    Worked kept minted before after :=
  ⟨Grown.of_evolves change.rows, change.taskOrder, change.loadedTaskIds,
    Or.inl (congrArg Backend.stored change.backend)⟩

theorem save_worked : Worked kept minted ledger ledger.save.2 := by
  refine ⟨Grown.refl ledger.tasks, rfl, rfl, ?_⟩
  by_cases accepted : ledger.backend.next = .accepted
  · exact Or.inr ⟨ledger.image, save_stored ledger accepted, rfl, Grown.refl ledger.tasks⟩
  · exact Or.inl (save_keeps_stored ledger accepted)

theorem saved (worked : Worked kept minted before after) :
    Worked kept minted before after.save.2 := worked.trans (save_worked after)

/-- A task entered under a minted id, whatever stood there. -/
theorem putTask_minted (task : Task) (inside : minted task.taskId) (valid : task.ValidHistory) :
    Worked kept minted ledger (ledger.putTask task) := by
  refine ⟨?_, rfl, rfl, Or.inl rfl⟩
  constructor
  · intro taskId old found free
    have other : task.taskId ≠ taskId := fun same => free (same ▸ inside)
    refine ⟨old, ?_, Task.Lived.refl old⟩
    simp only [putTask, Table.get?_set, if_neg other]
    exact found
  · intro taskId new found
    simp only [putTask, Table.get?_set] at found
    split at found
    next same =>
      cases found
      exact Or.inr ⟨same ▸ inside, valid⟩
    next => exact Or.inl ⟨new, found, Task.Lived.refl new⟩
  · intro taskId member
    simp only [putTask, Table.keys_set]
    split
    · exact member
    · exact List.mem_append_left _ member

theorem modifyTask_worked (taskId : TaskId) (change : Task → Task)
    (sameId : ∀ task, task.taskId = taskId → (change task).taskId = taskId)
    (lives : ∀ task, ledger.getTask taskId = some task → Task.Lived kept task (change task)) :
    Worked kept minted ledger (ledger.modifyTask taskId change) :=
  (reworked_modifyTask Task.Lived.refl ledger taskId change sameId lives).worked

end Worked

structure HoldsOfImages (invariant : LedgerImage → Prop) (ledger : SmartLedger) : Prop where
  memory : invariant ledger.image
  stored : ∀ image, ledger.backend.stored = some image → invariant image

section Images
variable {invariant : LedgerImage → Prop} {ledger : SmartLedger}

/-- What a row of tasks may grow into keeps the invariant if it keeps it at every
moment a save could fall on. -/
theorem HoldsOfImages.worked {kept : Task → Task → Prop} {minted : TaskId → Prop}
    {after : SmartLedger} (holds : HoldsOfImages invariant ledger)
    (worked : Worked kept minted ledger after)
    (grows : ∀ tasks, Grown kept minted ledger.tasks tasks → invariant ⟨ledger.taskOrder, tasks⟩) :
    HoldsOfImages invariant after := by
  constructor
  · rw [image, worked.taskOrder]
    exact grows after.tasks worked.tasks
  · intro image held
    rcases worked.stored with same | ⟨written, there, order, rows⟩
    · exact holds.stored image (same.symm.trans held)
    · have this : written = image := Option.some.inj (there.symm.trans held)
      subst this
      obtain ⟨taskOrder, tasks⟩ := written
      cases order
      exact grows tasks rows

theorem HoldsOfImages.save (holds : HoldsOfImages invariant ledger) :
    HoldsOfImages invariant ledger.save.2 := by
  refine ⟨holds.memory, ?_⟩
  intro image held
  by_cases accepted : ledger.backend.next = .accepted
  · rw [save_stored ledger accepted] at held
    cases held
    exact holds.memory
  · rw [save_keeps_stored ledger accepted] at held
    exact holds.stored image held

theorem HoldsOfImages.addTask (holds : HoldsOfImages invariant ledger) (task : Task)
    (deferSave : Bool)
    (entered : invariant ⟨if task.taskId ∈ ledger.taskOrder then ledger.taskOrder
      else ledger.taskOrder ++ [task.taskId], ledger.tasks.set task⟩) :
    HoldsOfImages invariant (ledger.addTask task deferSave).2 := by
  simp only [SmartLedger.addTask, insertTask]
  split
  next => exact holds
  next inserted put =>
    split at put
    · cases put
      split
      · exact ⟨entered, holds.stored⟩
      · exact HoldsOfImages.save ⟨entered, holds.stored⟩
    · cases put

section

variable (empty : invariant ⟨[], Table.empty Task.taskId⟩)
include empty

theorem holdsOfImages_load (pubsub : Bool) (backend : Backend)
    (stored : ∀ image, backend.stored = some image → invariant image) :
    HoldsOfImages invariant (SmartLedger.load pubsub backend) := by
  simp only [load]
  split
  next image held => exact ⟨stored image held, stored⟩
  next => exact ⟨empty, stored⟩

theorem HoldsOfImages.reload (holds : HoldsOfImages invariant ledger) (readable : Bool) :
    HoldsOfImages invariant (ledger.reload readable) := by
  simp only [SmartLedger.reload]
  split
  · split
    next => exact holds
    next image held => exact ⟨holds.stored image held, holds.stored⟩
  · exact ⟨empty, holds.stored⟩

theorem HoldsOfImages.restart (holds : HoldsOfImages invariant ledger) (readable : Bool) :
    HoldsOfImages invariant (ledger.restart readable) := by
  simp only [SmartLedger.restart]
  split
  · exact holdsOfImages_load empty false ledger.backend holds.stored
  · exact ⟨empty, holds.stored⟩

end

end Images

section Existing
open Hartos.Task (Lived SameData DataBound)
variable {minted : TaskId → Prop} {kept : Task → Task → Prop} [bound : DataBound kept]

omit bound in
theorem Reworked.later {before middle after : SmartLedger}
    (first : Reworked (Lived kept) before middle)
    (second : Reworked (Lived kept) middle after) : Reworked (Lived kept) before after :=
  first.trans (fun _ _ _ one two => one.trans two) second

variable (host : Host) (ledger : SmartLedger) (task : Task) (taskId : TaskId) (outcome : String)
  (result : Option Value) (update : StatusUpdate) (now : Time)

theorem modifyTask_lived (change : Task → Task) (lives : ∀ task, Lived kept task (change task)) :
    Reworked (Lived kept) ledger (ledger.modifyTask taskId change) := by
  apply reworked_modifyTask Lived.refl ledger taskId change
  · intro task named
    exact (lives task).taskId.trans named
  · intro task _
    exact lives task

theorem putTask_lived (task new : Task) (found : ledger.getTask task.taskId = some task)
    (life : Lived kept task new) : Reworked (Lived kept) ledger (ledger.putTask new) :=
  reworked_putTask ledger task new (fun other _ => Lived.refl other)
    (life.taskId ▸ found) life

theorem generateEvent_worked {kept : Task → Task → Prop} (ledger : SmartLedger)
    (data : EventData) (now : Time) : Worked kept minted ledger (ledger.generateEvent data now) :=
  Worked.of_same rfl rfl rfl rfl

variable (reason : String) (mover : Task → Option Task)

theorem moveTask_worked (event : Task → Option EventData) (now : Time)
    (lives : ∀ task moved, mover task = some moved → Lived kept task moved) :
    Worked kept minted ledger (ledger.moveTask taskId mover event now).2 := by
  simp only [moveTask]
  cases looked : (ledger.getTask taskId).bind mover with
  | none => exact Worked.refl ledger
  | some moved =>
    obtain ⟨task, found, done⟩ := Option.bind_eq_some_iff.mp looked
    have put : Worked kept minted ledger (ledger.putTask moved) :=
      (putTask_lived ledger task moved (ledger.getTask_self taskId task found)
        (lives task moved done)).worked
    dsimp only
    split
    next data _ => exact saved (put.trans (generateEvent_worked _ data now))
    next => exact saved put

theorem moveTaskOrUndo_worked
    (lives : ∀ task moved, mover task = some moved → Lived kept task moved) :
    Worked kept minted ledger (ledger.moveTaskOrUndo taskId mover).2 := by
  simp only [moveTaskOrUndo]
  cases found : ledger.getTask taskId with
  | none => exact Worked.refl ledger
  | some task =>
    dsimp only
    cases done : mover task with
    | none => exact Worked.refl ledger
    | some moved =>
      have self := ledger.getTask_self taskId task found
      have life := lives task moved done
      by_cases accepted : ledger.backend.next = .accepted
      · have written := save_accepted (ledger.putTask moved) accepted
        simp only [written, ↓reduceIte]
        exact saved (putTask_lived ledger task moved self life).worked
      · have failed := save_refused (ledger.putTask moved) accepted
        have undone := Table.set_undo ledger.tasks task moved life.taskId self
        simp only [failed, Bool.false_eq_true, ↓reduceIte]
        exact Worked.of_same undone rfl rfl (save_keeps_stored (ledger.putTask moved) accepted)

/-! The completion cascade. -/

theorem receiveMessages_lived (messages : List Message) (now : Time) :
    Lived kept task (task.receiveMessages messages now) := by
  simp only [Task.receiveMessages]
  split
  · exact Lived.refl task
  · exact Lived.written rfl rfl rfl

theorem removeBlockingTask_lived (blocker : TaskId) (now : Time) :
    Lived kept task (task.removeBlockingTask blocker now) := by
  simp only [Task.removeBlockingTask]
  split
  · exact Lived.written rfl rfl rfl
  · exact Lived.refl task

theorem announce_lived : Lived kept task (announce task now) := by
  simp only [announce]
  split <;> exact Lived.written rfl rfl rfl

theorem deliver_lived (senderId dependentId : TaskId) (now : Time) :
    Reworked (Lived kept) ledger (ledger.deliver senderId dependentId now) := by
  apply deliver_rows ledger senderId dependentId now Lived.refl
  · intro old new messages life _
    exact life.trans (Lived.written rfl rfl rfl)
  · intro old new messages life _
    exact life.trans (receiveMessages_lived new messages now)

theorem visitDependent_lived (senderId : TaskId) (direct : List TaskId) (now : Time)
    (state : SmartLedger × List TaskId) (dependentId : TaskId) :
    Reworked (Lived kept) state.1
      (visitDependent senderId direct now state dependentId).1.1 := by
  apply visitDependent_rows
  · intro _
    exact Reworked.refl Lived.refl state.1
  · split
    · exact deliver_lived state.1 senderId dependentId now
    · exact Reworked.refl Lived.refl state.1
  · intro old new life _
    exact life.trans (removeBlockingTask_lived new senderId now)
  · intro old new reason after life _ _ moved
    exact life.trans (Task.resume_lived (fun _ => bound.ofData rfl) moved)

theorem handleTaskCompletion_lived :
    Reworked (Lived kept) ledger (ledger.handleTaskCompletion host taskId now).1 := by
  simp only [handleTaskCompletion]
  cases found : ledger.getTask taskId with
  | none => exact Reworked.refl Lived.refl ledger
  | some task =>
    have announced : Reworked (Lived kept) ledger (ledger.putTask (announce task now)) :=
      putTask_lived ledger task (announce task now) (ledger.getTask_self taskId task found)
        (announce_lived task now)
    -- The invariant of the loop: what it has reached so far descends from the start.
    refine (Worklist.walk_invariant _
      (fun state : SmartLedger × List TaskId => Reworked (Lived kept) ledger state.1)
      (fun _ => True) ?_ _ _ _ _ announced (fun _ _ => trivial) (by simp)).1
    intro state id holds _
    exact ⟨holds.later
      (visitDependent_lived taskId _ now state id), fun _ _ => trivial⟩

theorem finishFields_lived (task : Task) : Lived kept task (finishFields update now task) := by
  simp only [finishFields]
  split <;> split <;> exact Lived.written rfl rfl rfl

/-- A completion that goes through writes what `kept` allows. -/
def CompletesWithin (kept : Task → Task → Prop) (host : Host) (ledger : SmartLedger)
    (taskId : TaskId) (result : Option Value) : Prop :=
  ∀ task, ledger.getTask taskId = some task → task.validateTransition .completed = true →
    ledger.backend.next = .accepted →
      ∀ current, SameData task current → kept current (completeFields host result current)

theorem stageStatus_lived (found : ledger.getTask task.taskId = some task)
    (valid : task.validateTransition update.status = true)
    (completes : update.status = .completed → ∀ current, SameData task current →
      kept current (completeFields host update.result current)) :
    Reworked (Lived kept) ledger (stageStatus host ledger task update now).1 := by
  have allowed : transitionRefusalBetween task.status update.status = none := by
    simpa [Task.validateTransition, Task.transitionRefusal] using valid
  have recorded : Lived kept task
      (task.recordStateTransition update.status update.transitionReason now) :=
    Lived.moved task update.status _ now (Or.inl allowed)
  have finished (current : SmartLedger) (staged : Reworked (Lived kept) ledger current) :
      Reworked (Lived kept) ledger
        (current.modifyTask task.taskId (finishFields update now)) :=
    staged.later
      (modifyTask_lived current task.taskId _ (finishFields_lived update now))
  apply finished
  split
  · next completing =>
    have completed : Lived kept task (completeFields host update.result
        (task.recordStateTransition update.status update.transitionReason now)) :=
      recorded.trans (Lived.fields (completes completing _ rfl) rfl rfl)
    exact (putTask_lived ledger task _ found completed).later
      (handleTaskCompletion_lived host _ task.taskId now)
  · exact putTask_lived ledger task _ found recorded

theorem emitCompletionEvents_worked {kept : Task → Task → Prop} (ledger : SmartLedger)
    (taskId : TaskId) (autoResumed : List TaskId) (now : Time) :
    Worked kept minted ledger (ledger.emitCompletionEvents taskId autoResumed now) := by
  have resumed (ids : List TaskId) (start : SmartLedger) :
      Worked kept minted start (ids.foldl (fun current id =>
        current.generateEvent (.taskAutoResumed id taskId) now) start) := by
    induction ids generalizing start with
    | nil => exact Worked.refl start
    | cons id rest ih =>
      exact (generateEvent_worked start (.taskAutoResumed id taskId) now).trans (ih _)
  exact (resumed autoResumed ledger).trans (generateEvent_worked _ _ now)

/-- An update does what its in-memory half does, or nothing. -/
theorem updateTaskStatus_worked_of {kept : Task → Task → Prop} (host : Host)
    (ledger : SmartLedger) (taskId : TaskId) (update : StatusUpdate) (now : Time)
    (stages : ∀ task, ledger.getTask task.taskId = some task → task.taskId = taskId →
      task.validateTransition update.status = true →
      update.deferSave = true ∨ ledger.backend.next = .accepted →
      Reworked (Lived kept) ledger (stageStatus host ledger task update now).1) :
    Worked kept minted ledger (ledger.updateTaskStatus host taskId update now).2 := by
  cases updateTaskStatus_cases host ledger taskId update now with
  | unchanged ends =>
    rw [ends]
    exact Worked.refl ledger
  | deferred task found valid deferred ends =>
    rw [ends]
    exact (stages task (ledger.getTask_self taskId task found)
      (ledger.getTask_taskId taskId task found) valid (.inl deferred)).worked
  | done task found valid _ accepted ends =>
    have staged := stages task (ledger.getTask_self taskId task found)
      (ledger.getTask_taskId taskId task found) valid (.inr accepted)
    rw [ends]
    split
    · exact (saved staged.worked).trans (emitCompletionEvents_worked _ taskId _ now)
    · exact saved staged.worked
  | undone task found valid _ refused ends =>
    have staged : Reworked (Lived Task.SameIdentity) ledger
        (stageStatus host ledger task update now).1 :=
      stageStatus_lived host ledger task update now (ledger.getTask_self taskId task found) valid
        fun _ _ _ => rfl
    rw [ends]
    exact Worked.of_same rfl rfl rfl ((save_keeps_stored _ (staged.backend ▸ refused)).trans
      (congrArg Backend.stored staged.backend))

theorem updateTaskStatus_worked
    (completes : update.status = .completed → update.deferSave = false →
      CompletesWithin kept host ledger taskId update.result) :
    Worked kept minted ledger (ledger.updateTaskStatus host taskId update now).2 := by
  -- A completion in a deferred batch is refused, so one that goes through is saved.
  by_cases owned : update.deferSave = true ∧ update.status = .completed
  · have refused : (ledger.updateTaskStatus host taskId update now).2 = ledger := by
      unfold updateTaskStatus
      cases ledger.getTask taskId <;> simp [owned]
    rw [refused]
    exact Worked.refl ledger
  · apply updateTaskStatus_worked_of
    intro task found named valid saves
    apply stageStatus_lived host ledger task update now found valid
    intro completing
    have durable : update.deferSave = false := by
      simpa [completing] using owned
    have accepted : ledger.backend.next = .accepted := by simpa [durable] using saves
    exact completes completing durable task (named ▸ found) (completing ▸ valid) accepted

theorem completeDelegation_worked (now : Time)
    (completes : CompletesWithin kept host ledger taskId result) :
    Worked kept minted ledger
      (ledger.completeDelegation host taskId result reason now).2 := by
  simp only [completeDelegation]
  cases looked : ledger.getTask taskId with
  | none => exact Worked.refl ledger
  | some task =>
    have found := ledger.getTask_self taskId task looked
    have life : Lived kept task { task with delegationResult := result } :=
      Lived.written rfl rfl rfl
    have noted : Worked kept minted ledger
        (ledger.putTask { task with delegationResult := result }) :=
      (putTask_lived ledger task _ found life).worked
    dsimp only
    split
    · have spared : CompletesWithin kept host
          (ledger.putTask { task with delegationResult := result }) taskId result := by
        intro noted held valid accepted
        rw [getTask_putTask] at held
        split at held
        · cases held
          exact fun current same => completes task looked valid accepted current same
        · exact completes noted held valid accepted
      have updated := noted.trans (@updateTaskStatus_worked minted kept _ host _ taskId
        { status := .completed, result := result, reason := some reason } now
        fun _ _ => spared)
      split
      · exact updated
      · refine updated.trans (Reworked.worked ?_)
        apply modifyTask_lived
        intro current
        exact Lived.written rfl rfl rfl
    · exact Worked.refl ledger

theorem reopenTask_worked (deferSave : Bool) (now : Time) :
    Worked kept minted ledger (ledger.reopenTask taskId reason deferSave now).2 := by
  have lives (task moved : Task) (done : task.reopen reason now = some moved) :
      Lived kept task moved :=
    Task.moveFrom_lived done (Or.inr ⟨rfl, rfl⟩) (bound.ofData rfl) rfl rfl
  simp only [reopenTask]
  split
  · cases looked : (ledger.getTask taskId).bind (·.reopen reason now) with
    | none => exact Worked.refl ledger
    | some moved =>
      obtain ⟨task, found, done⟩ := Option.bind_eq_some_iff.mp looked
      exact (putTask_lived ledger task moved (ledger.getTask_self taskId task found)
        (lives task moved done)).worked
  · exact moveTask_worked ledger taskId _ noEvent now lives

/-- The operations on one task: each mover is a move of the table. -/
theorem change_worked (operation : StatusOperation) (existing : ∀ task, operation ≠ .addTask task)
    (completes : ∀ taskId result reason, operation = .completeDelegation taskId result reason →
      CompletesWithin kept host ledger taskId result) :
    Worked kept minted ledger (operation.run host ledger now).2 := by
  cases operation with
  | pauseTask taskId reason =>
    exact moveTask_worked ledger taskId _ noEvent now fun _ _ done =>
      Task.move_lived done (bound.ofData rfl) rfl rfl
  | resumeTask taskId reason =>
    exact moveTask_worked ledger taskId _ noEvent now fun _ _ done =>
      Task.resume_lived (fun _ => bound.ofData rfl) done
  | failTask taskId error =>
    exact moveTask_worked ledger taskId _ noEvent now fun _ _ done =>
      Task.move_lived done (bound.ofData rfl) rfl rfl
  | userStopTask taskId reason =>
    exact moveTask_worked ledger taskId _ noEvent now fun _ _ done =>
      Task.move_lived done (bound.ofData rfl) rfl rfl
  | terminateTask taskId reason =>
    exact moveTask_worked ledger taskId _ noEvent now fun _ _ done =>
      Task.move_lived done (bound.ofData rfl) rfl rfl
  | skipTask taskId reason =>
    exact moveTask_worked ledger taskId _ noEvent now fun _ _ done =>
      Task.move_lived done (bound.ofData rfl) rfl rfl
  | markTaskNotApplicable taskId reason =>
    exact moveTask_worked ledger taskId _ noEvent now fun _ _ done =>
      Task.move_lived done (bound.ofData rfl) rfl rfl
  | delegateTask taskId toAgentId delegationType reason =>
    exact moveTask_worked ledger taskId _ _ now fun _ _ done =>
      Task.move_lived done (bound.ofData rfl) rfl rfl
  | reclaimDelegation taskId reason =>
    exact moveTask_worked ledger taskId _ noEvent now fun _ _ done =>
      Task.moveFrom_lived done (by decide) (bound.ofData rfl) rfl rfl
  | rollbackTask taskId reason =>
    exact moveTask_worked ledger taskId _ _ now fun _ _ done =>
      Task.moveFrom_lived done (by decide) (bound.ofData rfl) rfl rfl
  | reopenTask taskId reason => exact reopenTask_worked ledger taskId reason false now
  | deferTask taskId reason till =>
    exact moveTaskOrUndo_worked ledger taskId _ fun _ _ done =>
      Task.move_lived done (bound.ofData rfl) rfl rfl
  | undeferTask taskId reason =>
    exact moveTaskOrUndo_worked ledger taskId _ fun _ _ done =>
      Task.moveFrom_lived done (by decide) (bound.ofData rfl) rfl rfl
  | completeDelegation taskId result reason =>
    exact completeDelegation_worked host ledger taskId result reason now
      (completes taskId result reason rfl)
  | addTask task => exact absurd rfl (existing task)

/-! Changes that move nothing, and loops over tasks. -/

theorem putFields_worked (task new : Task) (found : ledger.getTask taskId = some task)
    (same : kept task new) (status : new.status = task.status)
    (history : new.stateHistory = task.stateHistory) :
    Worked kept minted ledger (ledger.putTask new) :=
  (putTask_lived ledger task new (ledger.getTask_self taskId task found)
    (Lived.fields same status history)).worked

theorem reprioritizeTask_worked (newPriority : Int) (now : Time)
    (writes : ∀ task, ledger.getTask taskId = some task → kept task
      { task with priority := max 0 (min 100 newPriority), updatedAt := now }) :
    Worked kept minted ledger (ledger.reprioritizeTask taskId newPriority now).2 := by
  simp only [reprioritizeTask]
  cases found : ledger.getTask taskId with
  | none => exact Worked.refl ledger
  | some task =>
    exact saved (putFields_worked ledger taskId task _ found (writes task found) rfl rfl)

theorem updateTaskContext_worked (context : Context) (deferSave : Bool) (now : Time)
    (writes : ∀ task, ledger.getTask taskId = some task → kept task
      { task with context := context, updatedAt := now }) :
    Worked kept minted ledger (ledger.updateTaskContext taskId context deferSave now).2 := by
  simp only [updateTaskContext]
  cases found : ledger.getTask taskId with
  | none => exact Worked.refl ledger
  | some task =>
    dsimp only
    split
    · exact putFields_worked ledger taskId task _ found (writes task found) rfl rfl
    · exact saved (putFields_worked ledger taskId task _ found (writes task found) rfl rfl)

theorem updateTaskProgress_worked :
    Worked kept minted ledger (ledger.updateTaskProgress taskId now).2 := by
  simp only [updateTaskProgress]
  cases found : ledger.getTask taskId with
  | none => exact Worked.refl ledger
  | some task => exact saved (putFields_worked ledger taskId task _ found
    (bound.ofData rfl) rfl rfl)

omit bound in
/-- A cancellation cut short has done part of its work, each part of it sound. -/
theorem cancelEach_worked (cancel : SmartLedger → TaskId → Option Bool × SmartLedger)
    (each : ∀ ledger id, Worked kept minted ledger (cancel ledger id).2)
    (ids : List TaskId) (ledger : SmartLedger) :
    Worked kept minted ledger (cancelEach cancel ids ledger).2 := by
  induction ids generalizing ledger with
  | nil => exact Worked.refl ledger
  | cons id rest ih =>
    have first := each ledger id
    simp only [cancelEach]
    split
    next after cut => rwa [cut] at first
    next answer after done =>
      rw [done] at first
      exact first.trans (ih after)

theorem cancelTask_worked (cascade : Bool) (stack : Nat) (ledger : SmartLedger) (taskId : TaskId) :
    Worked kept minted ledger (cancelTask host now cascade stack ledger taskId).2 := by
  induction stack generalizing ledger taskId with
  | zero => exact Worked.refl ledger
  | succ stack ih =>
    simp only [cancelTask]
    cases ledger.getTask taskId with
    | none => exact Worked.refl ledger
    | some task =>
      have cancelled := @updateTaskStatus_worked minted kept _ host ledger taskId
        { status := .cancelled } now (by simp)
      dsimp only
      split
      · exact cancelled.trans (cancelEach_worked _ (fun after id => ih after id) _ _)
      · exact cancelled

/-- The methods of a task: the movers move, the others leave status and history. -/
theorem method_lived (method : TaskMethod) (task : Task) (now : Time)
    (writes : ∀ context, method = .injectVlmContext context →
    kept task { task with context := context, updatedAt := now }) :
    Lived kept task (method.apply task now) := by
  apply Task.getD_lived
  intro moved done
  cases method <;> simp only [TaskMethod.outcome] at done
  case start reason => exact Task.move_lived done (bound.ofData rfl) rfl rfl
  case complete result reason => exact Task.move_lived done (bound.ofData rfl) rfl rfl
  case fail error reason => exact Task.move_lived done (bound.ofData rfl) rfl rfl
  case pause reason => exact Task.move_lived done (bound.ofData rfl) rfl rfl
  case userStop reason => exact Task.move_lived done (bound.ofData rfl) rfl rfl
  case block reason => exact Task.move_lived done (bound.ofData rfl) rfl rfl
  case resume reason => exact Task.resume_lived (fun _ => bound.ofData rfl) done
  case cancel reason => exact Task.move_lived done (bound.ofData rfl) rfl rfl
  case terminate reason => exact Task.move_lived done (bound.ofData rfl) rfl rfl
  case skip reason => exact Task.move_lived done (bound.ofData rfl) rfl rfl
  case markNotApplicable reason => exact Task.move_lived done (bound.ofData rfl) rfl rfl
  case defer reason till => exact Task.move_lived done (bound.ofData rfl) rfl rfl
  case undefer reason => exact Task.moveFrom_lived done (by decide) (bound.ofData rfl) rfl rfl
  case delegate toAgentId delegationType reason =>
    exact Task.move_lived done (bound.ofData rfl) rfl rfl
  case completeDelegation result reason =>
    exact Task.moveFrom_lived done (by decide) (bound.ofData rfl) rfl rfl
  case reclaimDelegation reason =>
    exact Task.moveFrom_lived done (by decide) (bound.ofData rfl) rfl rfl
  case rollback reason => exact Task.moveFrom_lived done (by decide) (bound.ofData rfl) rfl rfl
  case transitionTo newStatus reason => exact Task.transitionTo_lived done
  case recordRetry error =>
    cases done
    simp only [Task.recordRetry]
    split <;> exact Lived.written rfl rfl rfl
  case schedule scheduledTime =>
    simp only [Task.schedule] at done
    split at done
    · cases done
      exact Lived.written rfl rfl rfl
    · cases done
  case addChildTask id =>
    cases done
    simp only [Task.addChildTask, Task.appendOnce]
    split <;> exact Lived.written rfl rfl rfl
  case addSiblingTask id =>
    cases done
    simp only [Task.addSiblingTask, Task.appendOnce]
    split <;> exact Lived.written rfl rfl rfl
  case addDependentTask id =>
    cases done
    simp only [Task.addDependentTask, Task.appendOnce]
    split <;> exact Lived.written rfl rfl rfl
  case addBlockingTask id =>
    cases done
    simp only [Task.addBlockingTask, Task.appendOnce]
    split <;> exact Lived.written rfl rfl rfl
  case removeBlockingTask id =>
    cases done
    exact removeBlockingTask_lived task id now
  case receiveMessages messages =>
    cases done
    exact receiveMessages_lived task messages now
  case injectVlmContext context =>
    cases done
    exact Lived.fields (writes context rfl) rfl rfl
  all_goals
    cases done
    exact Lived.written rfl rfl rfl

theorem moveAll_worked (selected : Task → Bool) (mover : Task → Option Task)
    (lives : ∀ task moved, mover task = some moved → Lived kept task moved) :
    Worked kept minted ledger (ledger.moveAll selected mover).2 := by
  have loop (chosen : List Task) (start : SmartLedger) :
      Worked kept minted start (chosen.foldl (fun current task =>
        current.modifyTask task.taskId fun t => (mover t).getD t) start) := by
    induction chosen generalizing start with
    | nil => exact Worked.refl start
    | cons task rest ih =>
      refine Worked.trans (Reworked.worked ?_) (ih _)
      apply modifyTask_lived
      intro current
      exact Task.getD_lived current (mover current) fun moved done => lives current moved done
  simp only [moveAll]
  split
  · exact saved (loop _ ledger)
  · exact loop _ ledger

/-! `complete_task_and_route`. -/

/-- A validated move tried and, where refused, passed over. -/
theorem tried_lived {kept : Task → Task → Prop} (task : Task) (newStatus : Status)
    (reason : String) (now : Time) :
    Lived kept task ((task.transitionTo newStatus reason now).getD task) :=
  Task.getD_lived task _ fun _ done =>
    Task.transitionTo_lived done

omit bound in
theorem triedFrom_lived (here newStatus : Status) (reason : String) (now : Time) :
    Lived kept task
      (if task.status = here then (task.transitionTo newStatus reason now).getD task else task) := by
  split
  · exact tried_lived task newStatus reason now
  · exact Lived.refl task

theorem requeued_lived : Lived kept task { task with pendingReason := some "queued" } :=
  Lived.written rfl rfl rfl

theorem retryTask_lived (error : String) (now : Time) :
    Lived kept task (retryTask task error now) := by
  have counted : Lived kept task { task with
      retryCount := task.retryCount + 1
      lastRetryAt := some now
      retryErrors := task.retryErrors ++ [error]
      errorMessage := some error } := Lived.written rfl rfl rfl
  exact ((counted.trans (triedFrom_lived _ .inProgress .blocked _ now)).trans
    (triedFrom_lived _ .blocked .pending _ now)).trans (requeued_lived _)

theorem routeTask_lived : Lived kept task (routeTask host task outcome result now) := by
  simp only [routeTask]
  split
  · exact Task.getD_lived task _ fun moved done =>
      Task.move_lived done (bound.ofData rfl) rfl rfl
  · split
    · exact retryTask_lived task _ now
    · exact Task.getD_lived task _ fun moved done =>
        Task.move_lived done (bound.ofData rfl) rfl rfl

theorem sendOutcome_worked :
    Worked kept minted ledger (ledger.sendOutcome task outcome result now) := by
  simp only [sendOutcome]
  generalize task.dependentTaskIds = ids
  induction ids generalizing ledger with
  | nil => exact Worked.refl ledger
  | cons id rest ih =>
    refine Worked.trans (Reworked.worked ?_) (ih _)
    apply modifyTask_lived
    intro current
    exact Lived.written rfl rfl rfl

theorem checkAndUnblockParent_worked (completedTaskId : TaskId) (now : Time) :
    Worked kept minted ledger (ledger.checkAndUnblockParent completedTaskId now).2 := by
  simp only [checkAndUnblockParent]
  split
  next => exact Worked.refl ledger
  next parentId _ =>
    cases found : ledger.getTask parentId with
    | none => exact Worked.refl ledger
    | some parent =>
      have life : Lived kept parent (unblocked parent now) :=
        (tried_lived parent .pending _ now).trans (tried_lived _ .inProgress _ now)
      dsimp only
      split
      · exact (putTask_lived ledger parent _ (ledger.getTask_self parentId parent found)
          life).worked
      · exact Worked.refl ledger

theorem completeTaskAndRoute_worked :
    Worked kept minted ledger
      (ledger.completeTaskAndRoute host taskId outcome result now).2 := by
  simp only [completeTaskAndRoute]
  cases found : ledger.getTask taskId with
  | none => exact Worked.refl ledger
  | some task =>
    have routed : Worked kept minted ledger
        (ledger.putTask (routeTask host task outcome result now)) :=
      (putTask_lived ledger task _ (ledger.getTask_self taskId task found)
        (routeTask_lived host task outcome result now)).worked
    have told := routed.trans (@sendOutcome_worked minted kept _ _
      (routeTask host task outcome result now) outcome result now)
    dsimp only
    split
    · exact saved (told.trans (checkAndUnblockParent_worked _ taskId now))
    · exact saved told

end Existing

end Hartos.SmartLedger
