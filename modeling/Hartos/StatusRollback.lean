import Hartos.CompletionCascade

/-!
`update_task_status` as a transaction: what it may change when it goes through,
and that nothing of it is left when the backend refuses the save.
-/
namespace Hartos.SmartLedger
open TaskStatus KeyedTable

def statusFrame (task : Task) : Task :=
  { cascadeFrame task with
    completedAt := none
    result := none
    errorMessage := none
    startedAt := none
    context := { task.context with resultHash := none } }

structure StatusSet (taskId : TaskId) (status : Status) (old new : Task) : Prop where
  frame : statusFrame new = statusFrame old
  named : old.taskId = taskId → new.status = status
  others : old.taskId ≠ taskId → Cascaded old new

variable {old new : Task} (before current : SmartLedger) (host : Host) (ledger : SmartLedger)
  (taskId : TaskId) (task : Task) (update : StatusUpdate) (now : Time)

theorem finishFields_keeps (task : Task) :
    statusFrame (finishFields update now task) = statusFrame task ∧
      (finishFields update now task).status = task.status ∧
      (finishFields update now task).taskId = task.taskId := by
  unfold finishFields
  split <;> split <;> exact ⟨rfl, rfl, rfl⟩

theorem completeFields_keeps (result : Option Value) (task : Task) :
    statusFrame (completeFields host result task) = statusFrame task ∧
      (completeFields host result task).status = task.status ∧
      (completeFields host result task).taskId = task.taskId := by
  unfold completeFields
  cases result.bind host.resultHash <;> exact ⟨rfl, rfl, rfl⟩

theorem statusFrame_of_cascadeFrame (same : cascadeFrame new = cascadeFrame old) :
    statusFrame new = statusFrame old := by
  have context : new.context = old.context := (congrArg Task.context same :)
  simp only [statusFrame, same, context]

theorem SameLinks.of_statusFrame (same : statusFrame new = statusFrame old) : SameLinks old new :=
  ⟨(congrArg Task.prerequisites same :), (congrArg Task.dependentTaskIds same :)⟩

/-- The ids an update may touch hold the named task, and for a completion they
are closed under the links. -/
theorem snapshotIds_closed (found : ledger.getTask task.taskId = some task) (id : TaskId)
    (inside : id ∈ ledger.snapshotIds host task .completed) (next : TaskId)
    (link : next ∈ ledger.dependentsOf id) : next ∈ ledger.snapshotIds host task .completed := by
  have closed := ledger.completionDependencyIds_closed host task found
  simp only [snapshotIds, ↓reduceIte, List.mem_cons] at inside ⊢
  rcases inside with same | deeper
  · exact Or.inr (closed.1 next (same ▸ link))
  · exact Or.inr (closed.2 id deeper next link)

structure StagedWithin (taskId : TaskId) (status : Status) (ids : List TaskId)
    (old new : Task) : Prop where
  set : StatusSet taskId status old new
  outside : old.taskId ∉ ids → new = old

section Staging
variable {taskId : TaskId} {status : Status} {ids : List TaskId} {before middle after : Task}

theorem StatusSet.sameId (set : StatusSet taskId status before after) :
    after.taskId = before.taskId := (congrArg Task.taskId set.frame :)

theorem StatusSet.cascade (final : status ≠ .blocked) (first : StatusSet taskId status before middle)
    (second : Cascaded middle after) : StatusSet taskId status before after := by
  refine ⟨(statusFrame_of_cascadeFrame second.frame).trans first.frame, ?_, ?_⟩
  · intro named
    rcases second.status with kept | ⟨blocked, _⟩
    · exact kept.trans (first.named named)
    · exact absurd ((first.named named).symm.trans blocked) final
  · exact fun other => (first.others other).trans _ _ _ second

theorem StagedWithin.cascade (final : status ≠ .blocked)
    (first : StagedWithin taskId status ids before middle)
    (second : CascadedWithin (· ∈ ids) middle after) :
    StagedWithin taskId status ids before after := by
  refine ⟨first.set.cascade final second.1, ?_⟩
  intro outside
  have kept := first.outside outside
  rw [second.2 (first.set.sameId ▸ outside), kept]

theorem StagedWithin.finish (update : StatusUpdate) (now : Time)
    (first : StagedWithin taskId status ids before middle) (inside : taskId ∈ ids)
    (named : middle.taskId = taskId) :
    StagedWithin taskId status ids before (finishFields update now middle) := by
  have keeps := finishFields_keeps update now middle
  have here : before.taskId = taskId := first.set.sameId ▸ named
  exact ⟨⟨keeps.1.trans first.set.frame, fun _ => keeps.2.1.trans (first.set.named here),
    fun other => absurd here other⟩, fun outside => absurd (here ▸ inside) outside⟩

theorem StagedWithin.unchanged (task : Task) (other : task.taskId ≠ taskId) :
    StagedWithin taskId status ids task task :=
  ⟨⟨rfl, fun named => absurd named other, fun _ => Cascaded.refl task⟩, fun _ => rfl⟩

end Staging

theorem mem_snapshotIds (status : Status) : task.taskId ∈ ledger.snapshotIds host task status := by
  unfold snapshotIds
  split <;> simp

theorem recorded_staged (task new : Task) (status : Status) (ids : List TaskId)
    (found : ledger.getTask task.taskId = some task) (inside : task.taskId ∈ ids)
    (sameId : new.taskId = task.taskId) (frame : statusFrame new = statusFrame task)
    (set : new.status = status) :
    Reworked (StagedWithin task.taskId status ids) ledger (ledger.putTask new) :=
  reworked_putTask ledger task new
    (fun other different => StagedWithin.unchanged other (sameId ▸ different))
    (sameId ▸ found)
    ⟨⟨frame, fun _ => set, fun other => absurd rfl other⟩, fun outside => absurd inside outside⟩

theorem finish_rows (current : SmartLedger) (taskId : TaskId) (update : StatusUpdate) (now : Time) :
    Reworked (fun old new => new = old ∨
        (old.taskId = taskId ∧ new = finishFields update now old)) current
      (current.modifyTask taskId (finishFields update now)) :=
  reworked_modifyTask (fun _ => Or.inl rfl) current taskId _
    (fun task named => (finishFields_keeps update now task).2.2.trans named)
    fun task found => Or.inr ⟨getTask_taskId current taskId task found, rfl⟩

theorem finish_staged (ledger current : SmartLedger) (taskId : TaskId) (update : StatusUpdate)
    (now : Time) (ids : List TaskId) (inside : taskId ∈ ids)
    (staged : Reworked (StagedWithin taskId update.status ids) ledger current) :
    Reworked (StagedWithin taskId update.status ids) ledger
      (current.modifyTask taskId (finishFields update now)) := by
  refine staged.trans (fun a b c first second => ?_) (finish_rows current taskId update now)
  rcases second with same | ⟨named, rfl⟩
  · exact same ▸ first
  · exact first.finish update now inside named

theorem stageStatus_staged (found : ledger.getTask task.taskId = some task) :
    Reworked (StagedWithin task.taskId update.status
        (ledger.snapshotIds host task update.status)) ledger
      (stageStatus host ledger task update now).1 := by
  have inside := ledger.mem_snapshotIds host task update.status
  refine finish_staged ledger _ task.taskId update now _ inside ?_
  by_cases completing : update.status = .completed
  · rw [completing] at inside ⊢
    have keeps := completeFields_keeps host update.result
      (task.recordStateTransition .completed update.transitionReason now)
    generalize completeFields host update.result
      (task.recordStateTransition .completed update.transitionReason now) = completed at keeps ⊢
    have sameId : completed.taskId = task.taskId := keeps.2.2
    have first := recorded_staged ledger task completed .completed _ found inside sameId
      keeps.1 keeps.2.1
    have row : (ledger.putTask completed).getTask completed.taskId = some completed := by
      simp [getTask_putTask]
    -- The copies were taken before the first write; no write of a status moves a link,
    -- so the cascade meets the same graph.
    have links := (first.mono fun _ _ pair => SameLinks.of_statusFrame pair.set.frame).dependentsOf
    have cascade := handleTaskCompletion_cascaded host (ledger.putTask completed) completed now
      (· ∈ ledger.snapshotIds host task .completed) row (sameId ▸ inside)
      (fun id member next link =>
        ledger.snapshotIds_closed host task found id member next (links ▸ link))
    rw [sameId] at cascade
    refine first.trans ?_ cascade
    exact fun _ _ _ set cascaded => set.cascade (by decide) cascaded
  · simp only [completing, ↓reduceIte]
    exact recorded_staged ledger task _ update.status _ found inside rfl rfl rfl

theorem Reworked.withBackend {related : Task → Task → Prop} {before after : SmartLedger}
    (change : Reworked related before after) (backend : Backend) :
    Reworked related { before with backend := backend } { after with backend := backend } := by
  refine ⟨change.rows, ?_⟩
  calc { { after with backend := backend } with tasks := before.tasks }
      = { { after with tasks := before.tasks } with backend := backend } := rfl
    _ = { before with backend := backend } := by rw [change.rest]

theorem restoreTask_undoes (id : TaskId) (rest : List TaskId)
    (change : Reworked (fun old new => old.taskId ∉ id :: rest → new = old) before current) :
    Reworked (fun old new => old.taskId ∉ rest → new = old) before
      (match before.getTask id with
        | none => current
        | some copy => current.modifyTask id fun _ => copy) := by
  cases copied : before.getTask id with
  | none =>
    -- Nothing was copied under this id, so no row of it can have changed.
    refine ⟨Table.evolves_of_get? change.keys.symm ?_, change.rest⟩
    intro wanted old new foundOld foundNew outside
    obtain ⟨new', found', related⟩ := change.getTask_some wanted old foundOld
    have same : new = new' := Option.some.inj (foundNew.symm.trans found')
    refine same ▸ related fun member => ?_
    rcases List.mem_cons.mp member with here | there
    · have named := before.getTask_taskId wanted old foundOld
      rw [← here, named, getTask, foundOld] at copied
      cases copied
    · exact outside there
  | some copy =>
    have named := before.getTask_taskId id copy copied
    have undone := @reworked_modifyTask (fun _ _ => True) (fun _ => trivial) current id
      (fun _ => copy) (fun _ _ => named) (fun _ _ => trivial)
    refine ⟨Table.evolves_of_get? (change.keys.symm.trans undone.keys.symm) ?_, ?_⟩
    · intro wanted old new foundOld foundNew outside
      have result : (current.modifyTask id fun _ => copy).getTask wanted = some new := foundNew
      rw [getTask_modifyTask current id _ fun _ _ => named] at result
      obtain ⟨new', found', related⟩ := change.getTask_some wanted old foundOld
      by_cases same : wanted = id
      · subst wanted
        have sameCopy : old = copy := Option.some.inj (foundOld.symm.trans copied)
        simp only [↓reduceIte, found', Option.map_some, Option.some.injEq] at result
        exact result.symm.trans sameCopy.symm
      · rw [if_neg same, found', Option.some.injEq] at result
        refine result ▸ related fun member => ?_
        rcases List.mem_cons.mp member with here | there
        · exact same ((before.getTask_taskId wanted old foundOld).symm.trans here)
        · exact outside there
    · calc { (current.modifyTask id fun _ => copy) with tasks := before.tasks }
          = { { (current.modifyTask id fun _ => copy) with tasks := current.tasks } with
              tasks := before.tasks } := rfl
        _ = { current with tasks := before.tasks } := by rw [undone.rest]
        _ = before := change.rest

-- Copies of every task that may have changed undo the change.
theorem restoreTasks_undoes (ids : List TaskId)
    (change : Reworked (fun old new => old.taskId ∉ ids → new = old) before current) :
    restoreTasks before ids current = before := by
  induction ids generalizing current with
  | nil => exact (change.mono fun old new kept => kept (by simp)).eq
  | cons id rest ih =>
    exact ih _ (restoreTask_undoes before current id rest change)

section

variable (found : ledger.getTask task.taskId = some task)
include found

/-- The ledger after a refused save and the undo that follows it. -/
theorem undo_refused_update :
    restoreTasks ledger (ledger.snapshotIds host task update.status)
        (stageStatus host ledger task update now).1.save.2 =
      { ledger with backend := (stageStatus host ledger task update now).1.save.2.backend } := by
  have staged := (stageStatus_staged host ledger task update now found).mono
    fun _ _ pair => pair.outside
  exact restoreTasks_undoes
    { ledger with backend := (stageStatus host ledger task update now).1.save.2.backend } _ _
    (staged.withBackend _)

-- A durable update whose save is refused leaves one more write, and nothing else.
theorem updateTaskStatus_undone (durable : update.deferSave = false)
    (valid : task.validateTransition update.status = true)
    (refused : ledger.backend.next ≠ .accepted) :
    ledger.updateTaskStatus host task.taskId update now = (false,
      { ledger with backend := (stageStatus host ledger task update now).1.save.2.backend }) := by
  have sameBackend := (stageStatus_staged host ledger task update now found).backend
  have failed := save_refused (stageStatus host ledger task update now).1 (sameBackend ▸ refused)
  have undone := undo_refused_update host ledger task update now found
  simp only [updateTaskStatus, found, durable, valid, failed, undone, Bool.false_eq_true, false_and,
    ↓reduceIte]

/-- With the save accepted it is what was staged, saved, and announced if it is a
completion. -/
theorem updateTaskStatus_done (durable : update.deferSave = false)
    (valid : task.validateTransition update.status = true)
    (accepted : ledger.backend.next = .accepted) :
    ledger.updateTaskStatus host task.taskId update now = (true,
      if update.status = .completed then
        (stageStatus host ledger task update now).1.save.2.emitCompletionEvents task.taskId
          (stageStatus host ledger task update now).2 now
      else (stageStatus host ledger task update now).1.save.2) := by
  have sameBackend := (stageStatus_staged host ledger task update now found).backend
  have saved := save_accepted (stageStatus host ledger task update now).1 (sameBackend ▸ accepted)
  simp only [updateTaskStatus, found, durable, valid, saved, Bool.false_eq_true, false_and,
    ↓reduceIte]

end

theorem updateTaskStatus_refused
    (refused : ∀ task, ledger.getTask taskId = some task →
      task.validateTransition update.status = false) :
    ledger.updateTaskStatus host taskId update now = (false, ledger) := by
  cases looked : ledger.getTask taskId with
  | none => simp [updateTaskStatus, looked]
  | some task => simp [updateTaskStatus, looked, refused task looked]

inductive UpdateCase (host : Host) (ledger : SmartLedger) (taskId : TaskId) (update : StatusUpdate)
    (now : Time) : Prop
  | unchanged (ends : ledger.updateTaskStatus host taskId update now = (false, ledger))
  | deferred (task : Task) (found : ledger.getTask taskId = some task)
      (valid : task.validateTransition update.status = true) (deferred : update.deferSave = true)
      (ends : ledger.updateTaskStatus host taskId update now =
        (true, (stageStatus host ledger task update now).1))
  | done (task : Task) (found : ledger.getTask taskId = some task)
      (valid : task.validateTransition update.status = true) (durable : update.deferSave = false)
      (accepted : ledger.backend.next = .accepted)
      (ends : ledger.updateTaskStatus host taskId update now = (true,
        if update.status = .completed then
          (stageStatus host ledger task update now).1.save.2.emitCompletionEvents taskId
            (stageStatus host ledger task update now).2 now
        else (stageStatus host ledger task update now).1.save.2))
  | undone (task : Task) (found : ledger.getTask taskId = some task)
      (valid : task.validateTransition update.status = true) (durable : update.deferSave = false)
      (refused : ledger.backend.next ≠ .accepted)
      (ends : ledger.updateTaskStatus host taskId update now = (false,
        { ledger with backend := (stageStatus host ledger task update now).1.save.2.backend }))

theorem updateTaskStatus_cases : UpdateCase host ledger taskId update now := by
  by_cases goes : ∃ task, ledger.getTask taskId = some task ∧
      task.validateTransition update.status = true
  · obtain ⟨task, found, valid⟩ := goes
    have named := ledger.getTask_taskId taskId task found
    subst named
    cases durable : update.deferSave with
    | true =>
      by_cases completing : update.status = .completed
      · apply UpdateCase.unchanged
        simp only [updateTaskStatus, found, durable, completing, and_self, ↓reduceIte]
      · apply UpdateCase.deferred task found valid durable
        simp only [updateTaskStatus, found, durable, completing, and_false, valid, ↓reduceIte]
    | false =>
      by_cases accepted : ledger.backend.next = .accepted
      · exact .done task found valid durable accepted
          (updateTaskStatus_done host ledger task update now found durable valid accepted)
      · exact .undone task found valid durable accepted
          (updateTaskStatus_undone host ledger task update now found durable valid accepted)
  · apply UpdateCase.unchanged
    apply updateTaskStatus_refused
    intro task found
    by_contra valid
    exact goes ⟨task, found, by simpa using valid⟩

theorem refused_update_restores (durable : update.deferSave = false)
    (refused : ledger.backend.next ≠ .accepted) :
    (ledger.updateTaskStatus host taskId update now).1 = false ∧
      { (ledger.updateTaskStatus host taskId update now).2 with backend := ledger.backend } =
        ledger := by
  cases updateTaskStatus_cases host ledger taskId update now with
  | unchanged ends =>
    rw [ends]
    exact ⟨rfl, rfl⟩
  | deferred _ _ _ deferred _ =>
    rw [durable] at deferred
    cases deferred
  | done _ _ _ _ accepted _ => exact absurd accepted refused
  | undone _ _ _ _ _ ends =>
    rw [ends]
    exact ⟨rfl, rfl⟩

/-- A refused save leaves no trace of the update: not on the task itself, not on
a dependent the completion resumed or messaged, not in the events. -/
theorem refused_update_leaves_no_trace (host : Host) (ledger : SmartLedger) (taskId : TaskId)
    (update : StatusUpdate) (now : Time) (durable : update.deferSave = false)
    (refused : ledger.backend.next ≠ .accepted) :
    (ledger.updateTaskStatus host taskId update now).1 = false ∧
      (ledger.updateTaskStatus host taskId update now).2.tasks = ledger.tasks ∧
      (ledger.updateTaskStatus host taskId update now).2.taskOrder = ledger.taskOrder ∧
      (ledger.updateTaskStatus host taskId update now).2.loadedTaskIds = ledger.loadedTaskIds ∧
      (ledger.updateTaskStatus host taskId update now).2.events = ledger.events ∧
      (ledger.updateTaskStatus host taskId update now).2.published = ledger.published := by
  have restored := refused_update_restores host ledger taskId update now durable refused
  have memory := restored.2
  exact ⟨restored.1, (congrArg SmartLedger.tasks memory :), (congrArg SmartLedger.taskOrder memory :),
    (congrArg SmartLedger.loadedTaskIds memory :), (congrArg SmartLedger.events memory :),
    (congrArg SmartLedger.published memory :)⟩

/-! A ledger with a cyclic dependency, whose backend answers every write alike. -/

def sampleHost : Host where
  resultHash := fun _ => some "digest"
  setOrder := SetOrder.insertion

def sampleTask (taskId : TaskId) (status : Status) : Task :=
  { Task.create taskId "work" .autonomous 0 with status := status }

def sampleLedger (tasks : List Task) (verdict : Verdict) : SmartLedger where
  tasks := tasks.foldl Table.set (Table.empty Task.taskId)
  taskOrder := tasks.map Task.taskId
  events := []
  loadedTaskIds := []
  pubsub := true
  published := []
  backend := ⟨none, fun _ => verdict, 0⟩

def cyclicTasks : List Task :=
  [{ sampleTask "a" .inProgress with dependentTaskIds := ["b", "missing"] },
    { sampleTask "b" .blocked with blockedBy := ["a"], dependentTaskIds := ["a"] }]

theorem refused_cyclic_completion :
    let ledger := sampleLedger cyclicTasks .rejected
    let result := ledger.updateTaskStatus sampleHost "a" { status := .completed } 5
    result.1 = false ∧ result.2.tasks = ledger.tasks ∧ result.2.taskOrder = ledger.taskOrder ∧
      result.2.loadedTaskIds = ledger.loadedTaskIds ∧ result.2.events = ledger.events ∧
      result.2.published = ledger.published :=
  refused_update_leaves_no_trace sampleHost (sampleLedger cyclicTasks .rejected) "a"
    { status := .completed } 5 rfl (by decide)

/-- The same completion, when the backend takes it, resumes the blocked task. -/
example :
    let ledger := sampleLedger cyclicTasks .accepted
    let result := ledger.updateTaskStatus sampleHost "a" { status := .completed } 5
    result.1 = true ∧ (result.2.getTask "b").map Task.status = some .inProgress := by
  decide

end Hartos.SmartLedger
