import Hartos.SmartLedger

/-!
How the rows of a ledger may change under an operation. Every operation that
works on existing tasks is described by one relation between a task and what it
became; the relations compose, so an operation is described by its parts.
-/
namespace Hartos.SmartLedger
open KeyedTable
variable (ledger : SmartLedger)

theorem save_accepted (accepted : ledger.backend.next = .accepted) : ledger.save.1 = true := by
  simp [save, accepted]

theorem save_refused (refused : ledger.backend.next ≠ .accepted) : ledger.save.1 = false := by
  simp [save, refused]

theorem save_stored (accepted : ledger.backend.next = .accepted) :
    ledger.save.2.backend.stored = some ledger.save.2.image := by
  simp [save, Backend.save, accepted, image]

theorem save_keeps_stored (refused : ledger.backend.next ≠ .accepted) :
    ledger.save.2.backend.stored = ledger.backend.stored := by
  simp [save, Backend.save, refused]

/-- Only task rows changed, each as `related` says. -/
structure Reworked (related : Task → Task → Prop) (before after : SmartLedger) : Prop where
  rows : Table.Evolves related before.tasks after.tasks
  rest : { after with tasks := before.tasks } = before

variable {related : Task → Task → Prop} {before middle after : SmartLedger}

theorem Reworked.refl (self : ∀ task, related task task) (ledger : SmartLedger) :
    Reworked related ledger ledger :=
  ⟨Table.Evolves.refl self ledger.tasks, rfl⟩

theorem Reworked.trans {related' whole : Task → Task → Prop}
    (compose : ∀ a b c, related a b → related' b c → whole a c)
    (first : Reworked related before middle) (second : Reworked related' middle after) :
    Reworked whole before after := by
  refine ⟨first.rows.trans compose second.rows, ?_⟩
  calc { after with tasks := before.tasks }
      = { { after with tasks := middle.tasks } with tasks := before.tasks } := rfl
    _ = { middle with tasks := before.tasks } := by rw [second.rest]
    _ = before := first.rest

theorem Reworked.mono {weaker : Task → Task → Prop}
    (implies : ∀ old new, related old new → weaker old new)
    (change : Reworked related before after) : Reworked weaker before after :=
  ⟨change.rows.mono implies, change.rest⟩

/-- A relation may be sharpened row by row, knowing where the rows are. -/
theorem Reworked.sharpen {sharper : Task → Task → Prop} (change : Reworked related before after)
    (implies : ∀ taskId old new, before.getTask taskId = some old →
      after.getTask taskId = some new → related old new → sharper old new) :
    Reworked sharper before after := by
  refine ⟨Table.evolves_of_get? change.rows.keys.symm ?_, change.rest⟩
  intro taskId old new foundOld foundNew
  obtain ⟨new', found', row⟩ := change.rows.get?_some taskId old foundOld
  have same : new = new' := Option.some.inj (foundNew.symm.trans found')
  exact implies taskId old new foundOld foundNew (same ▸ row)

theorem Reworked.eq (change : Reworked (fun old new => new = old) before after) :
    after = before := by
  rw [← change.rest, ← change.rows.eq]

section

variable (change : Reworked related before after)
include change

theorem Reworked.taskOrder :
    after.taskOrder = before.taskOrder := (congrArg SmartLedger.taskOrder change.rest :)

theorem Reworked.loadedTaskIds :
    after.loadedTaskIds = before.loadedTaskIds := (congrArg SmartLedger.loadedTaskIds change.rest :)

theorem Reworked.backend :
    after.backend = before.backend := (congrArg SmartLedger.backend change.rest :)

variable (taskId : TaskId)

theorem Reworked.getTask_some (old : Task) (found : before.getTask taskId = some old) :
    ∃ new, after.getTask taskId = some new ∧ related old new :=
  change.rows.get?_some taskId old found

theorem Reworked.getTask_origin (new : Task) (found : after.getTask taskId = some new) :
    ∃ old, before.getTask taskId = some old ∧ related old new :=
  change.rows.get?_origin taskId new found

theorem Reworked.getTask_none (absent : before.getTask taskId = none) :
    after.getTask taskId = none := by
  cases looked : after.getTask taskId with
  | none => rfl
  | some new =>
    obtain ⟨old, there, _⟩ := change.getTask_origin taskId new looked
    rw [absent] at there
    cases there

theorem Reworked.keys : after.tasks.keys = before.tasks.keys := change.rows.keys

end

variable (ledger : SmartLedger) (taskId : TaskId) (task : Task)

theorem getTask_taskId (found : ledger.getTask taskId = some task) : task.taskId = taskId :=
  Table.get?_key ledger.tasks taskId task found

theorem getTask_self (found : ledger.getTask taskId = some task) :
    ledger.getTask task.taskId = some task := by
  rw [ledger.getTask_taskId taskId task found, found]

theorem getTask_putTask (wanted : TaskId) :
    (ledger.putTask task).getTask wanted =
      if task.taskId = wanted then some task else ledger.getTask wanted :=
  Table.get?_set ledger.tasks task wanted

theorem reworked_putTask (old new : Task)
    (others : ∀ task, task.taskId ≠ new.taskId → related task task)
    (found : ledger.getTask new.taskId = some old) (change : related old new) :
    Reworked related ledger (ledger.putTask new) :=
  ⟨Table.evolves_set ledger.tasks old new others found change, rfl⟩

theorem reworked_modifyTask (self : ∀ task, related task task) (ledger : SmartLedger)
    (taskId : TaskId) (change : Task → Task)
    (sameId : ∀ task, task.taskId = taskId → (change task).taskId = taskId)
    (changes : ∀ task, ledger.getTask taskId = some task → related task (change task)) :
    Reworked related ledger (ledger.modifyTask taskId change) := by
  unfold modifyTask
  cases found : ledger.getTask taskId with
  | none => exact Reworked.refl self ledger
  | some task =>
    have named : ledger.getTask (change task).taskId = some task := by
      rw [sameId task (ledger.getTask_taskId taskId task found), found]
    exact reworked_putTask ledger task (change task) (fun other _ => self other) named
      (changes task found)

/-- One more change to one task, on top of what came before. -/
theorem Reworked.modified (change : Reworked related before after) (taskId : TaskId)
    (f : Task → Task) (sameId : ∀ task, task.taskId = taskId → (f task).taskId = taskId)
    (next : ∀ old new, related old new → new.taskId = taskId → related old (f new)) :
    Reworked related before (after.modifyTask taskId f) := by
  have step : Reworked (fun old new => new = old ∨ (old.taskId = taskId ∧ new = f old)) after
      (after.modifyTask taskId f) :=
    reworked_modifyTask (fun _ => Or.inl rfl) after taskId f sameId
      fun task found => Or.inr ⟨after.getTask_taskId taskId task found, rfl⟩
  refine change.trans ?_ step
  rintro a b c first (rfl | ⟨named, rfl⟩)
  · exact first
  · exact next a b first named

theorem Reworked.entered (change : Reworked related before after) (task new : Task)
    (found : after.getTask new.taskId = some task)
    (next : ∀ old, related old task → related old new) :
    Reworked related before (after.putTask new) := by
  have step : Reworked (fun old row => row = old ∨ (old = task ∧ row = new)) after
      (after.putTask new) :=
    reworked_putTask after task new (fun _ _ => Or.inl rfl) found (Or.inr ⟨rfl, rfl⟩)
  refine change.trans ?_ step
  rintro a b c first (rfl | ⟨rfl, rfl⟩)
  · exact first
  · exact next a first

theorem getTask_modifyTask (change : Task → Task)
    (sameId : ∀ task, task.taskId = taskId → (change task).taskId = taskId) (wanted : TaskId) :
    (ledger.modifyTask taskId change).getTask wanted =
      if wanted = taskId then (ledger.getTask taskId).map change else ledger.getTask wanted := by
  unfold modifyTask
  cases found : ledger.getTask taskId with
  | none =>
    by_cases same : wanted = taskId
    · simp [same, found]
    · simp [same]
  | some task =>
    have named := sameId task (ledger.getTask_taskId taskId task found)
    by_cases same : wanted = taskId
    · simp [getTask_putTask, named, same]
    · simp [getTask_putTask, named, same, Ne.symm same]

def SameLinks (old new : Task) : Prop :=
  new.prerequisites = old.prerequisites ∧ new.dependentTaskIds = old.dependentTaskIds

theorem Reworked.reversePrerequisites (change : Reworked SameLinks before after)
    (taskId : TaskId) : after.reversePrerequisites taskId = before.reversePrerequisites taskId := by
  have views : before.tasks.rows.map (fun t => (t.taskId, t.prerequisites)) =
      after.tasks.rows.map (fun t => (t.taskId, t.prerequisites)) := by
    have pairs : Table.Evolves (fun old new : Task =>
        old.taskId = new.taskId ∧ SameLinks old new) before.tasks after.tasks :=
      List.Forall₂.imp (fun _ _ pair => ⟨pair.1, pair.1, pair.2⟩) change.rows
    exact pairs.view _ fun _ _ same => by simp [same.1, same.2.1]
  have filtered (rows : List Task) :
      (rows.filter fun t => taskId ∈ t.prerequisites).map Task.taskId =
        ((rows.map fun t => (t.taskId, t.prerequisites)).filter
          fun view => taskId ∈ view.2).map Prod.fst := by
    simp [List.filter_map, Function.comp_def]
  simp only [SmartLedger.reversePrerequisites, filtered, views]

theorem Reworked.dependentsOf (change : Reworked SameLinks before after) :
    after.dependentsOf = before.dependentsOf := by
  funext taskId
  unfold SmartLedger.dependentsOf
  cases found : before.getTask taskId with
  | none =>
    simp [change.getTask_none taskId found]
  | some old =>
    obtain ⟨new, there, links⟩ := change.getTask_some taskId old found
    simp [there, links.2, change.reversePrerequisites taskId]

end Hartos.SmartLedger
