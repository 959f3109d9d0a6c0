import Hartos.Journal
import Hartos.Task
import Mathlib.Logic.Relation

/-!
The life of one task: its fields change and it makes moves, each of which is
written to `state_history`. Several movers record a move without asking the table;
the status they test for makes each of them one the table allows, save the step
from COMPLETED back to PENDING that reopening a task takes.
-/
namespace Hartos
open TaskStatus

def mayMove (fromStatus newStatus : Status) : Prop :=
  transitionRefusalBetween fromStatus newStatus = none ∨
    (fromStatus = .completed ∧ newStatus = .pending)

instance (fromStatus newStatus : Status) : Decidable (mayMove fromStatus newStatus) :=
  inferInstanceAs (Decidable (_ ∨ _))

def isFinal : Status → Bool
  | .cancelled | .terminated | .skipped | .notApplicable | .rolledBack => true
  | _ => false

theorem final_stuck (fromStatus newStatus : Status) (final : isFinal fromStatus = true) :
    ¬ mayMove fromStatus newStatus := by
  cases fromStatus <;> cases newStatus <;> revert final <;> decide

theorem failed_moves (newStatus : Status) (allowed : mayMove .failed newStatus) :
    newStatus = .completed ∨ newStatus = .terminated := by
  cases newStatus <;> revert allowed <;> decide

def historyReading : Journal.Reading HistoryEntry Status where
  entered := HistoryEntry.status
  left := HistoryEntry.previousStatus
  mayMove := mayMove

namespace Task

def ValidHistory (task : Task) : Prop :=
  Journal.IsRun historyReading task.stateHistory task.status

/-- One step of a life: other fields change, as `kept` lets them, or a move is
recorded. -/
inductive LifeStep (kept : Task → Task → Prop) : Task → Task → Prop
  | fields {old new : Task} (same : kept old new) (status : new.status = old.status)
      (history : new.stateHistory = old.stateHistory) : LifeStep kept old new
  | moved {old : Task} (newStatus : Status) (reason : String) (now : Time)
      (allowed : mayMove old.status newStatus) :
      LifeStep kept old (old.recordStateTransition newStatus reason now)

def Lived (kept : Task → Task → Prop) : Task → Task → Prop :=
  Relation.ReflTransGen (LifeStep kept)

def SameIdentity (old new : Task) : Prop :=
  (new.taskId, new.description, new.taskType, new.createdAt) =
    (old.taskId, old.description, old.taskType, old.createdAt)

def SameData (old new : Task) : Prop :=
  (new.taskId, new.description, new.taskType, new.createdAt, new.prerequisites, new.context,
      new.priority, new.parentTaskId) =
    (old.taskId, old.description, old.taskType, old.createdAt, old.prerequisites, old.context,
      old.priority, old.parentTaskId)

class DataBound (kept : Task → Task → Prop) : Prop where
  ofData : ∀ {old new : Task}, SameData old new → kept old new
  taskId : ∀ {old new : Task}, kept old new → new.taskId = old.taskId

instance : DataBound SameData where
  ofData := id
  taskId := congrArg Prod.fst

instance : DataBound SameIdentity where
  ofData := by
    intro old new same
    simp only [SameData, Prod.mk.injEq] at same
    simp [SameIdentity, same]
  taskId := congrArg Prod.fst

section Lives
variable {kept : Task → Task → Prop} {old middle new : Task}

theorem Lived.refl (task : Task) : Lived kept task task := Relation.ReflTransGen.refl

theorem Lived.trans (first : Lived kept old middle) (second : Lived kept middle new) :
    Lived kept old new := Relation.ReflTransGen.trans first second

theorem Lived.fields (same : kept old new) (status : new.status = old.status)
    (history : new.stateHistory = old.stateHistory) : Lived kept old new :=
  Relation.ReflTransGen.single (LifeStep.fields same status history)

theorem Lived.moved (task : Task) (newStatus : Status) (reason : String) (now : Time)
    (allowed : mayMove task.status newStatus) :
    Lived kept task (task.recordStateTransition newStatus reason now) :=
  Relation.ReflTransGen.single (LifeStep.moved newStatus reason now allowed)

theorem Lived.mono {coarse : Task → Task → Prop}
    (weaker : ∀ old new, kept old new → coarse old new)
    (life : Lived kept old new) : Lived coarse old new := by
  refine Relation.ReflTransGen.mono ?_ old new life
  intro before after step
  cases step with
  | fields same status history => exact LifeStep.fields (weaker _ _ same) status history
  | moved newStatus reason now allowed => exact LifeStep.moved newStatus reason now allowed

-- What each change of fields and each recorded move keeps, a life keeps.
theorem Lived.keeps (self : ∀ task, kept task task)
    (compose : ∀ first second third, kept first second → kept second third → kept first third)
    (untouched : ∀ task newStatus reason now,
      kept task (recordStateTransition task newStatus reason now))
    (life : Lived kept old new) : kept old new := by
  induction life with
  | refl => exact self old
  | tail _ step before =>
    cases step with
    | fields same status history => exact compose _ _ _ before same
    | moved newStatus reason now allowed =>
      exact compose _ _ _ before (untouched _ newStatus reason now)

theorem Lived.taskId [bound : DataBound kept] (life : Lived kept old new) :
    new.taskId = old.taskId := by
  induction life with
  | refl => rfl
  | tail _ step before =>
    cases step with
    | fields same status history => exact (bound.taskId same).trans before
    | moved newStatus reason now allowed => exact before

theorem Lived.written [bound : DataBound kept] (same : SameData old new)
    (status : new.status = old.status) (history : new.stateHistory = old.stateHistory) :
    Lived kept old new := Lived.fields (bound.ofData same) status history

theorem Lived.history_prefix (life : Lived kept old new) :
    old.stateHistory <+: new.stateHistory := by
  induction life with
  | refl => exact List.prefix_rfl
  | tail _ step before =>
    cases step with
    | fields same status history => exact history ▸ before
    | moved newStatus reason now allowed => exact before.trans (List.prefix_append _ _)

/-- A life keeps a history a run: one case for each kind of step. -/
theorem Lived.validHistory (life : Lived kept old new) (valid : old.ValidHistory) :
    new.ValidHistory := by
  induction life with
  | refl => exact valid
  | tail _ step reached =>
    cases step with
    | fields same status history =>
      simp only [ValidHistory, history, status]
      exact reached
    | moved newStatus reason now allowed =>
      exact Journal.IsRun.record reached
        { status := newStatus, timestamp := now, reason := reason,
          previousStatus := some _ } rfl allowed

end Lives

/-- A task as `__init__` leaves it: one entry, naming the status it starts in. -/
def StartsFresh (task : Task) : Prop :=
  ∃ entry, task.stateHistory = [entry] ∧ entry.status = task.status

theorem StartsFresh.validHistory {task : Task} (fresh : task.StartsFresh) : task.ValidHistory := by
  obtain ⟨entry, single, status⟩ := fresh
  simp only [ValidHistory, single]
  exact Journal.isRun_singleton entry status

section Methods
variable {kept : Task → Task → Prop}

section

variable {task moved : Task} {newStatus : Status} {reason : String} {now : Time}
  {change : Task → Task}

theorem move_lived
    (done : task.move newStatus reason now change = some moved) (same : kept task (change task))
    (status : (change task).status = task.status)
    (history : (change task).stateHistory = task.stateHistory) : Lived kept task moved := by
  simp only [move] at done
  split at done
  next valid =>
    have allowed : transitionRefusalBetween task.status newStatus = none := by
      simpa [validateTransition, transitionRefusal] using valid
    cases done
    exact (Lived.fields same status history).trans
      (Lived.moved _ newStatus reason now (Or.inl (status ▸ allowed)))
  next => cases done

/-- The movers that test the status themselves, when the table agrees with them. -/
theorem moveFrom_lived {required : Status}
    (done : task.moveFrom required newStatus reason now change = some moved)
    (allowed : mayMove required newStatus) (same : kept task (change task))
    (status : (change task).status = task.status)
    (history : (change task).stateHistory = task.stateHistory) : Lived kept task moved := by
  simp only [moveFrom] at done
  split at done
  next here =>
    cases done
    exact (Lived.fields same status history).trans
      (Lived.moved _ newStatus reason now (by rw [status, here]; exact allowed))
  next => cases done

/-- Both moves of `resume`, the second of which nobody validates. -/
theorem resume_lived (untouched : ∀ t, kept t { t with resumedAt := some now })
    (done : task.resume reason now = some moved) : Lived kept task moved := by
  simp only [resume, Option.map_eq_some_iff] at done
  obtain ⟨resuming, first, rfl⟩ := done
  refine (move_lived first (untouched task) rfl rfl).trans ?_
  have there : resuming.status = .resuming := by
    simp only [move] at first
    split at first
    · cases first
      rfl
    · cases first
  exact Lived.moved resuming .inProgress _ now (by rw [there]; decide)

theorem transitionTo_lived (done : task.transitionTo newStatus reason now = some moved) :
    Lived kept task moved := by
  simp only [transitionTo, move] at done
  split at done
  next valid =>
    have allowed : transitionRefusalBetween task.status newStatus = none := by
      simpa [validateTransition, transitionRefusal] using valid
    cases done
    exact Lived.moved task newStatus _ now (Or.inl allowed)
  next => cases done

end

end Methods

theorem getD_lived {kept : Task → Task → Prop} (task : Task) (outcome : Option Task)
    (life : ∀ moved, outcome = some moved → Lived kept task moved) :
    Lived kept task (outcome.getD task) := by
  cases outcome with
  | none => exact Lived.refl task
  | some moved => exact life moved rfl

end Task

end Hartos
