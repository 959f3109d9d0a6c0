import Hartos.GoalSubmission

/-!
A goal that is dispatched again keeps its task set: every task keeps its place
in the goal, its description, and whether it is in progress. The four passes
heal, stamp, re-arm and release tasks, and each puts copies back when it fails.
-/
namespace Hartos.SmartLedger
open TaskStatus KeyedTable

/-- The part a task plays in its goal, and for the tasks in `spared` whether it
is finished. -/
def role (spared : List TaskId) (task : Task) :
    TaskId × String × Option TaskId × List TaskId × Bool × Bool :=
  (task.taskId, task.description, task.parentTaskId, task.childTaskIds,
    decide (task.status = .inProgress),
    decide (task.taskId ∈ spared ∧ task.status = .completed))

def SameRole (spared : List TaskId) (old new : Task) : Prop := role spared new = role spared old

section SameRole
variable {spared : List TaskId} {old new : Task}

theorem SameRole.refl (task : Task) : SameRole spared task task := rfl

theorem SameRole.trans (a b c : Task) (first : SameRole spared a b)
    (second : SameRole spared b c) : SameRole spared a c := Eq.trans second first

section

variable (same : SameRole spared old new)
include same

theorem SameRole.taskId : new.taskId = old.taskId :=
  congrArg Prod.fst same

theorem SameRole.description : new.description = old.description := congrArg (fun r => r.2.1) same

theorem SameRole.parentTaskId :
    new.parentTaskId = old.parentTaskId := congrArg (fun r => r.2.2.1) same

theorem SameRole.childTaskIds :
    new.childTaskIds = old.childTaskIds := congrArg (fun r => r.2.2.2.1) same

theorem SameRole.inProgress : new.status = .inProgress ↔ old.status = .inProgress := by
  have flags := congrArg (fun r => r.2.2.2.2.1) same
  simpa [role] using flags

theorem SameRole.completed (member : old.taskId ∈ spared) :
    new.status = .completed ↔ old.status = .completed := by
  have flags := congrArg (fun r => r.2.2.2.2.2) same
  simpa [role, same.taskId, member] using flags

end

/-- A task that is not running may take another status at which it does not run;
a finished one only where it is not spared. -/
theorem sameRole_of_idle (taskId : new.taskId = old.taskId)
    (description : new.description = old.description)
    (parent : new.parentTaskId = old.parentTaskId)
    (children : new.childTaskIds = old.childTaskIds)
    (idle : old.status ≠ .inProgress) (pending : new.status = .pending)
    (unfinished : old.taskId ∈ spared → old.status ≠ .completed) :
    SameRole spared old new := by
  have notBoth : ¬ (old.taskId ∈ spared ∧ old.status = .completed) := fun finished =>
    unfinished finished.1 finished.2
  simp only [SameRole, role, taskId, description, parent, children, idle, pending, notBoth,
    reduceCtorEq, and_false]

end SameRole

structure RolesKept (spared : List TaskId) (before after : SmartLedger) : Prop where
  rows : Table.Evolves (SameRole spared) before.tasks after.tasks
  stored : after.backend.stored = before.backend.stored ∨
    ∃ image, after.backend.stored = some image ∧
      Table.Evolves (SameRole spared) before.tasks image.tasks

section Roles
variable {spared : List TaskId} {before middle after current : SmartLedger}
variable (host : Host) (ledger : SmartLedger) (context : Context) (goalId : TaskId) (now : Time)
  (childIds : List TaskId) (snapshots : Snapshots)

theorem RolesKept.refl : RolesKept spared ledger ledger :=
  ⟨Table.Evolves.refl SameRole.refl ledger.tasks, Or.inl rfl⟩

theorem RolesKept.trans (first : RolesKept spared before middle)
    (second : RolesKept spared middle after) : RolesKept spared before after := by
  refine ⟨first.rows.trans SameRole.trans second.rows, ?_⟩
  rcases second.stored with same | ⟨image, stored, rows⟩
  · rw [same]
    exact first.stored
  · exact Or.inr ⟨image, stored, first.rows.trans SameRole.trans rows⟩

theorem RolesKept.getTask_some (kept : RolesKept spared before after) (taskId : TaskId)
    (old : Task) (found : before.getTask taskId = some old) :
    ∃ new, after.getTask taskId = some new ∧ SameRole spared old new :=
  kept.rows.get?_some taskId old found

theorem RolesKept.childTaskIdsOf (kept : RolesKept spared before after) (goalId : TaskId) :
    after.childTaskIdsOf goalId = before.childTaskIdsOf goalId := by
  simp only [SmartLedger.childTaskIdsOf]
  cases found : before.getTask goalId with
  | none =>
    cases result : after.getTask goalId with
    | none => rfl
    | some new =>
      obtain ⟨old, there, _⟩ := kept.rows.get?_origin goalId new result
      have row : before.getTask goalId = some old := there
      rw [found] at row
      cases row
  | some old =>
    obtain ⟨new, there, same⟩ := kept.getTask_some goalId old found
    rw [there]
    exact same.childTaskIds

section

variable (kept : RolesKept spared before current)
include kept

theorem RolesKept.rework (change : Reworked (SameRole spared) current after) :
    RolesKept spared before after := by
  apply kept.trans
  exact ⟨change.rows, Or.inl (by rw [change.backend])⟩

theorem RolesKept.modifyTask (taskId : TaskId) (change : Task → Task)
    (sameId : ∀ task, task.taskId = taskId → (change task).taskId = taskId)
    (changes : ∀ task, current.getTask taskId = some task → SameRole spared task (change task)) :
    RolesKept spared before (current.modifyTask taskId change) :=
  kept.rework (reworked_modifyTask SameRole.refl current taskId change sameId changes)

theorem RolesKept.putTask (row new : Task) (stands : before.getTask row.taskId = some row)
    (same : SameRole spared row new) : RolesKept spared before (current.putTask new) := by
  obtain ⟨old, found, played⟩ := kept.getTask_some row.taskId row stands
  have named : current.getTask new.taskId = some old := by rw [same.taskId, found]
  have change : SameRole spared old new := Eq.trans same played.symm
  exact kept.rework
    (reworked_putTask current old new (fun task _ => SameRole.refl task) named change)

end

def Copies (spared : List TaskId) (before : SmartLedger) (snapshots : Snapshots) : Prop :=
  ∀ copy ∈ snapshots, ∃ row, before.getTask row.taskId = some row ∧ SameRole spared row copy

theorem copies_of_rows (rows : ∀ copy ∈ snapshots, before.getTask copy.taskId = some copy) :
    Copies spared before snapshots := by
  intro copy member
  exact ⟨copy, rows copy member, SameRole.refl copy⟩

theorem RolesKept.restoreSnapshots (kept : RolesKept spared before current) (snapshots : Snapshots)
    (copies : Copies spared before snapshots) :
    RolesKept spared before (current.restoreSnapshots snapshots) := by
  induction snapshots generalizing current with
  | nil => exact kept
  | cons copy rest ih =>
    obtain ⟨row, stands, same⟩ := copies copy List.mem_cons_self
    have others : Copies spared before rest := fun other member =>
      copies other (List.mem_cons_of_mem copy member)
    apply ih _ others
    simp only [SmartLedger.modifyTask]
    split
    · exact kept
    · exact kept.putTask row copy stands same

theorem RolesKept.commitChanges (kept : RolesKept spared before current) (snapshots : Snapshots)
    (copies : Copies spared before snapshots) :
    RolesKept spared before (commitChanges (snapshots, current)).2 := by
  simp only [SmartLedger.commitChanges, commitDeferred, discardAddedTasks_nil]
  by_cases unchanged : snapshots.isEmpty
  · rw [if_pos unchanged]
    exact kept
  · rw [if_neg unchanged]
    by_cases accepted : current.backend.next = .accepted
    · have written : current.save.2.backend.stored = some current.image :=
        current.save_stored accepted
      have saved := current.save_accepted accepted
      rw [if_pos saved]
      exact ⟨kept.rows, Or.inr ⟨current.image, written, kept.rows⟩⟩
    · have kept' : RolesKept spared before current.save.2 := by
        apply kept.trans
        exact ⟨(RolesKept.refl current).rows, Or.inl (current.save_keeps_stored accepted)⟩
      have refused := current.save_refused accepted
      simp only [refused, Bool.false_eq_true, ↓reduceIte]
      exact kept'.restoreSnapshots snapshots copies

theorem healChildren_roles (copies : Copies spared before snapshots)
    (kept : RolesKept spared before current) :
    Copies spared before (childIds.foldl healChild (snapshots, current)).1 ∧
      RolesKept spared before (childIds.foldl healChild (snapshots, current)).2 := by
  induction childIds generalizing snapshots current with
  | nil => exact ⟨copies, kept⟩
  | cons childId rest ih =>
    simp only [List.foldl_cons, healChild]
    cases found : current.getTask childId with
    | none => exact ih snapshots copies kept
    | some child =>
      have named := current.getTask_taskId childId child found
      by_cases demands : demandsGoalType child = true
      · simp only [demands, ↓reduceIte]
        obtain ⟨row, stands, same⟩ := kept.rows.get?_origin childId child found
        have stands' : before.getTask row.taskId = some row := by
          rw [← same.taskId, named]
          exact stands
        apply ih
        · intro copy member
          rcases List.mem_append.mp member with earlier | here
          · exact copies copy earlier
          · rw [List.mem_singleton.mp here]
            exact ⟨row, stands', same⟩
        · exact kept.putTask row _ stands' same
      · simp only [demands, Bool.false_eq_true, ↓reduceIte]
        exact ih snapshots copies kept

theorem healGoalTypeDemands_roles :
    RolesKept spared ledger (ledger.healGoalTypeDemands goalId).2 := by
  have start : RolesKept spared ledger ledger := RolesKept.refl ledger
  have healed := healChildren_roles (ledger.childTaskIdsOf goalId) []
    (List.forall_mem_nil _) start
  exact healed.2.commitChanges _ healed.1

theorem rows_of_ids (ids : List TaskId) (keep : Task → Bool) (task : Task)
    (member : task ∈ (ids.filterMap ledger.getTask).filter keep) :
    ledger.getTask task.taskId = some task ∧ keep task = true := by
  obtain ⟨listed, kept⟩ := List.mem_filter.mp member
  obtain ⟨id, _, found⟩ := List.mem_filterMap.mp listed
  rw [ledger.getTask_taskId id task found]
  exact ⟨found, kept⟩

theorem restampAll_roles (wanted : Context) (stale : List Task)
    (rows : ∀ task ∈ stale, before.getTask task.taskId = some task)
    (kept : RolesKept spared before current) :
    RolesKept spared before
      (stale.foldl (fun now task => now.putTask (restamp wanted task)) current) := by
  induction stale generalizing current with
  | nil => exact kept
  | cons task rest ih =>
    apply ih
    · intro other member
      exact rows other (List.mem_cons_of_mem task member)
    · exact kept.putTask task _ (rows task List.mem_cons_self) rfl

theorem refreshRequester_roles (context : Context) :
    RolesKept spared ledger (ledger.refreshRequester goalId context).2 := by
  have rows := fun task member => (ledger.rows_of_ids
    (goalId :: ledger.childTaskIdsOf goalId) (staleRequester (requesterKeys context)) task
      member).1
  have start : RolesKept spared ledger ledger := RolesKept.refl ledger
  have stamped := restampAll_roles (requesterKeys context) _ rows start
  exact stamped.commitChanges _ (copies_of_rows _ rows)

theorem reopened_role (task : Task) (reason : String) (now : Time) (opened : Task)
    (moved : task.reopen reason now = some opened) (reopens : task.taskId ∉ spared) :
    SameRole spared task opened := by
  simp only [Task.reopen, Task.moveFrom] at moved
  split at moved
  next completed =>
    cases moved
    have idle : task.status ≠ .inProgress := by simp [completed]
    exact sameRole_of_idle rfl rfl rfl rfl idle rfl fun member => absurd member reopens
  next => cases moved

theorem reopenChildren_roles (reopens : ∀ id ∈ childIds, id ∉ spared)
    (kept : RolesKept spared before current) :
    RolesKept spared before (reopenChildren now childIds current).2 := by
  induction childIds generalizing current with
  | nil => exact kept
  | cons childId rest ih =>
    simp only [reopenChildren, reopenTask, ↓reduceIte]
    cases reopened : (current.getTask childId).bind
        (·.reopen "continuous goal: re-armed for its next run" now) with
    | none => exact kept
    | some opened =>
        obtain ⟨task, found, moved⟩ := Option.bind_eq_some_iff.mp reopened
        have named := current.getTask_taskId childId task found
        have notSpared := reopens childId List.mem_cons_self
        have same := reopened_role task _ now opened moved (named ▸ notSpared)
        have put : RolesKept spared before (current.putTask opened) :=
          kept.trans ((RolesKept.refl current).putTask task opened (named ▸ found) same)
        apply ih
        · intro id member
          exact reopens id (List.mem_cons_of_mem childId member)
        · apply put.modifyTask
          · intro other there
            exact there
          · intro other _
            rfl

theorem reopenFinishedRun_roles (reopens : ∀ id ∈ ledger.childTaskIdsOf goalId, id ∉ spared) :
    RolesKept spared ledger (ledger.reopenFinishedRun goalId now).2 := by
  have copies : Copies spared ledger ((ledger.childTaskIdsOf goalId).filterMap ledger.getTask) := by
    apply copies_of_rows
    intro copy member
    obtain ⟨id, _, found⟩ := List.mem_filterMap.mp member
    rw [ledger.getTask_taskId id copy found]
    exact found
  have start : RolesKept spared ledger ledger := RolesKept.refl ledger
  have reopened := reopenChildren_roles now (ledger.childTaskIdsOf goalId) reopens start
  simp only [reopenFinishedRun]
  split
  · exact RolesKept.refl ledger
  · split
    · exact reopened.commitChanges _ copies
    · exact reopened.restoreSnapshots _ copies

theorem released_role (task : Task) (idle : task.status ≠ .inProgress)
    (unfinished : task.taskId ∈ spared → task.status ≠ .completed) :
    SameRole spared task (updatedTask releaseHeld now task) := by
  have frame := updatedTask_frame releaseHeld now task
  have pending : (updatedTask releaseHeld now task).status = .pending :=
    (updatedTask_keeps releaseHeld now task).2.1
  exact sameRole_of_idle (congrArg Task.taskId frame :) (congrArg Task.description frame :)
    (congrArg Task.parentTaskId frame :) (congrArg Task.childTaskIds frame :) idle
    pending unfinished

/-- A held task is BLOCKED, so its release takes no one's running task away. -/
theorem releaseChildren_roles (candidates : List Task)
    (rows : ∀ child ∈ candidates, before.getTask child.taskId = some child ∧
      child.status = .blocked) (kept : RolesKept spared before current) :
    RolesKept spared before (releaseChildren host now candidates current).2 := by
  induction candidates generalizing current with
  | nil => exact kept
  | cons child rest ih =>
    obtain ⟨stands, blocked⟩ := rows child List.mem_cons_self
    obtain ⟨task, found, played⟩ := kept.getTask_some child.taskId child stands
    have named := current.getTask_taskId child.taskId task found
    rw [← named] at found
    have update := current.updateTaskStatus_deferred host task releaseHeld now found rfl
      (by decide)
    rw [named] at update
    simp only [releaseChildren, update]
    split
    · have idle : task.status ≠ .inProgress := fun running => by
        simpa [blocked] using played.inProgress.mp running
      have unfinished : task.taskId ∈ spared → task.status ≠ .completed := by
        intro member finished
        simpa [blocked] using (played.completed (named ▸ member)).mp finished
      have released : SameRole spared child (updatedTask releaseHeld now task) :=
        played.trans _ _ _ (released_role now task idle unfinished)
      apply ih
      · intro other member
        exact rows other (List.mem_cons_of_mem child member)
      · apply (kept.putTask child _ stands released).modifyTask
        · intro other there
          exact there
        · intro other _
          rfl
    · exact kept

theorem releaseHeldTasks_roles :
    RolesKept spared ledger (ledger.releaseHeldTasks host goalId now).2 := by
  have rows := ledger.rows_of_ids (ledger.childTaskIdsOf goalId) heldForHelp
  have start : RolesKept spared ledger ledger := RolesKept.refl ledger
  have copies : Copies spared ledger _ := copies_of_rows _ fun task member => (rows task member).1
  have released := releaseChildren_roles host now
    (((ledger.childTaskIdsOf goalId).filterMap ledger.getTask).filter heldForHelp)
    (fun task member => ⟨(rows task member).1, by
      have held := (rows task member).2
      simp only [heldForHelp, decide_eq_true_eq] at held
      exact held.1⟩) start
  simp only [releaseHeldTasks]
  split
  · exact released.commitChanges _ copies
  · exact released.restoreSnapshots _ copies

end Roles

end Hartos.SmartLedger
