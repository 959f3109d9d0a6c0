import Hartos.LedgerEvolution

/-!
What the completion of a task does to the rest of the ledger. The loop resumes
and messages tasks breadth-first; the undo snapshot is taken from a closure that
is computed beforehand by a walk of its own. Both walks follow the same links,
no step of the cascade changes a link, so the closure holds every task the loop
can touch, in graphs with cycles and dangling ids too.
-/
namespace Hartos.SmartLedger
open TaskStatus KeyedTable

def cascadeFrame (task : Task) : Task :=
  { task with
    status := .pending
    stateHistory := []
    updatedAt := 0
    resumedAt := none
    blockedBy := []
    messagesToDependents := []
    receivedMessages := [] }

structure Cascaded (old new : Task) : Prop where
  frame : cascadeFrame new = cascadeFrame old
  status : new.status = old.status ∨ (old.status = .blocked ∧ new.status = .inProgress)

variable (host : Host) (ledger : SmartLedger) (task : Task) {old new : Task}

theorem Cascaded.refl : Cascaded task task := ⟨rfl, Or.inl rfl⟩

theorem Cascaded.trans (a b c : Task) (first : Cascaded a b) (second : Cascaded b c) :
    Cascaded a c := by
  refine ⟨second.frame.trans first.frame, ?_⟩
  rcases first.status with same | ⟨wasBlocked, running⟩
  · rcases second.status with same' | ⟨blocked, resumed⟩
    · exact Or.inl (same'.trans same)
    · exact Or.inr ⟨same ▸ blocked, resumed⟩
  · rcases second.status with same' | ⟨blocked, _⟩
    · exact Or.inr ⟨wasBlocked, same'.trans running⟩
    · rw [running] at blocked
      cases blocked

theorem Cascaded.taskId (change : Cascaded old new) : new.taskId = old.taskId :=
  (congrArg Task.taskId change.frame :)

theorem Cascaded.context (change : Cascaded old new) :
    new.context = old.context := (congrArg Task.context change.frame :)

theorem Cascaded.links (change : Cascaded old new) : SameLinks old new :=
  ⟨(congrArg Task.prerequisites change.frame :), (congrArg Task.dependentTaskIds change.frame :)⟩

/-- A cascade that stays within the ids `reached`. -/
def CascadedWithin (reached : TaskId → Prop) (old new : Task) : Prop :=
  Cascaded old new ∧ (¬ reached old.taskId → new = old)

section Steps
variable {reached : TaskId → Prop}
variable {related : Task → Task → Prop} (ledger : SmartLedger) (senderId : TaskId)
  (direct : List TaskId) (task : Task) (now : Time) (state : SmartLedger × List TaskId)
  (dependentId : TaskId)

theorem CascadedWithin.refl : CascadedWithin reached task task :=
  ⟨Cascaded.refl task, fun _ => rfl⟩

theorem CascadedWithin.trans (a b c : Task) (first : CascadedWithin reached a b)
    (second : CascadedWithin reached b c) : CascadedWithin reached a c := by
  refine ⟨first.1.trans a b c second.1, fun outside => ?_⟩
  have same := first.2 outside
  rw [second.2 (same ▸ outside), same]

theorem CascadedWithin.of_cascaded {old new : Task} (inside : reached old.taskId)
    (change : Cascaded old new) : CascadedWithin reached old new :=
  ⟨change, fun outside => absurd inside outside⟩

theorem receiveMessages_cascaded (messages : List Message) (now : Time) :
    Cascaded task (task.receiveMessages messages now) := by
  unfold Task.receiveMessages
  split
  · exact Cascaded.refl task
  · exact ⟨rfl, Or.inl rfl⟩

theorem removeBlockingTask_cascaded (blocker : TaskId) (now : Time) :
    Cascaded task (task.removeBlockingTask blocker now) := by
  unfold Task.removeBlockingTask
  split
  · exact ⟨rfl, Or.inl rfl⟩
  · exact Cascaded.refl task

theorem announce_cascaded : Cascaded task (announce task now) := by
  unfold announce
  split <;> exact ⟨rfl, Or.inl rfl⟩

theorem resume_cascaded (task resumed : Task) (reason : String) (now : Time)
    (blocked : task.status = .blocked) (moved : task.resume reason now = some resumed) :
    Cascaded task resumed := by
  unfold Task.resume Task.move at moved
  split at moved
  · cases moved
    exact ⟨rfl, Or.inr ⟨blocked, rfl⟩⟩
  · cases moved

-- The rule for a delivery: the sender's messages are stamped, the receiver's grow.
theorem deliver_rows (senderId dependentId : TaskId) (now : Time) (self : ∀ task, related task task)
    (stamped : ∀ old new messages, related old new → new.taskId = senderId →
      related old { new with messagesToDependents := messages })
    (received : ∀ old new messages, related old new → new.taskId = dependentId →
      related old (new.receiveMessages messages now)) :
    Reworked related ledger (ledger.deliver senderId dependentId now) := by
  unfold deliver
  cases found : ledger.getTask senderId with
  | none => exact Reworked.refl self ledger
  | some sender =>
    have named := ledger.getTask_taskId senderId sender found
    have sent := (Reworked.refl self ledger).entered sender
      { sender with messagesToDependents :=
          sender.messagesToDependents.map fun m => { m with receivedAt := some now } }
      (ledger.getTask_self senderId sender found) fun old row => stamped old sender _ row named
    exact sent.modified dependentId _
      (fun task here => (receiveMessages_cascaded task _ now).taskId.trans here)
      fun old new row here => received old new _ row here

theorem deliver_cascaded (senderId dependentId : TaskId) (now : Time) (sends : reached senderId)
    (receives : reached dependentId) :
    Reworked (CascadedWithin reached) ledger (ledger.deliver senderId dependentId now) := by
  apply deliver_rows ledger senderId dependentId now CascadedWithin.refl
  · intro old new messages row named
    exact row.trans old new _ (CascadedWithin.of_cascaded (named ▸ sends) ⟨rfl, Or.inl rfl⟩)
  · intro old new messages row named
    exact row.trans old new _ (CascadedWithin.of_cascaded (named ▸ receives)
      (receiveMessages_cascaded new messages now))

/-- The rule for one pop of the completion loop: what holds of the delivery, and goes
on through the release and the resumption, holds of the pop. -/
theorem visitDependent_rows
    (absent : state.1.getTask dependentId = none → Reworked related state.1 state.1)
    (delivered : Reworked related state.1
      (if dependentId ∈ direct then state.1.deliver senderId dependentId now else state.1))
    (released : ∀ old new, related old new → new.taskId = dependentId →
      related old (new.removeBlockingTask senderId now))
    (resumed : ∀ old new reason after, related old new → new.taskId = dependentId →
      new.status = .blocked → new.resume reason now = some after → related old after) :
    Reworked related state.1 (visitDependent senderId direct now state dependentId).1.1 := by
  unfold visitDependent
  cases looked : state.1.getTask dependentId with
  | none => exact absent looked
  | some original =>
    dsimp only
    have unblocked := delivered.modified dependentId
      (fun task => task.removeBlockingTask senderId now)
      (fun task named => (removeBlockingTask_cascaded task senderId now).taskId.trans named)
      released
    split
    next => exact unblocked
    next dependent found =>
      have named := getTask_taskId _ dependentId dependent found
      split
      next ready =>
        split
        next => exact unblocked
        next after moved =>
          have change := resume_cascaded dependent after _ now ready.1 moved
          apply unblocked.entered dependent after
          · rw [change.taskId, named, found]
          · intro old row
            exact resumed old dependent _ after row named ready.1 moved
      next => exact unblocked

/-- A pop queues nothing, or the dependents of the id it looked at. -/
theorem visitDependent_queue :
    (visitDependent senderId direct now state dependentId).2 = [] ∨
      (visitDependent senderId direct now state dependentId).2 =
        (visitDependent senderId direct now state dependentId).1.1.dependentsOf dependentId := by
  unfold visitDependent
  cases state.1.getTask dependentId with
  | none => exact Or.inl rfl
  | some original =>
    dsimp only
    split
    next => exact Or.inl rfl
    next dependent found =>
      have named := getTask_taskId _ dependentId dependent found
      split
      next ready =>
        split
        next => exact Or.inl rfl
        next after moved =>
          have change := resume_cascaded dependent after _ now ready.1 moved
          simp [dependentsOf, getTask_putTask, change.taskId, named]
      next => exact Or.inl rfl

-- One pop touches ids it may touch, and what it queues could be read off before.
theorem visitDependent_cascaded (sends : reached senderId) (receives : reached dependentId) :
    Reworked (CascadedWithin reached) state.1
        (visitDependent senderId direct now state dependentId).1.1 ∧
      ((visitDependent senderId direct now state dependentId).2 = [] ∨
        (visitDependent senderId direct now state dependentId).2 =
          state.1.dependentsOf dependentId) := by
  have rows : Reworked (CascadedWithin reached) state.1
      (visitDependent senderId direct now state dependentId).1.1 := by
    apply visitDependent_rows
    · intro _
      exact Reworked.refl CascadedWithin.refl state.1
    · split
      · exact deliver_cascaded state.1 senderId dependentId now sends receives
      · exact Reworked.refl CascadedWithin.refl state.1
    · intro old new row named
      exact row.trans old new _ (CascadedWithin.of_cascaded (named ▸ receives)
        (removeBlockingTask_cascaded new senderId now))
    · intro old new reason after row named blocked moved
      exact row.trans old new _ (CascadedWithin.of_cascaded (named ▸ receives)
        (resume_cascaded new after reason now blocked moved))
  have links := (rows.mono fun _ _ pair => pair.1.links).dependentsOf
  have queue := visitDependent_queue senderId direct now state dependentId
  rw [congrFun links dependentId] at queue
  exact ⟨rows, queue⟩

end Steps

theorem collect_ends (seeds : List TaskId) :
    (Worklist.collect ledger.dependentsOf (ledger.walkFuel seeds) seeds).queue = [] := by
  refine Worklist.walk_completes (fun id => (ledger.dependentsOf id).length) _ (fun _ => True)
    (fun _ _ _ => ⟨trivial, Nat.le_refl _⟩) ledger.tasks.keys ?_ _ _ _ _ trivial (Nat.le_refl _)
  intro id absent
  simp [dependentsOf, getTask, (Table.get?_none ledger.tasks id).mpr absent]

/-- The closure holds the task's direct dependents and the dependents of
everything in it. -/
theorem completionDependencyIds_closed (found : ledger.getTask task.taskId = some task) :
    (∀ id ∈ ledger.dependentsOf task.taskId,
        id ∈ (ledger.completionDependencyIds host task).2) ∧
      ∀ id ∈ (ledger.completionDependencyIds host task).2, ∀ next ∈ ledger.dependentsOf id,
        next ∈ (ledger.completionDependencyIds host task).2 := by
  have closed := Worklist.collect_closed ledger.dependentsOf _ _
    (ledger.collect_ends (ledger.completionDependencyIds host task).1)
  refine ⟨fun id member => closed.1 id ?_, closed.2⟩
  rw [completionDependencyIds, host.setOrder.mem_list]
  simpa [dependentsOf, found] using member

theorem mem_direct (found : ledger.getTask task.taskId = some task) (id : TaskId) :
    id ∈ (ledger.completionDependencyIds host task).1 ↔ id ∈ ledger.dependentsOf task.taskId := by
  rw [completionDependencyIds, host.setOrder.mem_list]
  simp [dependentsOf, found]

/-- The completion cascade, from the ledger that already holds the completed
task: it stays within any set of ids that holds the task and its dependents and
is closed under the links. -/
theorem handleTaskCompletion_cascaded (now : Time) (reached : TaskId → Prop)
    (found : ledger.getTask task.taskId = some task) (sends : reached task.taskId)
    (closed : ∀ id, reached id → ∀ next ∈ ledger.dependentsOf id, reached next) :
    Reworked (CascadedWithin reached) ledger
      (ledger.handleTaskCompletion host task.taskId now).1 := by
  unfold handleTaskCompletion
  simp only [found]
  have announced : Reworked (CascadedWithin reached) ledger
      (ledger.putTask (announce task now)) :=
    reworked_putTask ledger task _ (fun task _ => CascadedWithin.refl task)
      (by rw [(announce_cascaded task now).taskId, found])
      (CascadedWithin.of_cascaded sends (announce_cascaded task now))
  have row : (ledger.putTask (announce task now)).getTask (announce task now).taskId =
      some (announce task now) := by simp [getTask_putTask]
  have links := (announced.mono fun _ _ pair => pair.1.links).dependentsOf
  refine (Worklist.walk_invariant _
    (fun state : SmartLedger × List TaskId => Reworked (CascadedWithin reached) ledger state.1)
    reached ?_ _ _ _ _ announced ?_ (by simp)).1
  · intro state id holds inside
    have step := visitDependent_cascaded task.taskId
      ((ledger.putTask (announce task now)).completionDependencyIds host (announce task now)).1
      now state id sends inside
    refine ⟨holds.trans CascadedWithin.trans step.1, fun next queued => ?_⟩
    rcases step.2 with nothing | dependents
    · rw [nothing] at queued
      cases queued
    · rw [dependents, (holds.mono fun _ _ pair => pair.1.links).dependentsOf] at queued
      exact closed id inside next queued
  · intro id direct
    rw [mem_direct host _ _ row, links, (announce_cascaded task now).taskId] at direct
    exact closed _ sends id direct

-- The loop's fuel always suffices: its queue is empty at the end.
theorem handleTaskCompletion_ends (senderId : TaskId) (direct : List TaskId) (now : Time) :
    (Worklist.walk (visitDependent senderId direct now) (ledger.walkFuel direct) direct []
      (ledger, [])).queue = [] := by
  refine Worklist.walk_completes (fun id => (ledger.dependentsOf id).length) _
    (fun state => Reworked (CascadedWithin fun _ => True) ledger state.1) ?_ ledger.tasks.keys ?_
    _ _ _ _ (Reworked.refl CascadedWithin.refl ledger) (Nat.le_refl _)
  · intro state id holds
    have step := @visitDependent_cascaded (fun _ => True) senderId direct now state id
      trivial trivial
    refine ⟨holds.trans CascadedWithin.trans step.1, ?_⟩
    rcases step.2 with nothing | dependents
    · simp [nothing]
    · have kept := (holds.mono fun _ _ pair => pair.1.links).dependentsOf
      exact Nat.le_of_eq (by rw [dependents, kept])
  · intro id absent
    simp [dependentsOf, getTask, (Table.get?_none ledger.tasks id).mpr absent]

end Hartos.SmartLedger
