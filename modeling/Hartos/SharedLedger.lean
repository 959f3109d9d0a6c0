import Hartos.CoordinatorPrograms
import Hartos.GoalAtomicity

/-!
Coordinator processes over one stored ledger and one Redis lock. A process loads
the stored ledger when it opens and works on that copy from then on; each save
writes the whole copy. Calls run access by access, in any order across threads and
processes. The lock keeps two processes off one task at one moment, but nothing
tells a process what others have finished since it opened.
-/
namespace Hartos.SharedLedger
open TaskStatus KeyedTable StepSystem
open SmartLedger (Cascaded StatusSet RolesKept SameRole)

abbrev ProcessId := String

abbrev ThreadId := String

abbrev Call := ThreadId × Program DistributedTaskLock

inductive ProcessCall where
  | coordinate (event : CoordinatorEvent) (passes : Nat)
  | submitGoal (objective : String) (definitions : List TaskDefinition) (context : Context)
      (goalId : TaskId)

def ProcessCall.program (host : Host) : ProcessCall → Program DistributedTaskLock
  | .coordinate event passes => event.program host passes
  | .submitGoal objective definitions context goalId =>
      Program.submitGoal objective definitions context goalId

inductive FleetEvent where
  -- A load that raises leaves the process with an empty ledger.
  | opens (process : ProcessId) (loads : Bool)
  | calls (process : ProcessId) (thread : ThreadId) (call : ProcessCall)
  | runs (process : ProcessId) (thread : ThreadId) (now : Time)
  -- Heartbeats renew entries, and Redis drops those that lapse.
  | locks (lock : DistributedTaskLock)

/-- `submitted` lists the tasks whose completion has been written, `acknowledged` those
whose `submit_result` has returned; `knows` is what a process has seen of the first:
it made the submission, or opened later. -/
structure Fleet where
  memory : ProcessId → Option SmartLedger
  running : ProcessId → List Call
  backend : Backend
  lock : DistributedTaskLock
  submitted : List TaskId
  acknowledged : List TaskId
  knows : ProcessId → List TaskId

def Fleet.closed (backend : Backend) (lock : DistributedTaskLock) : Fleet where
  memory := fun _ => none
  running := fun _ => []
  backend := backend
  lock := lock
  submitted := []
  acknowledged := []
  knows := fun _ => []

variable (fleet : Fleet)

def Fleet.coordinator (ledger : SmartLedger) : Coordinator DistributedTaskLock :=
  ⟨{ ledger with backend := fleet.backend }, fleet.lock⟩

def openLedger (backend : Backend) (loads : Bool) : SmartLedger :=
  SmartLedger.load true { backend with stored := if loads then backend.stored else none }

def Fleet.rest (process : ProcessId) (thread : ThreadId) : List Call :=
  (fleet.running process).filter fun call => call.1 ≠ thread

structure Next where
  process : ProcessId
  thread : ThreadId
  now : Time
  c : Coordinator DistributedTaskLock
  program : Program DistributedTaskLock

/-- What an event makes a call do: a process that has not opened calls nothing. -/
def Fleet.next : FleetEvent → Option Next
  | .runs process thread now =>
      (fleet.memory process).bind fun ledger =>
        ((fleet.running process).find? fun call => call.1 = thread).map fun call =>
          ⟨process, thread, now, fleet.coordinator ledger, call.2⟩
  | _ => none

def Fleet.run (host : Host) (fleet : Fleet) (next : Next) : Fleet :=
  let ⟨process, thread, now, c, program⟩ := next
  let goesOn (program : Program DistributedTaskLock) :=
    Function.update fleet.running process ((thread, program) :: fleet.rest process thread)
  match program with
  | .done answer =>
      { fleet with
        running := Function.update fleet.running process (fleet.rest process thread)
        acknowledged := match answer with
          | .submitted taskId => taskId :: fleet.acknowledged
          | _ => fleet.acknowledged }
  | .look next => { fleet with running := goesOn (next c now) }
  | .access access next =>
      let outcome := c.access host now access
      let after := outcome.2
      { memory := Function.update fleet.memory process (some after.ledger)
        running := goesOn (next outcome.1)
        backend := after.ledger.backend
        lock := after.lock
        submitted := access.written outcome.1 ++ fleet.submitted
        acknowledged := fleet.acknowledged
        knows := Function.update fleet.knows process
          (access.written outcome.1 ++ fleet.knows process) }

def step (host : Host) (fleet : Fleet) (event : FleetEvent) : Fleet :=
  match event with
  | .opens process loads =>
      { fleet with
        memory := Function.update fleet.memory process (some (openLedger fleet.backend loads))
        running := Function.update fleet.running process []
        knows := Function.update fleet.knows process (if loads then fleet.submitted else []) }
  | .calls process thread call =>
      { fleet with
        running := Function.update fleet.running process
          ((thread, call.program host) :: fleet.rest process thread) }
  | .runs .. => match fleet.next event with
      | none => fleet
      | some next => fleet.run host next
  | .locks lock => { fleet with lock := lock }

def StoredFinished (ids : List TaskId) (backend : Backend) : Prop :=
  ∀ id ∈ ids, ∃ image task, backend.stored = some image ∧ image.tasks.get? id = some task ∧
    task.status = .completed

def handed : Option Next → List TaskId
  | some ⟨_, _, _, _, .done (.claimed taskIds)⟩ => taskIds
  | _ => []

/-- The law of one event: no finished task is handed out again, and every
acknowledged submission is still COMPLETED in the stored ledger afterwards. -/
structure NothingLost (host : Host) (fleet : Fleet) (event : FleetEvent) : Prop where
  once : ∀ id ∈ handed (fleet.next event), id ∉ fleet.acknowledged
  stored : StoredFinished (step host fleet event).acknowledged (step host fleet event).backend

def writes : Access → Bool
  | .undeferTask _ | .deferTask .. | .save | .goal _ => true
  | .updateTaskStatus _ update => !update.deferSave
  | _ => false

def alone : Access → Bool
  | .goal _ => true
  | .updateTaskStatus _ update => update.status = .completed
  | _ => false

/-- A goal neither re-arms nor replaces a finished task, and is staged once. -/
def spares (ids : List TaskId) (ledger : SmartLedger) : Access → Bool
  | .goal (.reopen goalId) => ∀ id ∈ ledger.childTaskIdsOf goalId, id ∉ ids
  | .goal (.stage goalId _ definitions _) => goalId ∉ ledger.tasks.keys ∧
      ∀ id ∈ (ledger.stagingPlan goalId definitions [goalId]).2, id ∉ ids
  | _ => true

def Fleet.informed (next : Next) : Bool :=
  match next.program with
  | .access access _ =>
      (writes access → ∀ id ∈ fleet.submitted, id ∈ fleet.knows next.process) ∧
        (alone access → ∀ call ∈ fleet.running next.process, call.1 = next.thread) ∧
        spares fleet.submitted next.c.ledger access
  | .done (.claimed taskIds) =>
      taskIds = [] ∨ ∀ id ∈ fleet.submitted, id ∈ fleet.knows next.process
  | _ => true

/-- A process that writes its copy, or hands out a task, has seen every submission. -/
def Informed (event : FleetEvent) : Prop :=
  (fleet.next event).all fleet.informed = true

instance (fleet : Fleet) (event : FleetEvent) : Decidable (Informed fleet event) :=
  inferInstanceAs (Decidable (_ = true))

structure Shows (ids : List TaskId) (ledger : SmartLedger) : Prop where
  memory : Finished ids ledger.tasks
  stored : StoredFinished ids ledger.backend

section Tables
variable {ids : List TaskId}

theorem StoredFinished.of_image (backend : Backend) (image : LedgerImage)
    (stored : backend.stored = some image) (finished : Finished ids image.tasks) :
    StoredFinished ids backend := by
  intro id member
  obtain ⟨task, found, completed⟩ := finished id member
  exact ⟨image, task, stored, found, completed⟩

theorem StoredFinished.congr {first second : Backend} (finished : StoredFinished ids first)
    (same : second.stored = first.stored) : StoredFinished ids second := by
  intro id member
  rw [same]
  exact finished id member

end Tables

namespace Shows
variable {ids : List TaskId} {ledger : SmartLedger} (shown : Shows ids ledger)
include shown

theorem save : Shows ids ledger.save.2 := by
  refine ⟨shown.memory, ?_⟩
  by_cases accepted : ledger.backend.next = .accepted
  · exact StoredFinished.of_image _ ledger.save.2.image (ledger.save_stored accepted) shown.memory
  · exact shown.stored.congr (ledger.save_keeps_stored accepted)

-- A move the lifecycle makes from a status other than COMPLETED leaves finished work alone.
theorem moveTaskOrUndo (taskId : TaskId) (mover : Task → Option Task)
    (moves : ∀ task moved, mover task = some moved →
      moved.taskId = task.taskId ∧ task.status ≠ .completed) :
    Shows ids (ledger.moveTaskOrUndo taskId mover).2 := by
  unfold SmartLedger.moveTaskOrUndo
  split
  · exact shown
  next task found =>
    split
    · exact shown
    next moved done =>
      obtain ⟨sameId, going⟩ := moves task moved done
      have named := ledger.getTask_taskId taskId task found
      have outside : task.taskId ∉ ids := fun member =>
        going (shown.memory.shown task.taskId task (named.symm ▸ found) member)
      have put : Shows ids (ledger.putTask moved) :=
        ⟨shown.memory.set moved fun member => absurd (sameId ▸ member) outside, shown.stored⟩
      dsimp only
      split
      · exact put.save
      · exact ⟨put.save.memory.set task fun member => absurd member outside, put.save.stored⟩

theorem roles {after : SmartLedger} (kept : RolesKept ids ledger after) : Shows ids after := by
  have keeps (old new : Task) (member : old.taskId ∈ ids) (same : SameRole ids old new)
      (completed : old.status = .completed) : new.status = .completed :=
    (same.completed member).mpr completed
  constructor
  · exact shown.memory.evolves kept.rows keeps
  · rcases kept.stored with same | ⟨image, stored, rows⟩
    · exact shown.stored.congr same
    · exact StoredFinished.of_image _ image stored (shown.memory.evolves rows keeps)

theorem added {current : SmartLedger} {added : List TaskId}
    (grown : SmartLedger.Added ledger added current) (others : ∀ id ∈ added, id ∉ ids) :
    Shows ids current := by
  constructor
  · apply shown.memory.congr
    intro id member
    exact grown.outside id fun inside => others id inside member
  · apply shown.stored.congr
    rw [grown.backend]

theorem discard {added : List TaskId} (others : ∀ id ∈ added, id ∉ ids) :
    Shows ids (ledger.discardAddedTasks added) := by
  refine ⟨?_, shown.stored⟩
  apply shown.memory.congr
  intro id member
  have kept : id ∉ added := fun inside => others id inside member
  exact (Table.get?_eraseAll added ledger.tasks id).trans (if_neg kept)

omit shown in
theorem finishGoal (staging : SmartLedger.Staging × List TaskId × SmartLedger)
    (shown : Shows ids staging.2.2) (others : ∀ id ∈ staging.2.1, id ∉ ids) :
    Shows ids (SmartLedger.finishGoal staging).2 := by
  obtain ⟨stage, added, current⟩ := staging
  cases stage with
  | missingDescription => exact shown
  | collision childId => exact shown.discard others
  | staged =>
    simp only [SmartLedger.finishGoal, SmartLedger.commitDeferred]
    by_cases saved : current.save.1 = true
    · simp only [saved, ↓reduceIte]
      exact ⟨shown.save.memory, shown.save.stored⟩
    · simp only [saved, Bool.false_eq_true, ↓reduceIte]
      exact shown.save.discard others

theorem goalPart (host : Host) (now : Time) (part : GoalPart)
    (spared : spares ids ledger (.goal part) = true) : Shows ids (part.work host ledger now) := by
  cases part with
  | heal goalId => exact shown.roles (ledger.healGoalTypeDemands_roles goalId)
  | refresh goalId context => exact shown.roles (ledger.refreshRequester_roles goalId context)
  | release goalId => exact shown.roles (ledger.releaseHeldTasks_roles host goalId now)
  | reopen goalId =>
    have spared := of_decide_eq_true spared
    exact shown.roles (ledger.reopenFinishedRun_roles goalId now spared)
  | stage goalId objective definitions context =>
    have spared := of_decide_eq_true spared
    simp only [GoalPart.work]
    split
    · exact shown
    next hop _ =>
      split
      · exact shown
      · obtain ⟨started, grown, family, staged⟩ := ledger.stageGoal_starts host objective
          definitions { context with hop := some (.number hop) } goalId now spared.1
        have loop := SmartLedger.stageChildren_plan { context with hop := some (.number hop) } now
          definitions grown family _ rfl
        rw [staged]
        generalize SmartLedger.stageChildren goalId _ now definitions [goalId] started = staging
          at loop ⊢
        have plan : staging.2.1 = (ledger.stagingPlan goalId definitions [goalId]).2 :=
          congrArg Prod.snd loop.1
        have others := plan ▸ spared.2
        exact finishGoal staging (shown.added loop.2.1 others) others

end Shows

theorem completed_stays (task : Task) (status : Status) (allowed : task.validateTransition status)
    (other : status ≠ .rolledBack) : task.status ≠ .completed := by
  intro completed
  have none : transitionRefusalBetween .completed status = none := by
    simpa [Task.validateTransition, Task.transitionRefusal, completed] using allowed
  exact other (completed_moves status none)

theorem statusSet_completed {taskId : TaskId} {old new : Task}
    (set : StatusSet taskId .completed old new) (completed : old.status = .completed) :
    new.status = .completed := by
  by_cases named : old.taskId = taskId
  · exact set.named named
  · rcases (set.others named).status with same | ⟨blocked, _⟩
    · exact same.trans completed
    · rw [completed] at blocked
      cases blocked

section Accesses
variable (host : Host) (c : Coordinator DistributedTaskLock) (now : Time) (access : Access)

variable {known : List TaskId}

/-- An update that waits for a later save leaves what is known finished. -/
theorem deferred_update (finished : Finished known c.ledger.tasks) (taskId : TaskId)
    (update : SmartLedger.StatusUpdate) (deferred : update.deferSave = true)
    (moves : update.status ≠ .completed ∧ update.status ≠ .rolledBack) :
    ∀ outcome, c.ledger.updateTaskStatus host taskId update now = outcome →
      Finished known outcome.2.tasks ∧ outcome.2.backend = c.ledger.backend ∧
        (outcome.1 = true → taskId ∉ known) := by
  rintro outcome rfl
  cases found : c.ledger.getTask taskId with
  | none =>
    simp only [SmartLedger.updateTaskStatus, found]
    exact ⟨finished, trivial, fun moved => absurd moved Bool.false_ne_true⟩
  | some task =>
    have named := c.ledger.getTask_taskId taskId task found
    subst named
    rw [c.ledger.updateTaskStatus_deferred host task update now found deferred moves.1]
    split
    next allowed =>
      have going := completed_stays task update.status allowed moves.2
      have outside : task.taskId ∉ known := fun member =>
        going (finished.shown task.taskId task found member)
      have sameId := (SmartLedger.updatedTask_keeps update now task).1
      exact ⟨finished.set _ fun member => absurd (sameId ▸ member) outside, rfl, fun _ => outside⟩
    next => exact ⟨finished, rfl, fun moved => absurd moved Bool.false_ne_true⟩

theorem restore_finished (ledger : SmartLedger) (snapshots : Snapshots)
    (finished : Finished known ledger.tasks) (copies : ∀ copy ∈ snapshots, ShownCopy (some known) copy) :
    Finished known (ledger.restoreSnapshots snapshots).tasks ∧
      (ledger.restoreSnapshots snapshots).backend = ledger.backend := by
  induction snapshots generalizing ledger with
  | nil => exact ⟨finished, rfl⟩
  | cons copy rest ih =>
    have others := List.forall_mem_cons.mp copies
    have one : Finished known (ledger.modifyTask copy.taskId fun _ => copy).tasks ∧
        (ledger.modifyTask copy.taskId fun _ => copy).backend = ledger.backend := by
      unfold SmartLedger.modifyTask
      split
      · exact ⟨finished, rfl⟩
      · exact ⟨finished.set copy (others.1 known rfl), rfl⟩
    have later := ih _ one.1 others.2
    exact ⟨later.1, later.2.trans one.2⟩

-- What an access that writes nothing leaves and tells.
theorem quiet_access (finished : Finished known c.ledger.tasks)
    (careful : access.Careful (some known)) (quiet : writes access = false) :
    ∀ outcome, c.access host now access = outcome →
      Finished known outcome.2.ledger.tasks ∧ outcome.2.ledger.backend = c.ledger.backend ∧
        access.Tells (some known) outcome.1 ∧ access.written outcome.1 = [] := by
  rintro outcome rfl
  cases access with
  | updateTaskStatus taskId update =>
    have deferred : update.deferSave = true := by simpa [writes] using quiet
    simp only [Access.Careful, deferred, ↓reduceIte] at careful
    have moved := deferred_update host c now finished taskId update deferred careful _ rfl
    refine ⟨moved.1, moved.2.1, ?_, by simp [Access.written, careful.1]⟩
    rintro replied _ _ ⟨⟩
    exact moved.2.2 replied
  | note taskId note =>
    have noted : Finished known (c.ledger.modifyTask taskId fun task => note.write now task).tasks ∧
        (c.ledger.modifyTask taskId fun task => note.write now task).backend =
          c.ledger.backend := by
      unfold SmartLedger.modifyTask
      split
      · exact ⟨finished, rfl⟩
      next task found =>
        have named := c.ledger.getTask_taskId taskId task found
        have keeps : (note.write now task).taskId = task.taskId ∧
            (note.write now task).status = task.status := by
          cases note <;> exact ⟨rfl, rfl⟩
        refine ⟨finished.set _ fun member => ?_, rfl⟩
        rw [keeps.1] at member
        exact keeps.2.trans (finished.shown task.taskId task (named.symm ▸ found) member)
    exact ⟨noted.1, noted.2, trivial, rfl⟩
  | restore snapshots =>
    have restored := restore_finished c.ledger snapshots finished careful
    exact ⟨restored.1, restored.2, trivial, rfl⟩
  | undeferTask | deferTask | save | goal => cases quiet
  | isTaskLocked | tryClaimTask | releaseTask => exact ⟨finished, rfl, trivial, rfl⟩

/-- What an access that writes leaves, on a copy that shows all submissions. -/
theorem writing_access {ids : List TaskId} (shown : Shows ids c.ledger)
    (careful : access.Careful (some ids)) (goes : writes access = true)
    (spared : spares ids c.ledger access = true) :
    ∀ outcome, c.access host now access = outcome →
      Shows (access.written outcome.1 ++ ids) outcome.2.ledger ∧
        access.Tells (some ids) outcome.1 := by
  rintro outcome rfl
  cases access with
  | updateTaskStatus taskId update =>
    have durable : update.deferSave = false := by simpa [writes] using goes
    simp only [Access.Careful, durable, Bool.false_eq_true, ↓reduceIte] at careful
    refine ⟨?_, fun _ other => absurd careful other⟩
    have ends := c.ledger.updateTaskStatus_ends host taskId update now durable
    simp only [Coordinator.access, Access.written, careful, and_true]
    rw [careful] at ends
    generalize c.ledger.updateTaskStatus host taskId update now = outcome at ends
    obtain ⟨success, after⟩ := outcome
    cases ends with
    -- What a save wrote is the copy, where the task was just set and the others stay.
    | done present rows stored =>
      have finished : Finished (taskId :: ids) after.tasks := by
        intro id member
        rcases List.mem_cons.mp member with here | earlier
        · obtain ⟨old, found⟩ := (Table.mem_keys _ taskId).mp present
          obtain ⟨new, there, set⟩ := rows.get?_some taskId old found
          exact ⟨new, here ▸ there, set.named (Table.get?_key _ taskId old found)⟩
        · exact shown.memory.evolves rows
            (fun _ _ _ set completed => statusSet_completed set completed) id earlier
      exact ⟨finished, StoredFinished.of_image _ _ stored finished⟩
    | refused rows stored =>
      refine ⟨?_, shown.stored.congr stored⟩
      rw [rows]
      exact shown.memory
  | undeferTask taskId =>
    refine ⟨shown.moveTaskOrUndo taskId _ ?_, trivial⟩
    intro task moved done
    unfold Task.undefer Task.moveFrom at done
    split at done
    next deferred =>
      cases done
      exact ⟨rfl, by simp [deferred]⟩
    next => cases done
  | deferTask taskId reason till =>
    refine ⟨shown.moveTaskOrUndo taskId _ ?_, trivial⟩
    intro task moved done
    unfold Task.defer Task.move at done
    split at done
    next allowed =>
      cases done
      exact ⟨rfl, completed_stays task .deferred allowed (by decide)⟩
    next => cases done
  | save => exact ⟨shown.save, trivial⟩
  | goal part => exact ⟨shown.goalPart host now part spared, trivial⟩
  | _ => cases goes

end Accesses

/-- A call that, in a process that shows `known` finished, takes none of it back. -/
def Steady (known : List TaskId) (program : Program DistributedTaskLock) : Prop :=
  ∃ agentId owned, Sound agentId owned (some known) program

structure Consistent (fleet : Fleet) : Prop where
  copies : ∀ process ledger, fleet.memory process = some ledger →
    Finished (fleet.knows process) ledger.tasks
  steady : ∀ process, ∀ call ∈ fleet.running process, Steady (fleet.knows process) call.2
  seen : ∀ process, fleet.knows process ⊆ fleet.submitted
  returned : fleet.acknowledged ⊆ fleet.submitted
  stored : StoredFinished fleet.submitted fleet.backend

theorem ProcessCall.steady (host : Host) (call : ProcessCall) (known : List TaskId) :
    Steady known (call.program host) := by
  cases call with
  | coordinate event passes => exact ⟨event.agent, [], Sound.program host passes event⟩
  | submitGoal objective definitions context goalId =>
    exact ⟨"", [], Sound.submitGoal objective definitions context goalId⟩

section Steps
variable (host : Host) {fleet : Fleet} (consistent : Consistent fleet)

theorem consistent_closed (backend : Backend) (lock : DistributedTaskLock) :
    Consistent (Fleet.closed backend lock) := by
  constructor
  · rintro process ledger ⟨⟩
  · exact fun _ => List.forall_mem_nil _
  · exact fun _ => List.Subset.refl []
  · exact List.Subset.refl []
  · exact List.forall_mem_nil _

include consistent

variable (process : ProcessId) (event : FleetEvent)

theorem opens_consistent (loads : Bool) : Consistent (step host fleet (.opens process loads)) := by
  have opened : Finished (if loads then fleet.submitted else [])
      (openLedger fleet.backend loads).tasks := by
    cases loads with
    | false => exact List.forall_mem_nil _
    -- What is submitted is in the store, and so in the copy.
    | true =>
      intro id member
      obtain ⟨image, task, stored, found, completed⟩ := consistent.stored id member
      refine ⟨task, ?_, completed⟩
      simp only [openLedger, SmartLedger.load, ↓reduceIte, stored]
      exact found
  constructor
  · intro other ledger there
    simp only [step] at there ⊢
    by_cases same : other = process
    · subst same
      rw [Function.update_self, Option.some.injEq] at there
      rw [Function.update_self, ← there]
      exact opened
    · rw [Function.update_of_ne same] at there ⊢
      exact consistent.copies other ledger there
  · intro other call member
    simp only [step] at member ⊢
    by_cases same : other = process
    · subst same
      rw [Function.update_self] at member
      cases member
    · rw [Function.update_of_ne same] at member ⊢
      exact consistent.steady other call member
  · intro other
    simp only [step]
    by_cases same : other = process
    · subst same
      rw [Function.update_self]
      cases loads with
      | false => exact List.nil_subset _
      | true => exact List.Subset.refl _
    · rw [Function.update_of_ne same]
      exact consistent.seen other
  · exact consistent.returned
  · exact consistent.stored

theorem consistent_running {process : ProcessId} {calls : List Call} {acknowledged : List TaskId}
    (steady : ∀ call ∈ calls, Steady (fleet.knows process) call.2)
    (returned : acknowledged ⊆ fleet.submitted) :
    Consistent { fleet with
      running := Function.update fleet.running process calls
      acknowledged := acknowledged } := by
  refine ⟨consistent.copies, fun other call member => ?_, consistent.seen, returned,
    consistent.stored⟩
  dsimp only at member ⊢
  by_cases same : other = process
  · subst same
    rw [Function.update_self] at member
    exact steady call member
  · rw [Function.update_of_ne same] at member
    exact consistent.steady other call member

theorem rest_steady (thread : ThreadId) :
    ∀ call ∈ fleet.rest process thread, Steady (fleet.knows process) call.2 :=
  fun call member => consistent.steady process call (List.mem_of_mem_filter member)

theorem next_found (next : Next) (found : fleet.next event = some next) :
    Finished (fleet.knows next.process) next.c.ledger.tasks ∧
      next.c.ledger.backend = fleet.backend ∧
      Steady (fleet.knows next.process) next.program := by
  cases event with
  | opens | calls | locks => cases found
  | runs process thread now =>
    obtain ⟨ledger, opened, found⟩ := Option.bind_eq_some_iff.mp found
    obtain ⟨call, there, rfl⟩ := Option.map_eq_some_iff.mp found
    exact ⟨consistent.copies process ledger opened, rfl,
      consistent.steady process call (List.mem_of_find?_eq_some there)⟩

-- An access keeps the copy of its process and the stored ledger in step with the submissions.
theorem access_shows (c : Coordinator DistributedTaskLock) (now : Time) (access : Access)
    (finished : Finished (fleet.knows process) c.ledger.tasks)
    (here : c.ledger.backend = fleet.backend) (careful : access.Careful (some (fleet.knows process)))
    (informed : writes access = true → fleet.submitted ⊆ fleet.knows process)
    (spared : spares fleet.submitted c.ledger access = true) :
    ∀ outcome, c.access host now access = outcome →
      Finished (access.written outcome.1 ++ fleet.knows process) outcome.2.ledger.tasks ∧
        StoredFinished (access.written outcome.1 ++ fleet.submitted) outcome.2.ledger.backend ∧
        access.Tells (some (fleet.knows process)) outcome.1 := by
  intro outcome result
  cases goes : writes access with
  -- The copy may change, the store does not.
  | false =>
    obtain ⟨kept, backend, tells, nothing⟩ :=
      quiet_access host c now access finished careful goes outcome result
    rw [nothing, backend, here]
    exact ⟨kept, consistent.stored, tells⟩
  -- The copy has every submission, so writing the whole of it loses none.
  | true =>
    have all := informed goes
    have shown : Shows fleet.submitted c.ledger :=
      ⟨finished.subset all, here ▸ consistent.stored⟩
    have careful' : access.Careful (some fleet.submitted) := by
      cases access with
      | restore => cases goes
      | _ => exact careful
    obtain ⟨after, tells⟩ :=
      writing_access host c now access shown careful' goes spared outcome result
    refine ⟨after.memory.subset ?_, after.stored, ?_⟩
    · exact List.append_subset.mpr ⟨List.subset_append_left _ _,
        List.subset_append_of_subset_right _ (consistent.seen process)⟩
    · cases access with
      | updateTaskStatus taskId update =>
        rintro replied other _ ⟨⟩ known
        exact tells replied other _ rfl (consistent.seen process known)
      | _ => trivial

theorem accessed_consistent (thread : ThreadId) (now : Time) (c : Coordinator DistributedTaskLock)
    (access : Access)
    (next : Bool → Program DistributedTaskLock)
    (finished : Finished (fleet.knows process) c.ledger.tasks)
    (here : c.ledger.backend = fleet.backend)
    (steady : Steady (fleet.knows process) (.access access next))
    (informed : fleet.informed ⟨process, thread, now, c, .access access next⟩ = true) :
    Consistent (fleet.run host ⟨process, thread, now, c, .access access next⟩) := by
  obtain ⟨agentId, owned, _, careful, lawful⟩ := steady
  obtain ⟨all, single, spared⟩ := of_decide_eq_true informed
  have shown := access_shows host consistent process c now access finished here careful all spared
    _ rfl
  simp only [Fleet.run]
  generalize c.access host now access = outcome at shown
  obtain ⟨replied, after⟩ := outcome
  obtain ⟨memory, stored, tells⟩ := shown
  constructor
  · intro other ledger there
    by_cases same : other = process
    · subst same
      simp only [Function.update_self, Option.some.injEq] at there ⊢
      exact there ▸ memory
    · simp only [Function.update_of_ne same] at there ⊢
      exact consistent.copies other ledger there
  · intro other call member
    by_cases same : other = process
    · subst same
      simp only [Function.update_self] at member ⊢
      rcases List.mem_cons.mp member with rfl | left
      · exact ⟨agentId, _, lawful replied tells⟩
      · have unmoved : access.written replied = [] := by
          -- A submission goes in only while the process does nothing else.
          by_contra moved
          have lonely : alone access = true := by
            cases access with
            | updateTaskStatus taskId update =>
              by_contra other
              simp [alone, Access.written] at other moved
              exact other moved.2
            | _ => exact absurd rfl moved
          obtain ⟨earlier, different⟩ := List.mem_filter.mp left
          exact of_decide_eq_true different (single lonely call earlier)
        rw [unmoved]
        exact rest_steady consistent other thread call left
    · simp only [Function.update_of_ne same] at member ⊢
      exact consistent.steady other call member
  · intro other
    by_cases same : other = process
    · subst same
      simp only [Function.update_self]
      exact List.append_subset.mpr ⟨List.subset_append_left _ _,
        List.subset_append_of_subset_right _ (consistent.seen other)⟩
    · simp only [Function.update_of_ne same]
      exact List.subset_append_of_subset_right _ (consistent.seen other)
  · exact List.subset_append_of_subset_right _ consistent.returned
  · exact stored

theorem run_consistent (next : Next) (finished : Finished (fleet.knows next.process) next.c.ledger.tasks)
    (here : next.c.ledger.backend = fleet.backend)
    (steady : Steady (fleet.knows next.process) next.program)
    (informed : fleet.informed next = true) : Consistent (fleet.run host next) := by
  obtain ⟨process, thread, now, c, program⟩ := next
  cases program with
  | done answer =>
    have others := rest_steady consistent process thread
    cases answer with
    -- What is acknowledged now was written earlier.
    | submitted taskId =>
      apply consistent_running consistent others
      obtain ⟨_, _, known⟩ := steady
      exact List.cons_subset.mpr ⟨consistent.seen process (known _ rfl), consistent.returned⟩
    | claimed | ended => exact consistent_running consistent others consistent.returned
  | look next =>
    apply consistent_running consistent _ consistent.returned
    intro call member
    rcases List.mem_cons.mp member with rfl | left
    · obtain ⟨agentId, owned, lawful⟩ := steady
      refine ⟨agentId, owned, lawful c now ?_⟩
      rintro _ ⟨⟩
      exact finished
    · exact rest_steady consistent process thread call left
  | access access next =>
    exact accessed_consistent host consistent process thread now c access next finished here
      steady informed

theorem step_consistent (informed : Informed fleet event) : Consistent (step host fleet event) := by
  cases event with
  | opens process loads => exact opens_consistent host consistent process loads
  | calls process thread call =>
    apply consistent_running consistent _ consistent.returned
    intro other member
    rcases List.mem_cons.mp member with rfl | left
    · exact call.steady host _
    · exact rest_steady consistent process thread other left
  | runs process thread now =>
    cases found : fleet.next (.runs process thread now) with
    | none => simpa only [step, found] using consistent
    | some next =>
      obtain ⟨finished, here, steady⟩ := next_found consistent _ next found
      simp only [Informed, found, Option.all_some] at informed
      simpa only [step, found] using
        run_consistent host consistent next finished here steady informed
  | locks lock =>
    exact ⟨consistent.copies, consistent.steady, consistent.seen, consistent.returned,
      consistent.stored⟩

theorem informed_loses_nothing (informed : Informed fleet event) :
    NothingLost host fleet event := by
  have after := step_consistent host consistent event informed
  refine ⟨?_, fun id member => after.stored id (after.returned member)⟩
  cases found : fleet.next event with
  | none => exact List.forall_mem_nil _
  | some next =>
    obtain ⟨_, _, steady⟩ := next_found consistent event next found
    obtain ⟨process, thread, now, c, program⟩ := next
    simp only [Informed, found, Option.all_some] at informed
    cases program with
    | look | access => exact List.forall_mem_nil _
    | done answer =>
      cases answer with
      | submitted | ended => exact List.forall_mem_nil _
      -- A call claims nothing that its process knows finished.
      | claimed taskIds =>
        intro id member acknowledged
        rcases of_decide_eq_true informed with none | all
        · exact absurd (none ▸ member) List.not_mem_nil
        · obtain ⟨_, _, claimed⟩ := steady
          exact (claimed id member).2 _ rfl (all id (consistent.returned acknowledged))

end Steps

/-- In a run whose writes and hand-outs are informed, nothing that was acknowledged
is lost or run again. -/
theorem nothing_lost_along (host : Host) (backend : Backend) (lock : DistributedTaskLock)
    (run : List FleetEvent)
    (informed : Along (step host) Informed (Fleet.closed backend lock) run) :
    Along (step host) (NothingLost host) (Fleet.closed backend lock) run :=
  along_of_invariant (step host) Consistent Informed (NothingLost host)
    (fun _ event consistent => step_consistent host consistent event)
    (fun _ event consistent => informed_loses_nothing host consistent event) run _
    (consistent_closed backend lock) informed

def oneTask : Fleet :=
  Fleet.closed
    { stored := some ⟨["a"], Table.set (Table.empty Task.taskId)
        (SmartLedger.sampleTask "a" .pending)⟩
      verdict := fun _ => .accepted
      writes := 0 }
    ⟨Table.empty LockEntry.taskId, []⟩

def claims (process : ProcessId) : FleetEvent :=
  .calls process "main" (.coordinate (.claimNextTask process none 0) 2)

def submits (process : ProcessId) : FleetEvent :=
  .calls process "main" (.coordinate (.submitResult process "a" none 0) 0)

def runs (process : ProcessId) (now : Time) (steps : Nat) : List FleetEvent :=
  List.replicate steps (.runs process "main" now)

/-- A process that opens after the submission. -/
theorem late_opener_loses_nothing :
    Along (step SmartLedger.sampleHost) (NothingLost SmartLedger.sampleHost) oneTask
      ([.opens "left" true, claims "left"] ++ runs "left" 0 11 ++ [submits "left"] ++
        runs "left" 1 3 ++ [.opens "right" true, claims "right"] ++ runs "right" 2 6) :=
  nothing_lost_along SmartLedger.sampleHost _ _ _ (by decide)

/-- A process that opened before the submission is handed the finished task, and
its save takes the acknowledged result off the disk. -/
theorem early_opener_runs_task_again :
    let fleet := final (step SmartLedger.sampleHost) oneTask
      ([.opens "left" true, .opens "right" true, claims "left"] ++ runs "left" 0 11 ++
        [submits "left"] ++ runs "left" 1 3 ++ [claims "right"] ++ runs "right" 2 10)
    let event : FleetEvent := .runs "right" "main" 2
    fleet.acknowledged = ["a"] ∧ handed (fleet.next event) = ["a"] ∧
      ((fleet.backend.stored.bind fun image => image.tasks.get? "a").map Task.status) =
        some .inProgress ∧
      ¬ NothingLost SmartLedger.sampleHost fleet event := by
  intro fleet event
  have acknowledged : fleet.acknowledged = ["a"] := by decide
  have again : handed (fleet.next event) = ["a"] := by decide
  refine ⟨acknowledged, again, by decide, ?_⟩
  intro law
  exact law.once "a" (by simp [again]) (by simp [acknowledged])

end Hartos.SharedLedger
