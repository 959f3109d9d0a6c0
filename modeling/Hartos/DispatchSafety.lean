import Hartos.CoordinatorEvents
import Hartos.ParallelDispatch

/-!
Which tasks a dispatch may start. The loop hands a task to `dispatch_fn` whether
or not the ledger took the move to IN_PROGRESS, so a start is in order exactly
when what the selectors name is PENDING and waits for nothing, and the backend
takes the write.
-/
namespace Hartos.ParallelDispatch
open SmartLedger TaskStatus KeyedTable

def PrerequisitesCompleted (ledger : SmartLedger) (task : Task) : Prop :=
  ∀ id ∈ task.prerequisites, ∃ found, ledger.getTask id = some found ∧ found.status = .completed

def Invocation.FromPending (call : Invocation) : Prop :=
  ∃ old new, call.found.getTask call.taskId = some old ∧
    call.marked.getTask call.taskId = some new ∧ old.status = .pending ∧
    new.status = .inProgress ∧ PrerequisitesCompleted call.found old

structure SafelyInvoked (invoked : List Invocation) : Prop where
  once : (invoked.map Invocation.taskId).Nodup
  fromPending : ∀ call ∈ invoked, call.FromPending

def picked (workers : Nat) (ledger : SmartLedger) : List Task :=
  if ledger.getParallelExecutableTasks.isEmpty then ledger.getNextExecutableTask.toList
  else ledger.getParallelExecutableTasks.take workers

structure Admits (ledger : SmartLedger) (tasks : List Task) : Prop where
  pending : ∀ task ∈ tasks, task.status = .pending
  present : ∀ task ∈ tasks, ∀ id ∈ task.prerequisites, (ledger.getTask id).isSome = true
  accepted : ∀ k < tasks.length, ledger.backend.verdict (ledger.backend.writes + k) = .accepted

structure Offered (ledger : SmartLedger) (tasks : List Task) : Prop where
  unique : (tasks.map Task.taskId).Nodup
  rows : ∀ task ∈ tasks, ledger.getTask task.taskId = some task
  prerequisites : ∀ task ∈ tasks, ledger.allPresent task.prerequisites isCompleted = true

variable (ledger : SmartLedger) (task : Task)

theorem offered_of_sublist (tasks : List Task) (inside : tasks.Sublist ledger.tasks.rows)
    (met : ∀ task ∈ tasks, ledger.allPresent task.prerequisites isCompleted = true) :
    Offered ledger tasks := by
  constructor
  · exact ledger.tasks.unique.sublist (inside.map Task.taskId)
  · intro task member
    exact Table.mem_get? ledger.tasks task (inside.subset member)
  · exact met

theorem getNextExecutableTask_some (next : ledger.getNextExecutableTask = some task) :
    task ∈ ledger.tasks.rows ∧ isCandidate task = true ∧ ledger.passesChecks task = true := by
  have sorted := List.mem_of_find?_eq_some next
  have checked := List.find?_some next
  rw [byPriority, List.mem_insertionSort, List.mem_filter] at sorted
  exact ⟨sorted.1, sorted.2, checked⟩

theorem picked_offered (workers : Nat) (ledger : SmartLedger) :
    Offered ledger (picked workers ledger) := by
  simp only [picked]
  split
  · cases next : ledger.getNextExecutableTask with
    | none => exact offered_of_sublist ledger [] (List.nil_sublist _) (by simp)
    | some task =>
      have chosen := getNextExecutableTask_some ledger task next
      apply offered_of_sublist
      · exact List.singleton_sublist.mpr chosen.1
      · intro other member
        rw [Option.toList_some, List.mem_singleton] at member
        have checks := chosen.2.2
        simp only [passesChecks, Bool.and_eq_true] at checks
        exact member ▸ checks.1.1.2
  · apply offered_of_sublist
    · exact (List.take_sublist _ _).trans List.filter_sublist
    · intro task member
      have ready := (List.mem_filter.mp (List.mem_of_mem_take member)).2
      simp only [isParallelReady, Bool.and_eq_true] at ready
      exact ready.2

theorem prerequisitesCompleted_iff (met : ledger.allPresent task.prerequisites isCompleted = true) :
    PrerequisitesCompleted ledger task ↔
      ∀ id ∈ task.prerequisites, (ledger.getTask id).isSome = true := by
  rw [allPresent, List.all_eq_true] at met
  constructor
  · intro completed id member
    obtain ⟨found, there, _⟩ := completed id member
    simp [there]
  · intro present id member
    obtain ⟨found, there⟩ := Option.isSome_iff_exists.mp (present id member)
    have status := met id member
    simp only [there, isCompleted, decide_eq_true_eq] at status
    exact ⟨found, there, status⟩

structure Marked (ledger : SmartLedger) (taskId : TaskId) (marked : SmartLedger) : Prop where
  verdict : marked.backend.verdict = ledger.backend.verdict
  writes : marked.backend.writes = ledger.backend.writes + 1
  others : ∀ id, id ≠ taskId → marked.getTask id = ledger.getTask id
  named : ∃ new, marked.getTask taskId = some new ∧
    (new.status = .inProgress ↔ ledger.backend.next = .accepted)

theorem mark_pending (host : Host) (ledger : SmartLedger) (task : Task) (now : Time)
    (found : ledger.getTask task.taskId = some task) (pending : task.status = .pending) :
    Marked ledger task.taskId
      (ledger.updateTaskStatus host task.taskId { status := .inProgress } now).2 := by
  have valid : task.validateTransition .inProgress = true := by
    rw [Task.validateTransition, Task.transitionRefusal, pending]
    decide
  have staged := stageStatus_staged host ledger task { status := .inProgress } now found
  have written :
      (stageStatus host ledger task { status := .inProgress } now).1.save.2.backend.verdict =
        ledger.backend.verdict ∧
      (stageStatus host ledger task { status := .inProgress } now).1.save.2.backend.writes =
        ledger.backend.writes + 1 := by
    simp [save, Backend.save, staged.backend]
  by_cases accepted : ledger.backend.next = .accepted
  · rw [updateTaskStatus_done host ledger task _ now found rfl valid accepted]
    constructor
    · exact written.1
    · exact written.2
    · intro id other
      cases before : ledger.getTask id with
      | none => exact staged.getTask_none id before
      | some old =>
        obtain ⟨new, there, row⟩ := staged.getTask_some id old before
        have apart : old.taskId ∉ ledger.snapshotIds host task .inProgress := by
          rw [ledger.getTask_taskId id old before]
          simpa [snapshotIds] using other
        rw [row.outside apart] at there
        exact there
    · obtain ⟨new, there, row⟩ := staged.getTask_some task.taskId task found
      exact ⟨new, there, fun _ => accepted, fun _ => row.set.named rfl⟩
  · rw [updateTaskStatus_undone host ledger task _ now found rfl valid accepted]
    constructor
    · exact written.1
    · exact written.2
    · exact fun _ _ => rfl
    · refine ⟨task, found, ?_⟩
      simp [pending, accepted]

variable {ledger marked : SmartLedger} {task : Task} {rest : List Task}

section

variable (mark : Marked ledger task.taskId marked)
include mark

theorem Marked.isSome (found : ledger.getTask task.taskId = some task) (id : TaskId) :
    (marked.getTask id).isSome = (ledger.getTask id).isSome := by
  by_cases same : id = task.taskId
  · obtain ⟨new, there, _⟩ := mark.named
    rw [same, there, found]
    rfl
  · rw [mark.others id same]

-- A task that is not completed is nobody's completed prerequisite.
theorem Marked.offered (pending : task.status = .pending)
    (offered : Offered ledger (task :: rest)) :
    Offered marked rest := by
  have found := offered.rows task List.mem_cons_self
  have distinct := List.nodup_cons.mp offered.unique
  constructor
  · exact distinct.2
  · intro other member
    have apart : other.taskId ≠ task.taskId := by
      intro same
      exact distinct.1 (same ▸ List.mem_map_of_mem member)
    rw [mark.others other.taskId apart]
    exact offered.rows other (List.mem_cons_of_mem task member)
  · intro other member
    have met := offered.prerequisites other (List.mem_cons_of_mem task member)
    simp only [allPresent, List.all_eq_true] at met ⊢
    intro id listed
    have before := met id listed
    by_cases same : id = task.taskId
    · rw [same, found] at before
      simp [isCompleted, pending] at before
    · rw [mark.others id same]
      exact before

theorem admits_cons_iff (found : ledger.getTask task.taskId = some task)
    (pending : task.status = .pending) :
    Admits ledger (task :: rest) ↔
      ((∀ id ∈ task.prerequisites, (ledger.getTask id).isSome = true) ∧
        ledger.backend.next = .accepted) ∧ Admits marked rest := by
  constructor
  · intro admits
    refine ⟨⟨admits.present task List.mem_cons_self, ?_⟩, ?_, ?_, ?_⟩
    · exact admits.accepted 0 (Nat.zero_lt_succ _)
    · exact fun other member => admits.pending other (List.mem_cons_of_mem task member)
    · intro other member id listed
      rw [mark.isSome found]
      exact admits.present other (List.mem_cons_of_mem task member) id listed
    · intro k below
      have later := admits.accepted (k + 1) (Nat.succ_lt_succ below)
      rw [mark.verdict, mark.writes, Nat.add_assoc, Nat.add_comm 1 k]
      exact later
  · rintro ⟨⟨present, accepted⟩, others⟩
    constructor
    · intro other member
      rcases List.mem_cons.mp member with same | later
      · exact same ▸ pending
      · exact others.pending other later
    · intro other member id listed
      rcases List.mem_cons.mp member with same | later
      · subst same
        exact present id listed
      · rw [← mark.isSome found]
        exact others.present other later id listed
    · intro k below
      cases k with
      | zero => exact accepted
      | succ k =>
        have later := others.accepted k (Nat.lt_of_succ_lt_succ below)
        rw [mark.verdict, mark.writes, Nat.add_assoc, Nat.add_comm 1 k] at later
        exact later

end

variable (host : Host) (now : Time) (dispatcher : Dispatcher) (state : DispatchLoop) (round : Nat)
  (tasks : List Task)

/-- The calls of a batch are in order exactly when the ledger admits the batch. -/
theorem launch_safe_iff (ledger : SmartLedger) (offered : Offered ledger tasks) :
    (∀ call ∈ (launch host now tasks ledger).2, call.FromPending) ↔ Admits ledger tasks := by
  induction tasks generalizing ledger with
  | nil =>
    constructor
    · intro _
      exact ⟨by simp, by simp, by simp⟩
    · intro _ call member
      cases member
  | cons task rest ih =>
    have found := offered.rows task List.mem_cons_self
    have met := offered.prerequisites task List.mem_cons_self
    simp only [launch, List.forall_mem_cons]
    by_cases pending : task.status = .pending
    · have mark := mark_pending host ledger task now found pending
      rw [ih _ (mark.offered pending offered), admits_cons_iff mark found pending]
      apply and_congr_left'
      -- The first call, on its own.
      rw [← prerequisitesCompleted_iff ledger task met]
      obtain ⟨new, there, decided⟩ := mark.named
      constructor
      · rintro ⟨old, moved, found', there', _, running, completed⟩
        cases found.symm.trans found'
        cases there.symm.trans there'
        exact ⟨completed, decided.mp running⟩
      · rintro ⟨completed, accepted⟩
        exact ⟨task, new, found, there, pending, decided.mpr accepted, completed⟩
    · constructor
      · rintro ⟨⟨old, _, found', _, wasPending, _⟩, _⟩
        cases found.symm.trans found'
        exact absurd wasPending pending
      · intro admits
        exact absurd (admits.pending task List.mem_cons_self) pending

theorem launch_ids (ledger : SmartLedger) :
    (launch host now tasks ledger).2.map Invocation.taskId = tasks.map Task.taskId := by
  induction tasks generalizing ledger with
  | nil => rfl
  | cons task rest ih =>
    simp only [launch, List.map_cons]
    rw [ih]

theorem launch_marks (ledger : SmartLedger) (offered : Offered ledger tasks)
    (admits : Admits ledger tasks) (id : TaskId) :
    (id ∉ tasks.map Task.taskId →
      (launch host now tasks ledger).1.getTask id = ledger.getTask id) ∧
    (id ∈ tasks.map Task.taskId → ∃ new, (launch host now tasks ledger).1.getTask id = some new ∧
      new.status = .inProgress) := by
  induction tasks generalizing ledger with
  | nil => exact ⟨fun _ => rfl, fun member => (List.not_mem_nil member).elim⟩
  | cons task rest ih =>
    have found := offered.rows task List.mem_cons_self
    have pending := admits.pending task List.mem_cons_self
    have mark := mark_pending host ledger task now found pending
    have split := (admits_cons_iff mark found pending).mp admits
    have later := ih _ (mark.offered pending offered) split.2
    simp only [launch, List.map_cons, List.mem_cons, not_or]
    constructor
    · rintro ⟨apart, outside⟩
      exact (later.1 outside).trans (mark.others id apart)
    · rintro (same | inside)
      · obtain ⟨new, there, decided⟩ := mark.named
        have outside := (List.nodup_cons.mp offered.unique).1
        subst same
        exact ⟨new, (later.1 outside).trans there, decided.mpr split.1.2⟩
      · exact later.2 inside

def NotReturned (old new : Task) : Prop := new.status = .pending → old.status = .pending

theorem update_keeps_started (ledger : SmartLedger) (taskId : TaskId) (update : StatusUpdate)
    (now : Time) (durable : update.deferSave = false) (onward : update.status ≠ .pending) :
    Table.Evolves NotReturned ledger.tasks
      (ledger.updateTaskStatus host taskId update now).2.tasks := by
  apply (updateTaskStatus_rows host ledger taskId update now durable).mono
  rintro old new (same | set) pending
  · exact same ▸ pending
  · by_cases named : old.taskId = taskId
    · exact absurd ((set.named named).symm.trans pending) onward
    · rcases (set.others named).status with kept | ⟨_, resumed⟩
      · exact kept ▸ pending
      · rw [resumed] at pending
        cases pending

theorem settle_keeps_started (ledger : SmartLedger) (taskId : TaskId) (answer : Answer) (now : Time)
    (ran : answer.outcome ≠ .deferred) :
    Table.Evolves NotReturned ledger.tasks (settle host ledger taskId answer now).tasks := by
  cases answer with
  | raised error => exact update_keeps_started host ledger taskId _ now rfl (by simp)
  | returned result =>
    have notHeld : isDeferred result = false := by
      by_contra held
      exact ran (if_pos (Bool.eq_true_of_not_eq_false held))
    simp only [settle, notHeld, Bool.false_eq_true, ↓reduceIte]
    split
    · exact update_keeps_started host ledger taskId _ now rfl (by simp)
    · exact update_keeps_started host ledger taskId _ now rfl (by simp)

theorem settleAll_keeps_started (ledger : SmartLedger)
    (ran : ∀ task ∈ tasks, (dispatcher.answer round task.taskId).outcome ≠ .deferred) :
    Table.Evolves NotReturned ledger.tasks (settleAll dispatcher round tasks ledger).tasks := by
  induction tasks generalizing ledger with
  | nil => exact Table.Evolves.refl (fun _ pending => pending) ledger.tasks
  | cons task rest ih =>
    have first := settle_keeps_started dispatcher.host ledger task.taskId
      (dispatcher.answer round task.taskId) (dispatcher.clock round) (ran task List.mem_cons_self)
    have later := ih (settle dispatcher.host ledger task.taskId
      (dispatcher.answer round task.taskId) (dispatcher.clock round))
      (fun other member => ran other (List.mem_cons_of_mem task member))
    exact first.trans (fun _ _ _ one two pending => one (two pending)) later

theorem reportAll_deferred :
    (reportAll dispatcher round tasks).deferred = 0 ↔
      ∀ task ∈ tasks, (dispatcher.answer round task.taskId).outcome ≠ .deferred := by
  have counted (report : Report) :
      (tasks.foldl (fun report task =>
        report.add task.taskId (dispatcher.answer round task.taskId)) report).deferred = 0 ↔
      report.deferred = 0 ∧
        ∀ task ∈ tasks, (dispatcher.answer round task.taskId).outcome ≠ .deferred := by
    induction tasks generalizing report with
    | nil => simp
    | cons task rest ih =>
      rw [List.foldl_cons, ih, List.forall_mem_cons, ← and_assoc]
      simp only [Report.add]
      split <;> simp [*]
  rw [reportAll, counted]
  simp [Report.empty]

def RoundAdmits (dispatcher : Dispatcher) (state : DispatchLoop) : Prop :=
  state.running = true → Admits state.ledger (picked dispatcher.workers state.ledger)

structure RoundMade (dispatcher : Dispatcher) (round : Nat) (state after : DispatchLoop) :
    Prop where
  invoked : after.invoked = state.invoked ++
    (launch dispatcher.host (dispatcher.clock round) (picked dispatcher.workers state.ledger)
      state.ledger).2
  settled : after.running = true → ∃ finished : List Task,
    finished.Perm (picked dispatcher.workers state.ledger) ∧
    (∀ task ∈ finished, (dispatcher.answer round task.taskId).outcome ≠ .deferred) ∧
    after.ledger.tasks = (settleAll dispatcher round finished
      (launch dispatcher.host (dispatcher.clock round) (picked dispatcher.workers state.ledger)
        state.ledger).1).tasks

theorem dispatchRound_made (running : state.running = true) :
    RoundMade dispatcher round state (dispatchRound dispatcher state round) := by
  simp only [dispatchRound, running, ↓reduceIte]
  by_cases none : state.ledger.getParallelExecutableTasks.isEmpty = true
  · simp only [none, ↓reduceIte]
    cases next : state.ledger.getNextExecutableTask with
    | none =>
      have nothing : picked dispatcher.workers state.ledger = [] := by
        simp [picked, none, next]
      constructor
      · simp [nothing, launch]
      · intro goes
        cases goes
    | some task =>
      have one : picked dispatcher.workers state.ledger = [task] := by
        simp [picked, none, next]
      constructor
      · simp only [DispatchLoop.join, dispatchNextTask, one]
      · intro goes
        refine ⟨[task], by rw [one], ?_, ?_⟩
        · apply (reportAll_deferred dispatcher round [task]).mp
          exact of_decide_eq_true goes
        · simp only [DispatchLoop.join, dispatchNextTask, one]
  · have batch : picked dispatcher.workers state.ledger =
        state.ledger.getParallelExecutableTasks.take dispatcher.workers := by
      simp [picked, none]
    constructor
    · simp [DispatchLoop.join, dispatchParallelTasks, none, batch]
    · intro goes
      refine ⟨dispatcher.finishOrder round (picked dispatcher.workers state.ledger),
        dispatcher.finishes round _, ?_, ?_⟩
      · apply (reportAll_deferred dispatcher round _).mp
        simpa [DispatchLoop.join, dispatchParallelTasks, none, batch] using goes
      · simp [DispatchLoop.join, dispatchParallelTasks, none, batch, save]

theorem dispatchRound_invoked :
    (∀ call ∈ (dispatchRound dispatcher state round).invoked, call.FromPending) ↔
      (∀ call ∈ state.invoked, call.FromPending) ∧ RoundAdmits dispatcher state := by
  by_cases running : state.running = true
  · have made := dispatchRound_made dispatcher state round running
    rw [made.invoked, List.forall_mem_append, RoundAdmits, forall_prop_of_true running]
    apply and_congr_right'
    exact launch_safe_iff dispatcher.host (dispatcher.clock round) _ state.ledger
      (picked_offered dispatcher.workers state.ledger)
  · simp [dispatchRound, RoundAdmits, running]

/-- Every call was in order exactly when every round found an admitted pick. -/
theorem calls_fromPending_iff (rounds : List Nat) (state : DispatchLoop) :
    (∀ call ∈ (StepSystem.final (dispatchRound dispatcher) state rounds).invoked,
        call.FromPending) ↔
      (∀ call ∈ state.invoked, call.FromPending) ∧
        StepSystem.Along (dispatchRound dispatcher) (fun found _ => RoundAdmits dispatcher found)
          state rounds := by
  induction rounds generalizing state with
  | nil => simp [StepSystem.final, StepSystem.Along]
  | cons round rest ih =>
    rw [StepSystem.final, ih, dispatchRound_invoked, and_assoc]
    rfl

theorem goal_invoked (ledger : SmartLedger) :
    (dispatchGoalWithLedger dispatcher ledger).invoked =
      (StepSystem.final (dispatchRound dispatcher) (DispatchLoop.begin ledger)
        (List.range maxIterations)).invoked := by
  simp only [dispatchGoalWithLedger, dispatchLoop]

theorem goal_fromPending_iff (ledger : SmartLedger) :
    (∀ call ∈ (dispatchGoalWithLedger dispatcher ledger).invoked, call.FromPending) ↔
      StepSystem.Along (dispatchRound dispatcher) (fun found _ => RoundAdmits dispatcher found)
        (DispatchLoop.begin ledger) (List.range maxIterations) := by
  rw [goal_invoked, calls_fromPending_iff]
  apply and_iff_right
  intro call none
  cases none

structure CalledOnce (state : DispatchLoop) : Prop where
  once : (state.invoked.map Invocation.taskId).Nodup
  past : state.running = true → ∀ id ∈ state.invoked.map Invocation.taskId, ∀ task,
    state.ledger.getTask id = some task → task.status ≠ .pending

-- The step lemma: a round on an admitted pick calls only what is new.
theorem dispatchRound_calledOnce (before : CalledOnce state)
    (admits : RoundAdmits dispatcher state) :
    CalledOnce (dispatchRound dispatcher state round) := by
  by_cases running : state.running = true
  · have made := dispatchRound_made dispatcher state round running
    have offered := picked_offered dispatcher.workers state.ledger
    have batch := admits running
    have ids : (dispatchRound dispatcher state round).invoked.map Invocation.taskId =
        state.invoked.map Invocation.taskId ++
          (picked dispatcher.workers state.ledger).map Task.taskId := by
      rw [made.invoked, List.map_append, launch_ids]
    constructor
    · rw [ids, List.nodup_append]
      refine ⟨before.once, offered.unique, ?_⟩
      rintro id called _ new rfl
      obtain ⟨task, member, rfl⟩ := List.mem_map.mp new
      exact before.past running _ called task (offered.rows task member) (batch.pending task member)
    · intro goes id called task there pending
      obtain ⟨finished, order, ran, tables⟩ := made.settled goes
      have kept := settleAll_keeps_started dispatcher round finished
        (launch dispatcher.host (dispatcher.clock round) (picked dispatcher.workers state.ledger)
          state.ledger).1 ran
      rw [← tables] at kept
      -- Whatever is PENDING now was PENDING once the batch was marked.
      obtain ⟨old, found, returned⟩ := kept.get?_origin id task there
      have marks := launch_marks dispatcher.host (dispatcher.clock round) _ state.ledger offered
        batch id
      by_cases new : id ∈ (picked dispatcher.workers state.ledger).map Task.taskId
      · obtain ⟨marked, there', running'⟩ := marks.2 new
        cases there'.symm.trans found
        rw [returned pending] at running'
        cases running'
      · rw [ids, List.mem_append, or_iff_left new] at called
        exact before.past running id called old ((marks.1 new).symm.trans found) (returned pending)
  · simpa [dispatchRound, running] using before

/-- A call of `dispatch_goal_with_ledger` runs each task once at most, and only
tasks it has just moved from PENDING to IN_PROGRESS with their prerequisites
completed, exactly when each round finds its pick admitted. -/
theorem dispatched_safely_iff (dispatcher : Dispatcher) (ledger : SmartLedger) :
    SafelyInvoked (dispatchGoalWithLedger dispatcher ledger).invoked ↔
      StepSystem.Along (dispatchRound dispatcher) (fun state _ => RoundAdmits dispatcher state)
        (DispatchLoop.begin ledger) (List.range maxIterations) := by
  have calls := goal_fromPending_iff dispatcher ledger
  constructor
  · intro safe
    exact calls.mp safe.fromPending
  · intro admitted
    have begun : CalledOnce (DispatchLoop.begin ledger) :=
      ⟨List.nodup_nil, fun _ _ none => (List.not_mem_nil none).elim⟩
    have ends := StepSystem.final_of_invariant (dispatchRound dispatcher) CalledOnce
      (fun state _ => RoundAdmits dispatcher state)
      (fun state round before admits => dispatchRound_calledOnce dispatcher state round before admits)
      (List.range maxIterations) (DispatchLoop.begin ledger) begun admitted
    constructor
    · rw [goal_invoked]
      exact ends.once
    · exact calls.mpr admitted

def sampleDispatcher : Dispatcher where
  host := sampleHost
  answer := fun _ _ => .returned [("success", .bool true)]
  clock := fun round => round
  finishOrder := fun _ batch => batch
  finishes := fun _ _ => List.Perm.refl _
  workers := 8
  some_worker := by decide

/-- A task its user stopped is dispatched all the same. -/
theorem stopped_task_dispatched :
    ¬ SafelyInvoked (dispatchGoalWithLedger sampleDispatcher
      (sampleLedger [sampleTask "a" .userStopped] .accepted)).invoked := by
  intro safe
  have rounds := (goal_fromPending_iff _ _).mp safe.fromPending
  have pending := (rounds.1 rfl).pending (sampleTask "a" .userStopped) (by decide)
  cases pending

end Hartos.ParallelDispatch
