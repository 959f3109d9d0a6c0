import Hartos.DispatchSchedule

/-!
How far a dispatch gets when nothing goes wrong: every answer a success, every
save accepted, no task begun. Each round completes one wave of the schedule of
the ledger it started with, so the schedule says what is left after the last.
-/
namespace Hartos.SmartLedger

-- No update changes how the backend is going to answer.
theorem updateTaskStatus_verdict (host : Host) (ledger : SmartLedger) (taskId : TaskId)
    (update : StatusUpdate) (now : Time) :
    (ledger.updateTaskStatus host taskId update now).2.backend.verdict = ledger.backend.verdict := by
  have written (task : Task) (found : ledger.getTask taskId = some task) :
      (stageStatus host ledger task update now).1.backend.verdict = ledger.backend.verdict ∧
        (stageStatus host ledger task update now).1.save.2.backend.verdict =
          ledger.backend.verdict := by
    have staged := stageStatus_staged host ledger task update now
      (ledger.getTask_self taskId task found)
    simp [save, Backend.save, staged.backend]
  cases updateTaskStatus_cases host ledger taskId update now with
  | unchanged ends => rw [ends]
  | deferred task found _ _ ends =>
    rw [ends]
    exact (written task found).1
  | done task found _ _ _ ends =>
    rw [ends]
    split
    · rw [(emitCompletionEvents_keeps _ taskId _ now).2]
      exact (written task found).2
    · exact (written task found).2
  | undone task found _ _ _ ends =>
    rw [ends]
    exact (written task found).2

end Hartos.SmartLedger

namespace Hartos.ParallelDispatch
open SmartLedger TaskStatus KeyedTable

structure Working (finished running : List TaskId) (old new : Task) : Prop where
  frame : statusFrame new = statusFrame old
  waiting : old.status = .pending
  status : new.status = if old.taskId ∈ finished then .completed
    else if old.taskId ∈ running then .inProgress else .pending
  blockers : KeepsBlockers (· ∈ finished) old new

structure Stands (start : SmartLedger) (finished running : List TaskId) (current : SmartLedger) :
    Prop where
  rows : Table.Evolves (Working finished running) start.tasks current.tasks
  backend : current.backend.verdict = start.backend.verdict

section Working
variable {start current : SmartLedger} {finished running finished' running' : List TaskId}

section

variable (stands : Stands start finished running current)
include stands

theorem Stands.congr (done : ∀ id, id ∈ finished' ↔ id ∈ finished)
    (begun : ∀ id, id ∉ finished → (id ∈ running' ↔ id ∈ running)) :
    Stands start finished' running' current := by
  refine ⟨stands.rows.mono ?_, stands.backend⟩
  intro old new row
  constructor
  · exact row.frame
  · exact row.waiting
  · rw [row.status]
    by_cases ended : old.taskId ∈ finished
    · simp [ended, done]
    · simp [ended, done, begun old.taskId ended]
  · intro id open'
    exact row.blockers id (mt (done id).mpr open')

theorem Stands.moved (accepts : ∀ n, start.backend.verdict n = .accepted) (host : Host)
    (update : StatusUpdate) (now : Time) (task : Task)
    (found : current.getTask task.taskId = some task) (durable : update.deferSave = false)
    (valid : task.validateTransition update.status = true)
    (named : update.status = if task.taskId ∈ finished' then .completed
      else if task.taskId ∈ running' then .inProgress else .pending)
    (others : ∀ id, id ≠ task.taskId →
      (id ∈ finished' ↔ id ∈ finished) ∧ (id ∈ running' ↔ id ∈ running))
    (grown : ∀ id, id ∉ finished' → id ∉ finished ∧ ¬ lostBlocker update.status task.taskId id) :
    Stands start finished' running'
      (current.updateTaskStatus host task.taskId update now).2 := by
  have accepted : current.backend.next = .accepted := by
    rw [Backend.next, stands.backend]
    exact accepts _
  have moves := updateTaskStatus_moves host current task update now found durable valid accepted
  constructor
  · apply stands.rows.trans _ moves
    intro a b c row move
    have sameId : b.taskId = a.taskId := (congrArg Task.taskId row.frame :)
    constructor
    · exact move.1.frame.trans row.frame
    · exact row.waiting
    · by_cases here : a.taskId = task.taskId
      · rw [move.1.named (sameId.trans here), named, here]
      · have other := others a.taskId here
        have kept : c.status = b.status := by
          rcases (move.1.others (sameId ▸ here)).status with same | ⟨blocked, _⟩
          · exact same
          -- Nothing in this ledger is BLOCKED.
          · rw [row.status] at blocked
            split at blocked
            · cases blocked
            · split at blocked <;> cases blocked
        rw [kept, row.status]
        simp only [other]
    · intro id open'
      have before := grown id open'
      exact (move.2 id before.2).trans (row.blockers id before.1)
  · rw [updateTaskStatus_verdict, stands.backend]

theorem Stands.found (id : TaskId) (present : id ∈ start.tasks.keys) :
    ∃ task, current.getTask id = some task ∧ task.taskId = id ∧
      task.status = if id ∈ finished then .completed
        else if id ∈ running then .inProgress else .pending := by
  obtain ⟨old, before⟩ := (Table.mem_keys start.tasks id).mp present
  obtain ⟨new, there, row⟩ := stands.rows.get?_some id old before
  have named := start.getTask_taskId id old before
  refine ⟨new, there, current.getTask_taskId id new there, ?_⟩
  rw [row.status, named]

theorem Stands.mark (accepts : ∀ n, start.backend.verdict n = .accepted) (host : Host) (now : Time)
    (id : TaskId) (present : id ∈ start.tasks.keys) (fresh : id ∉ finished) (idle : id ∉ running) :
    Stands start finished (id :: running)
      (current.updateTaskStatus host id { status := .inProgress } now).2 := by
  obtain ⟨task, found, rfl, status⟩ := stands.found id present
  rw [if_neg fresh, if_neg idle] at status
  apply stands.moved accepts host { status := .inProgress } now task found rfl
  · rw [Task.validateTransition, Task.transitionRefusal, status]
    decide
  · rw [if_neg fresh, if_pos List.mem_cons_self]
  · intro other apart
    simp [apart]
  · intro other open'
    exact ⟨open', fun lost => by cases lost.1⟩

theorem Stands.complete (accepts : ∀ n, start.backend.verdict n = .accepted) (host : Host)
    (result : Option Value) (now : Time) (id : TaskId) (present : id ∈ start.tasks.keys)
    (fresh : id ∉ finished) (begun : id ∈ running) :
    Stands start (id :: finished) running
      (current.updateTaskStatus host id { status := .completed, result := result } now).2 := by
  obtain ⟨task, found, rfl, status⟩ := stands.found id present
  rw [if_neg fresh, if_pos begun] at status
  apply stands.moved accepts host { status := .completed, result := result } now task found rfl
  · rw [Task.validateTransition, Task.transitionRefusal, status]
    rfl
  · rw [if_pos List.mem_cons_self]
  · intro other apart
    simp [apart]
  · intro other open'
    rw [List.mem_cons, not_or] at open'
    exact ⟨open'.2, fun lost => open'.1 lost.2⟩

end

theorem Stands.launched (host : Host) (now : Time) (tasks : List Task)
    (accepts : ∀ n, start.backend.verdict n = .accepted)
    (stands : Stands start finished running current)
    (unique : (tasks.map Task.taskId).Nodup)
    (present : ∀ id ∈ tasks.map Task.taskId, id ∈ start.tasks.keys)
    (fresh : ∀ id ∈ tasks.map Task.taskId, id ∉ finished ∧ id ∉ running) :
    Stands start finished (tasks.map Task.taskId ++ running)
      (launch host now tasks current).1 := by
  induction tasks generalizing current running with
  | nil => exact stands
  | cons task rest ih =>
    have distinct := List.nodup_cons.mp unique
    have first := fresh task.taskId List.mem_cons_self
    have marked := stands.mark accepts host now task.taskId
      (present task.taskId List.mem_cons_self) first.1 first.2
    have later := ih marked distinct.2
      (fun id member => present id (List.mem_cons_of_mem _ member)) (fun id member => by
        have old := fresh id (List.mem_cons_of_mem _ member)
        refine ⟨old.1, ?_⟩
        rw [List.mem_cons, not_or]
        exact ⟨fun same => distinct.1 (same ▸ member), old.2⟩)
    apply later.congr (fun _ => Iff.rfl)
    intro id _
    simp only [List.map_cons, List.cons_append, List.mem_cons, List.mem_append]
    exact or_left_comm

theorem settle_success (host : Host) (ledger : SmartLedger) (taskId : TaskId) (answer : Answer)
    (now : Time) (success : answer.outcome = .completed) :
    ∃ result, settle host ledger taskId answer now =
      (ledger.updateTaskStatus host taskId { status := .completed, result := result } now).2 := by
  cases answer with
  | raised error => cases success
  | returned result =>
    simp only [Answer.outcome] at success
    split at success
    · cases success
    next ran =>
      split at success
      next well =>
        refine ⟨some (.dict result), ?_⟩
        simp only [settle, ran, well, ↓reduceIte]
        rfl
      next => cases success

theorem Stands.settled (dispatcher : Dispatcher) (round : Nat) (tasks : List Task)
    (accepts : ∀ n, start.backend.verdict n = .accepted)
    (succeeds : ∀ round taskId, (dispatcher.answer round taskId).outcome = .completed)
    (stands : Stands start finished running current)
    (unique : (tasks.map Task.taskId).Nodup)
    (present : ∀ id ∈ tasks.map Task.taskId, id ∈ start.tasks.keys)
    (begun : ∀ id ∈ tasks.map Task.taskId, id ∉ finished ∧ id ∈ running) :
    Stands start (tasks.map Task.taskId ++ finished) running
      (settleAll dispatcher round tasks current) := by
  induction tasks generalizing current finished with
  | nil => exact stands
  | cons task rest ih =>
    have distinct := List.nodup_cons.mp unique
    have first := begun task.taskId List.mem_cons_self
    obtain ⟨result, settled⟩ := settle_success dispatcher.host current task.taskId
      (dispatcher.answer round task.taskId) (dispatcher.clock round) (succeeds round task.taskId)
    have done := stands.complete accepts dispatcher.host result (dispatcher.clock round)
      task.taskId (present task.taskId List.mem_cons_self) first.1 first.2
    have later := ih done distinct.2
      (fun id member => present id (List.mem_cons_of_mem _ member)) (fun id member => by
        have old := begun id (List.mem_cons_of_mem _ member)
        refine ⟨?_, old.2⟩
        rw [List.mem_cons, not_or]
        exact ⟨fun same => distinct.1 (same ▸ member), old.1⟩)
    rw [← settled] at later
    apply later.congr
    · intro id
      simp only [List.map_cons, List.cons_append, List.mem_cons, List.mem_append]
      exact or_left_comm
    · exact fun _ _ => Iff.rfl

-- With nothing running the selectors name the next wave of the schedule.
theorem Stands.names (workers : Nat) (stands : Stands start finished [] current) :
    (picked workers current).map Task.taskId =
      nextWave workers start finished := by
  have marked : Table.Evolves (fun old new => new = finishedTask finished old) start.tasks
      (withFinished start finished).tasks := by
    simp only [Table.Evolves, withFinished, List.forall₂_map_right_iff, List.forall₂_same]
    intro task _
    exact ⟨(finishedTask_taskId finished task).symm, trivial⟩
  have alike : Table.Evolves (Alike finished) (withFinished start finished).tasks current.tasks := by
    apply (marked.symm (fun _ _ same => same)).trans _ stands.rows
    intro a b c same row
    subst same
    simp only [finishedTask]
    constructor
    · rw [row.frame]
      split <;> rfl
    · rw [row.status]
      split
      · rfl
      · simp [row.waiting]
    · intro id open'
      rw [row.blockers id open']
      split <;> rfl
  apply picked_alike workers alike
  intro id done status found
  simp only [statusOf, Option.map_eq_some_iff] at found
  obtain ⟨task, there, rfl⟩ := found
  obtain ⟨old, before, rfl⟩ := marked.get?_origin id task there
  rw [finishedTask, if_pos (start.getTask_taskId id old before ▸ done)]

end Working

variable (dispatcher : Dispatcher) (workers : Nat) (ledger : SmartLedger)

theorem picked_mem (task : Task) (member : task ∈ picked workers ledger) :
    task ∈ ledger.tasks.rows ∧ isCandidate task = true := by
  simp only [picked] at member
  split at member
  · have chosen := getNextExecutableTask_some ledger task (Option.mem_toList.mp member)
    exact ⟨chosen.1, chosen.2.1⟩
  · have ready := List.mem_filter.mp (List.mem_of_mem_take member)
    refine ⟨ready.1, ?_⟩
    simp only [isParallelReady, Bool.and_eq_true, decide_eq_true_eq] at ready
    simp [isCandidate, ready.2.1.1.1, isTerminalState]

theorem nextWave_proper : Waves.Proper ledger.tasks.keys (nextWave workers ledger) := by
  constructor
  · intro finished
    exact (picked_offered workers (withFinished ledger finished)).unique
  · intro finished id member
    obtain ⟨task, chosen, rfl⟩ := List.mem_map.mp member
    have waiting := picked_mem workers _ task chosen
    obtain ⟨old, row, rfl⟩ := List.mem_map.mp waiting.1
    rw [finishedTask_taskId]
    refine ⟨List.mem_map_of_mem row, ?_⟩
    intro done
    have open' := waiting.2
    rw [finishedTask, if_pos done] at open'
    cases open'

section Rounds
variable {dispatcher : Dispatcher} {start : SmartLedger} {state : DispatchLoop}
variable {finished : List TaskId}

-- The loop stops by itself where the selectors name nothing.
theorem dispatchRound_stops (round : Nat) (running : state.running = true)
    (succeeds : ∀ round taskId, (dispatcher.answer round taskId).outcome = .completed)
    (stops : (dispatchRound dispatcher state round).running = false) :
    picked dispatcher.workers state.ledger = [] ∧
      (dispatchRound dispatcher state round).ledger = state.ledger := by
  have none (tasks : List Task) : (reportAll dispatcher round tasks).deferred = 0 := by
    rw [reportAll_deferred]
    intro task _
    rw [succeeds]
    decide
  simp only [dispatchRound, running, ↓reduceIte] at stops ⊢
  by_cases idle : state.ledger.getParallelExecutableTasks.isEmpty = true
  · simp only [idle, ↓reduceIte] at stops ⊢
    cases next : state.ledger.getNextExecutableTask with
    | none => exact ⟨by simp [picked, idle, next], rfl⟩
    | some task =>
      simp only [next, DispatchLoop.join, dispatchNextTask, none, decide_true] at stops
      cases stops
  · simp only [idle, Bool.false_eq_true, ↓reduceIte, DispatchLoop.join, dispatchParallelTasks, none,
      decide_true] at stops
    cases stops

theorem dispatchRound_verdict (dispatcher : Dispatcher) (state : DispatchLoop) (round : Nat)
    (succeeds : ∀ round taskId, (dispatcher.answer round taskId).outcome = .completed) :
    (dispatchRound dispatcher state round).ledger.backend.verdict =
      state.ledger.backend.verdict := by
  have launched (tasks : List Task) (ledger : SmartLedger) :
      (launch dispatcher.host (dispatcher.clock round) tasks ledger).1.backend.verdict =
        ledger.backend.verdict := by
    induction tasks generalizing ledger with
    | nil => rfl
    | cons task rest ih => exact (ih _).trans (updateTaskStatus_verdict _ _ _ _ _)
  have settled (tasks : List Task) (ledger : SmartLedger) :
      (settleAll dispatcher round tasks ledger).backend.verdict = ledger.backend.verdict := by
    induction tasks generalizing ledger with
    | nil => rfl
    | cons task rest ih =>
      obtain ⟨result, settled⟩ := settle_success dispatcher.host ledger task.taskId
        (dispatcher.answer round task.taskId) (dispatcher.clock round)
        (succeeds round task.taskId)
      refine (ih _).trans ((congrArg (·.backend.verdict) settled).trans ?_)
      exact updateTaskStatus_verdict _ _ _ _ _
  simp only [dispatchRound]
  split
  · split
    · split
      · rfl
      · exact (settled _ _).trans (launched _ _)
    next some =>
      simp only [DispatchLoop.join, dispatchParallelTasks, some]
      exact (settled _ _).trans (launched _ _)
  · rfl

-- The step lemma: a round of the loop is a wave of the schedule.
theorem Stands.round (round : Nat) (accepts : ∀ n, start.backend.verdict n = .accepted)
    (succeeds : ∀ round taskId, (dispatcher.answer round taskId).outcome = .completed)
    (running : state.running = true) (stands : Stands start finished [] state.ledger) :
    Stands start (finished ++ nextWave dispatcher.workers start finished) []
        (dispatchRound dispatcher state round).ledger ∧
      ((dispatchRound dispatcher state round).running = false →
        nextWave dispatcher.workers start finished = []) := by
  have names := stands.names dispatcher.workers
  cases goes : (dispatchRound dispatcher state round).running with
  | false =>
    have stopped := dispatchRound_stops round running succeeds goes
    have nothing : nextWave dispatcher.workers start finished = [] := by
      rw [← names, stopped.1]
      rfl
    rw [nothing, List.append_nil, stopped.2]
    exact ⟨stands, fun _ => rfl⟩
  | true =>
    refine ⟨?_, fun stops => by cases stops⟩
    obtain ⟨order, perm, _, tables⟩ :=
      (dispatchRound_made dispatcher state round running).settled goes
    have proper := nextWave_proper dispatcher.workers start
    have unique := proper.unique finished
    have fresh := proper.fresh finished
    rw [← names] at unique fresh ⊢
    have ids : (order.map Task.taskId).Perm
        ((picked dispatcher.workers state.ledger).map Task.taskId) := perm.map Task.taskId
    have launched := stands.launched dispatcher.host (dispatcher.clock round) _ accepts unique
      (fun id member => (fresh id member).1)
      (fun id member => ⟨(fresh id member).2, List.not_mem_nil⟩)
    rw [List.append_nil] at launched
    have settled := launched.settled dispatcher round order accepts succeeds
      (ids.nodup_iff.mpr unique) (fun id member => (fresh id (ids.mem_iff.mp member)).1)
      (fun id member => ⟨(fresh id (ids.mem_iff.mp member)).2, ids.mem_iff.mp member⟩)
    have rows := settled.rows
    rw [← tables] at rows
    have after : Stands start (order.map Task.taskId ++ finished)
        ((picked dispatcher.workers state.ledger).map Task.taskId)
        (dispatchRound dispatcher state round).ledger := by
      refine ⟨rows, ?_⟩
      rw [dispatchRound_verdict dispatcher state round succeeds, stands.backend]
    apply after.congr
    · intro id
      rw [List.mem_append, List.mem_append, ids.mem_iff]
      exact or_comm
    · intro id open'
      rw [List.mem_append, not_or, ids.mem_iff] at open'
      simp [open'.1]

/-- The run lemma: after so many rounds, so many waves are done. -/
theorem Stands.rounds (rounds : List Nat) (waves : Nat)
    (accepts : ∀ n, start.backend.verdict n = .accepted)
    (succeeds : ∀ round taskId, (dispatcher.answer round taskId).outcome = .completed)
    (stands : Stands start (schedule dispatcher.workers start waves) [] state.ledger)
    (idle : state.running = false →
      nextWave dispatcher.workers start (schedule dispatcher.workers start waves) = []) :
    Stands start (schedule dispatcher.workers start (waves + rounds.length)) []
      (StepSystem.final (dispatchRound dispatcher) state rounds).ledger := by
  induction rounds generalizing state waves with
  | nil => exact stands
  | cons round rest ih =>
    have next : schedule dispatcher.workers start (waves + 1) =
        schedule dispatcher.workers start waves ++
          nextWave dispatcher.workers start (schedule dispatcher.workers start waves) := rfl
    rw [List.length_cons, Nat.add_comm rest.length 1, ← Nat.add_assoc]
    by_cases running : state.running = true
    · have one := stands.round round accepts succeeds running
      apply ih (waves + 1) one.1
      intro stopped
      rw [next, one.2 stopped, List.append_nil]
      exact one.2 stopped
    · have stopped := idle (Bool.eq_false_iff.mpr running)
      have same : dispatchRound dispatcher state round = state := by
        simp [dispatchRound, running]
      rw [stopped, List.append_nil] at next
      apply ih (waves + 1)
      · rw [same, next]
        exact stands
      · intro _
        rw [next]
        exact stopped

end Rounds

def AllCompleted (start final : SmartLedger) : Prop :=
  ∀ id ∈ start.tasks.keys, final.statusOf id = some .completed

/-- What is left after the last round is what the schedule does not get to. -/
theorem allCompleted_iff (pending : ∀ task ∈ ledger.tasks.rows, task.status = .pending)
    (accepts : ∀ n, ledger.backend.verdict n = .accepted)
    (succeeds : ∀ round taskId, (dispatcher.answer round taskId).outcome = .completed) :
    AllCompleted ledger (dispatchGoalWithLedger dispatcher ledger).ledger ↔
      ∀ id ∈ ledger.tasks.keys, id ∈ schedule dispatcher.workers ledger maxIterations := by
  have begun : Stands ledger [] [] ledger := by
    constructor
    · rw [Table.Evolves, List.forall₂_same]
      intro task member
      exact ⟨rfl, rfl, pending task member, by simp [pending task member],
        KeepsBlockers.of_eq rfl⟩
    · rfl
  have ends : Stands ledger (schedule dispatcher.workers ledger maxIterations) []
      (dispatchLoop dispatcher ledger).ledger := by
    have stands := @Stands.rounds dispatcher ledger (DispatchLoop.begin ledger)
      (List.range maxIterations) 0 accepts succeeds begun (fun stopped => by cases stopped)
    rw [dispatchLoop]
    exact stands
  apply forall₂_congr
  intro id present
  obtain ⟨task, found, _, status⟩ := ends.found id present
  have final : (dispatchGoalWithLedger dispatcher ledger).ledger.statusOf id = some task.status := by
    rw [dispatchGoalWithLedger]
    generalize dispatchLoop dispatcher ledger = done at found ⊢
    exact congrArg (Option.map Task.status) found
  rw [final, Option.some.injEq, status]
  by_cases done : id ∈ schedule dispatcher.workers ledger maxIterations
  · simp [done]
  · simp [done]

def Awaits (ledger : SmartLedger) (id other : TaskId) : Prop :=
  ∃ task, ledger.getTask id = some task ∧
    (other ∈ task.prerequisites ∨ other ∈ task.childTaskIds ∨ other ∈ task.blockedBy ∨
      task.context.dependsOnOutcome.map OutcomeCondition.taskId = some other)

structure Unhindered (ledger : SmartLedger) : Prop where
  acyclic : ∀ id, ¬ Relation.TransGen (Awaits ledger) id id
  outcomes : ∀ task ∈ ledger.tasks.rows, ∀ condition,
    task.context.dependsOnOutcome = some condition →
      (ledger.getTask condition.taskId).isSome = true →
      condition.requiredOutcome = some "any" ∨ condition.requiredOutcome = some "success"

theorem withFinished_getTask (finished : List TaskId) (id : TaskId) (task : Task)
    (found : (withFinished ledger finished).getTask id = some task) :
    ∃ old, ledger.getTask id = some old ∧ (id ∈ finished → task.status = .completed) := by
  have row := Table.get?_mem (withFinished ledger finished).tasks id task found
  have named := (withFinished ledger finished).getTask_taskId id task found
  obtain ⟨old, member, rfl⟩ := List.mem_map.mp row
  rw [finishedTask_taskId] at named
  subst named
  refine ⟨old, Table.mem_get? ledger.tasks old member, ?_⟩
  intro done
  rw [finishedTask, if_pos done]

-- A task with all it waits for COMPLETED passes the checks.
theorem passesChecks_of_finished (unhindered : Unhindered ledger) (finished : List TaskId)
    (task : Task) (member : task ∈ ledger.tasks.rows)
    (met : ∀ other ∈ ledger.tasks.keys, Awaits ledger task.taskId other → other ∈ finished) :
    (withFinished ledger finished).passesChecks task = true := by
  have found := Table.mem_get? ledger.tasks task member
  have completed (id : TaskId) (awaits : Awaits ledger task.taskId id) (dependency : Task)
      (there : (withFinished ledger finished).getTask id = some dependency) :
      (ledger.getTask id).isSome = true ∧ dependency.status = .completed := by
    obtain ⟨old, before, done⟩ := withFinished_getTask ledger finished id dependency there
    refine ⟨by simp [before], done (met id ?_ awaits)⟩
    exact (Table.mem_keys ledger.tasks id).mpr ⟨old, before⟩
  have present (ids : List TaskId) (test : Status → Bool) (holds : test .completed = true)
      (listed : ∀ id ∈ ids, Awaits ledger task.taskId id) :
      (withFinished ledger finished).allPresent ids test = true := by
    rw [allPresent, List.all_eq_true]
    intro id inside
    cases there : (withFinished ledger finished).getTask id with
    | none => rfl
    | some dependency =>
      dsimp only
      rw [(completed id (listed id inside) dependency there).2]
      exact holds
  have outcome : (withFinished ledger finished).outcomeAllows task = true := by
    simp only [outcomeAllows]
    cases asked : task.context.dependsOnOutcome with
    | none => rfl
    | some condition =>
      cases there : (withFinished ledger finished).getTask condition.taskId with
      | none => simp [there]
      | some dependency =>
        have awaited : Awaits ledger task.taskId condition.taskId := by
          refine ⟨task, found, Or.inr (Or.inr (Or.inr ?_))⟩
          rw [asked]
          rfl
        have done := completed condition.taskId awaited dependency there
        simp only [there, done.2, ↓reduceIte, Bool.or_eq_true, decide_eq_true_eq]
        exact unhindered.outcomes task member condition asked done.1
  simp only [passesChecks, outcome, Bool.and_true, Bool.and_eq_true]
  refine ⟨⟨?_, ?_⟩, ?_⟩
  · exact present _ _ rfl fun id listed => ⟨task, found, Or.inr (Or.inl listed)⟩
  · exact present _ _ rfl fun id listed => ⟨task, found, Or.inl listed⟩
  · exact present _ _ rfl fun id listed => ⟨task, found, Or.inr (Or.inr (Or.inl listed))⟩

-- The selectors name something as long as some task has all it waits for.
theorem nextWave_offers (some_worker : 0 < workers) (ledger : SmartLedger)
    (pending : ∀ task ∈ ledger.tasks.rows, task.status = .pending) (unhindered : Unhindered ledger)
    (finished : List TaskId) (id : TaskId) (present : id ∈ ledger.tasks.keys) (left : id ∉ finished)
    (met : ∀ other ∈ ledger.tasks.keys, Awaits ledger id other → other ∈ finished) :
    nextWave workers ledger finished ≠ [] := by
  obtain ⟨task, member, rfl⟩ := List.mem_map.mp present
  have checks := passesChecks_of_finished ledger unhindered finished task member met
  have row : task ∈ (withFinished ledger finished).tasks.rows := by
    apply List.mem_map.mpr
    exact ⟨task, member, if_neg left⟩
  have candidate : isCandidate task = true := by
    simp [isCandidate, pending task member, isTerminalState]
  simp only [nextWave, picked, ne_eq, List.map_eq_nil_iff]
  split
  · intro nothing
    cases next : (withFinished ledger finished).getNextExecutableTask with
    | none =>
      have refused := List.find?_eq_none.mp next task (by
        rw [byPriority, List.mem_insertionSort]
        exact List.mem_filter.mpr ⟨row, candidate⟩)
      exact refused checks
    | some chosen => simp [next] at nothing
  next some =>
    intro nothing
    rcases List.take_eq_nil_iff.mp nothing with zero | empty
    · omega
    · exact some (List.isEmpty_iff.mpr empty)

/-- A dispatch without failures completes what its schedule gets to in a hundred
waves; tasks that wait in no circle are all among it if there are no more than that. -/
theorem dispatch_completes (dispatcher : Dispatcher) (ledger : SmartLedger)
    (pending : ∀ task ∈ ledger.tasks.rows, task.status = .pending)
    (accepts : ∀ n, ledger.backend.verdict n = .accepted)
    (succeeds : ∀ round taskId, (dispatcher.answer round taskId).outcome = .completed) :
    (AllCompleted ledger (dispatchGoalWithLedger dispatcher ledger).ledger ↔
      ∀ id ∈ ledger.tasks.keys, id ∈ schedule dispatcher.workers ledger maxIterations) ∧
    (Unhindered ledger → ledger.tasks.keys.length ≤ maxIterations →
      AllCompleted ledger (dispatchGoalWithLedger dispatcher ledger).ledger) := by
  have scheduled := allCompleted_iff dispatcher ledger pending accepts succeeds
  refine ⟨scheduled, fun unhindered few => scheduled.mpr ?_⟩
  apply Waves.covered_of_progress (nextWave_proper dispatcher.workers ledger) _ _ few
  apply Waves.progress_of_acyclic (Awaits ledger) unhindered.acyclic
  intro finished id present left met
  exact nextWave_offers dispatcher.workers dispatcher.some_worker ledger pending unhindered
    finished id present left met

def pairLedger : SmartLedger :=
  sampleLedger [sampleTask "a" .pending, { sampleTask "b" .pending with prerequisites := ["a"] }]
    .accepted

theorem pairLedger_unhindered : Unhindered pairLedger := by
  constructor
  · apply Waves.acyclic_of_rank _ fun id => if id = "b" then 1 else 0
    rintro id other ⟨task, found, listed⟩
    have member := Table.get?_mem pairLedger.tasks id task found
    have named := pairLedger.getTask_taskId id task found
    have rows : pairLedger.tasks.rows = [sampleTask "a" .pending,
      { sampleTask "b" .pending with prerequisites := ["a"] }] := rfl
    simp only [rows, List.mem_cons, List.not_mem_nil, or_false] at member
    rcases member with rfl | rfl
    · simp [sampleTask, Task.create] at listed
    · simp [sampleTask, Task.create] at listed named
      subst named listed
      decide
  · decide

theorem pair_completed :
    AllCompleted pairLedger (dispatchGoalWithLedger sampleDispatcher pairLedger).ledger :=
  (dispatch_completes sampleDispatcher pairLedger (by decide) (fun _ => rfl) fun _ _ => rfl).2
    pairLedger_unhindered (by decide)

def PlanAwaits (ledger : SmartLedger) (id other : TaskId) : Prop :=
  ∃ task, ledger.getTask id = some task ∧
    (other ∈ task.prerequisites ∨ other ∈ task.childTaskIds)

structure SoundPlan (ledger : SmartLedger) : Prop where
  pending : ∀ task ∈ ledger.tasks.rows, task.status = .pending
  acyclic : ∀ id, ¬ Relation.TransGen (PlanAwaits ledger) id id
  present : ∀ id other, PlanAwaits ledger id other → other ∈ ledger.tasks.keys

theorem soundPlan_of_independent
    (alone : ∀ task ∈ ledger.tasks.rows,
      task.status = .pending ∧ task.prerequisites = [] ∧ task.childTaskIds = []) :
    SoundPlan ledger := by
  have none (id other : TaskId) : ¬ PlanAwaits ledger id other := by
    rintro ⟨task, found, listed⟩
    have row := alone task (Table.get?_mem ledger.tasks id task found)
    simp [row.2] at listed
  constructor
  · exact fun task member => (alone task member).1
  · exact Waves.acyclic_of_rank _ (fun _ => 0) fun id other awaits => absurd awaits (none id other)
  · exact fun id other awaits => absurd awaits (none id other)

theorem sequential_wave (sequential : ∀ task ∈ ledger.tasks.rows, task.executionMode = .sequential)
    (finished : List TaskId) : (nextWave workers ledger finished).length ≤ 1 := by
  have none : (withFinished ledger finished).getParallelExecutableTasks = [] := by
    rw [getParallelExecutableTasks, List.filter_eq_nil_iff]
    intro task member
    obtain ⟨old, row, rfl⟩ := List.mem_map.mp member
    have mode : (finishedTask finished old).executionMode = .sequential := by
      simp only [finishedTask]
      split
      · exact sequential old row
      · exact sequential old row
    simp [isParallelReady, mode]
  simp only [nextWave, picked, none, List.isEmpty_nil, ↓reduceIte, List.length_map]
  exact Option.length_toList_le

theorem sequential_tasks_left (pending : ∀ task ∈ ledger.tasks.rows, task.status = .pending)
    (accepts : ∀ n, ledger.backend.verdict n = .accepted)
    (succeeds : ∀ round taskId, (dispatcher.answer round taskId).outcome = .completed)
    (sequential : ∀ task ∈ ledger.tasks.rows, task.executionMode = .sequential)
    (many : maxIterations < ledger.tasks.keys.length) :
    ¬ AllCompleted ledger (dispatchGoalWithLedger dispatcher ledger).ledger := by
  rw [allCompleted_iff dispatcher ledger pending accepts succeeds]
  apply Waves.not_covered ledger.tasks.unique 1
    (sequential_wave dispatcher.workers ledger sequential) maxIterations
  exact many

def queuedTask (n : Nat) : Task := sampleTask (String.ofList (List.replicate n 'a')) .pending

def longQueue : SmartLedger :=
  { sampleLedger [] .accepted with
    tasks := ⟨(List.range 101).map queuedTask, by
      rw [List.map_map]
      apply List.nodup_range.map
      intro m n same
      have lengths := congrArg String.length same
      simpa [queuedTask, sampleTask, Task.create] using lengths⟩ }

def crossBlocked : SmartLedger :=
  sampleLedger [{ sampleTask "a" .pending with blockedBy := ["b"] },
    { sampleTask "b" .pending with blockedBy := ["a"] }] .accepted

/-- Neither many tasks nor blockers are ruled out by a sound plan. -/
theorem sound_plans_left_unfinished :
    (SoundPlan longQueue ∧
      ¬ AllCompleted longQueue (dispatchGoalWithLedger sampleDispatcher longQueue).ledger) ∧
    SoundPlan crossBlocked ∧
      ¬ AllCompleted crossBlocked (dispatchGoalWithLedger sampleDispatcher crossBlocked).ledger := by
  have queued (task : Task) (member : task ∈ longQueue.tasks.rows) :
      ∃ n, queuedTask n = task := by
    obtain ⟨n, _, same⟩ := List.mem_map.mp member
    exact ⟨n, same⟩
  refine ⟨⟨?_, ?_⟩, ?_, ?_⟩
  · apply soundPlan_of_independent
    intro task member
    obtain ⟨n, rfl⟩ := queued task member
    exact ⟨rfl, rfl, rfl⟩
  · apply sequential_tasks_left sampleDispatcher longQueue _ (fun _ => rfl) (fun _ _ => rfl)
    · intro task member
      obtain ⟨n, rfl⟩ := queued task member
      rfl
    · simp [longQueue, Table.keys, maxIterations]
    · intro task member
      obtain ⟨n, rfl⟩ := queued task member
      rfl
  · apply soundPlan_of_independent
    decide
  · rw [allCompleted_iff sampleDispatcher crossBlocked (by decide) (fun _ => rfl) fun _ _ => rfl,
      schedule, Waves.after_stuck (by decide)]
    decide

end Hartos.ParallelDispatch
