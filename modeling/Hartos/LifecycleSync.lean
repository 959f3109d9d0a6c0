import Hartos.DispatchCompletion
import Hartos.LifecycleHooks

/-!
Whether the ledger follows the actions. The two lifecycles are written down
separately, and four moves the action table allows are refused by the ledger's
table; every other move keeps the ledger at the projection of the action.
-/
namespace Hartos.Lifecycle
open TaskStatus KeyedTable SmartLedger StepSystem

def unprojected : ActionState → ActionState → Bool
  | .assigned, .previewPending => true
  | .assigned, .gaveUp => true
  | .pending, .completed => true
  | .previewPending, .terminated => true
  | _, _ => false

theorem stateMap_not_paused (state : ActionState) :
    ¬(stateMap state = .paused ∨ stateMap state = .userStopped) := by
  cases state <;> decide

variable (host : Host) (ledger : SmartLedger) (task : Task) (currentState newState : ActionState)

-- Where the ledger still runs, its table and the action table differ in four moves.
theorem tables_differ (valid : validateStateTransition currentState newState = true)
    (moves : stateMap currentState ≠ stateMap newState)
    (running : isTerminalState (stateMap currentState) = false)
    (direct : ¬(stateMap newState = .inProgress ∧ stateMap currentState = .blocked)) :
    transitionRefusalBetween (stateMap currentState) (stateMap newState) = none ↔
      unprojected currentState newState = false := by
  revert valid moves running direct
  cases currentState <;> cases newState <;> decide

-- The four are moves of a running task that the two-step resume does not serve.
theorem unprojected_direct (refused : unprojected currentState newState = true) :
    stateMap currentState ≠ stateMap newState ∧
      ¬(stateMap newState = .inProgress ∧ stateMap currentState = .blocked) := by
  revert refused
  cases currentState <;> cases newState <;> decide

def Accepting (ledger : SmartLedger) : Prop := ∀ write, ledger.backend.verdict write = .accepted

theorem Accepting.next {ledger : SmartLedger} (accepting : Accepting ledger) :
    ledger.backend.next = .accepted := accepting ledger.backend.writes

/-- The task `taskId` of the ledger, and what it reads. -/
structure Reads (ledger : SmartLedger) (taskId : TaskId) (status : Status) : Prop where
  accepting : Accepting ledger
  task : ∃ task, ledger.getTask taskId = some task ∧ task.status = status

theorem Reads.modify {ledger : SmartLedger} {taskId : TaskId} {status : Status}
    (reads : Reads ledger taskId status) (change : Task → Task)
    (sameId : ∀ task, (change task).taskId = task.taskId)
    (sameStatus : ∀ task, (change task).status = task.status) :
    Reads (ledger.modifyTask taskId change) taskId status := by
  obtain ⟨task, found, stands⟩ := reads.task
  have step := @reworked_modifyTask (fun _ _ => True) (fun _ => trivial) ledger taskId change
    (fun other named => (sameId other).trans named) (fun _ _ => trivial)
  constructor
  · exact fun write => (congrArg (fun b => b.verdict write) step.backend).trans
      (reads.accepting write)
  · refine ⟨change task, ?_, (sameStatus task).trans stands⟩
    rw [getTask_modifyTask ledger taskId change fun other named => (sameId other).trans named]
    simp [found]

theorem saveResumed_reads (accepting : Accepting ledger) :
    (saveResumed ledger (some task)).1 = true ∧
      Reads (saveResumed ledger (some task)).2 task.taskId task.status := by
  have saved : (ledger.putTask { task with blockedReason := none }).save.1 = true :=
    decide_eq_true (accepting.next :)
  simp only [saveResumed, saved, ↓reduceIte, true_and]
  refine ⟨accepting, { task with blockedReason := none }, ?_, rfl⟩
  exact (getTask_putTask ledger { task with blockedReason := none } task.taskId).trans (if_pos rfl)

theorem unblocked_moves (blocked : task.status = .blocked) (first second : String) (now : Time) :
    ∃ moved, ((task.transitionTo .pending first now).bind fun unblocked =>
        unblocked.transitionTo .inProgress second now) = some moved ∧
      moved.status = .inProgress ∧ moved.taskId = task.taskId := by
  have leaves : task.validateTransition .pending = true := by
    rw [Task.validateTransition, Task.transitionRefusal, blocked]
    rfl
  simp only [Task.transitionTo, Task.move, leaves, ↓reduceIte, Option.bind_some, id]
  exact ⟨_, rfl, rfl, rfl⟩

theorem updateTaskStatus_reads (update : StatusUpdate) (now : Time)
    (found : ledger.getTask task.taskId = some task) (durable : update.deferSave = false)
    (valid : task.validateTransition update.status = true) (accepting : Accepting ledger) :
    (ledger.updateTaskStatus host task.taskId update now).1 = true ∧
      Reads (ledger.updateTaskStatus host task.taskId update now).2 task.taskId update.status := by
  have written :=
    updateTaskStatus_accepted host ledger task update now found durable valid accepting.next
  have staged := stageStatus_staged host ledger task update now found
  obtain ⟨after, there, set⟩ := staged.getTask_some task.taskId task found
  refine ⟨written.1, ?_, after, ?_, set.set.named rfl⟩
  · intro write
    rw [updateTaskStatus_verdict]
    exact accepting write
  · rw [getTask, written.2]
    exact there

def Follows (before : Task) (state : ActionState) (ledger : SmartLedger) : Prop :=
  Reads ledger before.taskId (stateMap state) ∨
    (before.isTerminal = true ∧ Reads ledger before.taskId before.status)

theorem moveLedgerTask_finished (call : Call) (found : ledger.getTask task.taskId = some task)
    (accepting : Accepting ledger) (finished : task.isTerminal = true) :
    (moveLedgerTask host ledger task call).1 = true ∧
      Follows task call.state (moveLedgerTask host ledger task call).2 := by
  have here : Reads ledger task.taskId task.status := ⟨accepting, task, found, rfl⟩
  have notPaused : ¬(task.status = .paused ∨ task.status = .userStopped) := by
    rintro (paused | stopped)
    · simp [Task.isTerminal, paused, isTerminalState] at finished
    · simp [Task.isTerminal, stopped, isTerminalState] at finished
  have notBlocked : task.status ≠ .blocked := by
    intro blocked
    simp [Task.isTerminal, blocked, isTerminalState] at finished
  simp only [moveLedgerTask, notPaused, notBlocked, and_false, ↓reduceIte, finished, Bool.true_and]
  by_cases same : task.status = stateMap call.state
  · rw [if_pos same]
    exact ⟨rfl, Or.inl (same ▸ here)⟩
  · rw [if_neg same]
    cases recovers : recoverFailed task call.state with
    | false => exact ⟨rfl, Or.inr ⟨finished, here⟩⟩
    | true =>
      by_cases prevented : maskedFailurePrevented task call = true
      · rw [if_pos prevented]
        exact ⟨rfl, Or.inr ⟨finished, here⟩⟩
      · rw [if_neg prevented]
        have edge : stateMap call.state = .completed ∧ task.status = .failed := by
          simpa [recoverFailed] using recovers
        have valid : task.validateTransition (stateMap call.state) = true := by
          rw [Task.validateTransition, Task.transitionRefusal, edge.1, edge.2]
          rfl
        have moved := updateTaskStatus_reads host ledger task (projectedUpdate call) call.now found
          rfl valid accepting
        exact ⟨moved.1, Or.inl moved.2⟩

/-- A running task refuses exactly the four moves, and is then as before. -/
theorem moveLedgerTask_running (call : Call) (currentState : ActionState)
    (found : ledger.getTask task.taskId = some task) (accepting : Accepting ledger)
    (inSync : task.status = stateMap currentState) (running : task.isTerminal = false)
    (valid : validateStateTransition currentState call.state = true) :
    if unprojected currentState call.state then
      moveLedgerTask host ledger task call = (false, ledger)
    else
      (moveLedgerTask host ledger task call).1 = true ∧
        Reads (moveLedgerTask host ledger task call).2 task.taskId (stateMap call.state) := by
  have here : Reads ledger task.taskId task.status := ⟨accepting, task, found, rfl⟩
  have notPaused : ¬(task.status = .paused ∨ task.status = .userStopped) :=
    inSync ▸ stateMap_not_paused currentState
  simp only [moveLedgerTask, notPaused, and_false, ↓reduceIte, running, Bool.false_and,
    Bool.false_eq_true]
  by_cases resumes : stateMap call.state = .inProgress ∧ task.status = .blocked
  · have projected : unprojected currentState call.state = false := by
      cases refused : unprojected currentState call.state with
      | false => rfl
      | true => exact absurd (inSync ▸ resumes) (unprojected_direct _ _ refused).2
    rw [projected, if_pos resumes, if_neg Bool.false_ne_true]
    obtain ⟨moved, goes, status, named⟩ := unblocked_moves task resumes.2
      s!"Unblocked via ActionState.{call.state.value}"
      s!"Resumed via ActionState.{call.state.value}" call.now
    rw [goes, resumes.1, ← status, ← named]
    exact saveResumed_reads ledger moved accepting
  · rw [if_neg resumes]
    by_cases same : task.status = stateMap call.state
    · have projected : unprojected currentState call.state = false := by
        cases refused : unprojected currentState call.state with
        | false => rfl
        | true => exact absurd (inSync ▸ same) (unprojected_direct _ _ refused).1
      rw [projected, if_pos same, if_neg Bool.false_ne_true]
      exact ⟨rfl, same ▸ here⟩
    · have notFailed : task.status ≠ .failed := by
        intro failed
        simp [Task.isTerminal, failed, isTerminalState] at running
      have unmasked : maskedFailurePrevented task call = false := by
        simp [maskedFailurePrevented, isPossibleMaskedFailure, recoverFailed, notFailed]
      rw [if_neg same, unmasked, if_neg Bool.false_ne_true]
      have tables := tables_differ currentState call.state valid (inSync ▸ same)
        (inSync ▸ running) (inSync ▸ resumes)
      rw [← inSync] at tables
      by_cases refused : unprojected currentState call.state = true
      · rw [if_pos refused]
        apply updateTaskStatus_refused
        intro other foundOther
        cases found.symm.trans foundOther
        have blocks : transitionRefusalBetween task.status (stateMap call.state) ≠ none := by
          rw [Ne, tables, refused]
          decide
        exact Bool.eq_false_of_not_eq_true fun passes => blocks (Option.isNone_iff_eq_none.mp passes)
      · have allowed := tables.mpr (Bool.eq_false_of_not_eq_true refused)
        rw [if_neg refused]
        have goes : task.validateTransition (stateMap call.state) = true := by
          simp [Task.validateTransition, Task.transitionRefusal, allowed]
        exact updateTaskStatus_reads host ledger task (projectedUpdate call) call.now found rfl goes
          accepting

section Calls
variable (host : Host) (userPrompt : UserPrompt) (actionId : Int)

def Registered (hooks : Hooks) (status : Status) : Prop :=
  ∃ ledger, hooks.ledgerRegistry userPrompt = some ledger ∧
    Reads ledger (actionTaskId actionId) status

def Tracked (hooks : Hooks) : Prop :=
  ∃ status, Registered userPrompt actionId hooks status ∧
    (status = stateMap (hooks.getActionState userPrompt actionId) ∨ isTerminalState status = true)

def act (hooks : Hooks) (call : Call) : Hooks :=
  (setActionState host hooks userPrompt actionId call).2

def Simulates (hooks : Hooks) (call : Call) : Prop :=
  validateStateTransition (hooks.getActionState userPrompt actionId) call.state = true →
    (setActionState host hooks userPrompt actionId call).1.isOk = true ∧
      ((act host userPrompt actionId hooks call).ledgerStatus userPrompt actionId =
          some (stateMap call.state) ∨
        ((hooks.ledgerStatus userPrompt actionId).any isTerminalState = true ∧
          (act host userPrompt actionId hooks call).ledgerStatus userPrompt actionId =
            hooks.ledgerStatus userPrompt actionId))

def Projected (hooks : Hooks) (call : Call) : Prop :=
  unprojected (hooks.getActionState userPrompt actionId) call.state = true →
    (hooks.ledgerStatus userPrompt actionId).any isTerminalState = true

instance (hooks : Hooks) (call : Call) : Decidable (Simulates host userPrompt actionId hooks call) :=
  inferInstanceAs (Decidable (_ = true → _ = true ∧ (_ = _ ∨ _ = true ∧ _ = _)))

instance (hooks : Hooks) (call : Call) : Decidable (Projected userPrompt actionId hooks call) :=
  inferInstanceAs (Decidable (_ = true → _ = true))

variable {userPrompt : UserPrompt} {actionId : Int} {hooks : Hooks} {status : Status}

theorem Registered.ledgerStatus (registered : Registered userPrompt actionId hooks status) :
    hooks.ledgerStatus userPrompt actionId = some status := by
  obtain ⟨ledger, held, reads⟩ := registered
  obtain ⟨task, found, stands⟩ := reads.task
  simp [Hooks.ledgerStatus, Hooks.ledgerTask, held, found, stands]

theorem Registered.putActionState (registered : Registered userPrompt actionId hooks status)
    (state : ActionState) :
    Registered userPrompt actionId (hooks.putActionState userPrompt actionId state) status :=
  registered

theorem getActionState_putActionState (hooks : Hooks) (state : ActionState) :
    (hooks.putActionState userPrompt actionId state).getActionState userPrompt actionId = state := by
  simp [Hooks.getActionState, Hooks.putActionState]

theorem recordReason_keeps (state : ActionState) (now : Time) (task : Task) :
    (recordReason state now task).taskId = task.taskId ∧
      (recordReason state now task).status = task.status := by
  cases state <;> simp [recordReason, stateMap, Task.setBlockedReason, Task.setFailureReason]
  split <;> simp

theorem claimTask_keeps (claims : Bool) (now : Time) (task : Task) :
    (claimTask claims now task).taskId = task.taskId ∧
      (claimTask claims now task).status = task.status := by
  cases claims <;> exact ⟨rfl, rfl⟩

theorem settleSync_registered (hooks : Hooks) (ledger : SmartLedger) (tracking : Tracking)
    (call : Call) (reads : Reads ledger (actionTaskId actionId) status) :
    Registered userPrompt actionId
      (hooks.settleSync userPrompt (actionTaskId actionId) ledger tracking call) status := by
  refine ⟨_, Function.update_self .., ?_⟩
  apply reads.modify
  · intro task
    split <;> exact (recordReason_keeps call.state call.now task).1
  · intro task
    split <;> exact (recordReason_keeps call.state call.now task).2

/-- The sync of a registered task comes down to the move of that task. -/
theorem autoSyncToLedger_registered (host : Host) (call : Call)
    (registered : Registered userPrompt actionId hooks status) :
    ∃ ledger task, Accepting ledger ∧ ledger.getTask task.taskId = some task ∧
      task.status = status ∧ task.taskId = actionTaskId actionId ∧
      (∀ later, (moveLedgerTask host ledger task call).1 = true →
        Reads (moveLedgerTask host ledger task call).2 task.taskId later →
        (hooks.autoSyncToLedger host userPrompt actionId call).1 = true ∧
          Registered userPrompt actionId
            (hooks.autoSyncToLedger host userPrompt actionId call).2 later) ∧
      (moveLedgerTask host ledger task call = (false, ledger) →
        (hooks.autoSyncToLedger host userPrompt actionId call).1 = false ∧
          Registered userPrompt actionId
            (hooks.autoSyncToLedger host userPrompt actionId call).2 status) := by
  obtain ⟨ledger, held, accepting, task, found, stands⟩ := registered
  have named := ledger.getTask_taskId (actionTaskId actionId) task found
  simp only [Hooks.autoSyncToLedger, held, found]
  -- The claim may have touched the task's clock, never its id or status.
  have keeps := claimTask_keeps
    (claimsOwnership (hooks.tracking userPrompt (actionTaskId actionId)) call.state) call.now task
  generalize claimTask _ call.now task = claimed at keeps
  have sameId : claimed.taskId = actionTaskId actionId := keeps.1.trans named
  have sameStatus : claimed.status = status := keeps.2.trans stands
  refine ⟨ledger.putTask claimed, claimed, accepting, ?_, sameStatus, sameId, ?_, ?_⟩
  · simp [getTask_putTask]
  · intro later goes reads
    rw [if_pos goes]
    exact ⟨rfl, settleSync_registered _ _ _ call (sameId ▸ reads)⟩
  · intro refused
    rw [refused, if_neg Bool.false_ne_true]
    refine ⟨rfl, _, Function.update_self .., accepting, task, ?_, stands⟩
    simp [getTask_putTask, named]

theorem autoSyncToLedger_states (host : Host) (hooks : Hooks) (call : Call) :
    (hooks.autoSyncToLedger host userPrompt actionId call).2.actionStates = hooks.actionStates := by
  unfold Hooks.autoSyncToLedger
  cases hooks.ledgerRegistry userPrompt with
  | none => rfl
  | some ledger =>
    cases found : ledger.getTask (actionTaskId actionId) with
    | none => simp only [found]
    | some task =>
      have counted : (hooks.countMaskedFailure task call).actionStates = hooks.actionStates := by
        unfold Hooks.countMaskedFailure
        split
        · split <;> rfl
        · rfl
      simp only [found]
      split
      · exact counted
      · exact counted

def Settled (status : Status) (state : ActionState) (later : Status) : Prop :=
  later = stateMap state ∨ (isTerminalState status = true ∧ later = status)

section

variable (host : Host) (call : Call)

-- The verdict of the sync, for a valid move of a tracked action.
theorem autoSyncToLedger_tracked (registered : Registered userPrompt actionId hooks status)
    (follows : status = stateMap (hooks.getActionState userPrompt actionId) ∨
      isTerminalState status = true)
    (valid : validateStateTransition (hooks.getActionState userPrompt actionId) call.state = true) :
    if unprojected (hooks.getActionState userPrompt actionId) call.state = true ∧
        isTerminalState status = false then
      (hooks.autoSyncToLedger host userPrompt actionId call).1 = false ∧
        Registered userPrompt actionId
          (hooks.autoSyncToLedger host userPrompt actionId call).2 status
    else
      (hooks.autoSyncToLedger host userPrompt actionId call).1 = true ∧
        ∃ later, Settled status call.state later ∧
          Registered userPrompt actionId
            (hooks.autoSyncToLedger host userPrompt actionId call).2 later := by
  obtain ⟨ledger, task, accepting, found, stands, _, goes, stops⟩ :=
    autoSyncToLedger_registered host call registered
  cases finished : isTerminalState status with
  | true =>
    have moved := moveLedgerTask_finished host ledger task call found accepting
      ((congrArg isTerminalState stands).trans finished)
    simp only [Bool.true_eq_false, and_false, ↓reduceIte]
    rcases moved.2 with projected | ⟨_, stayed⟩
    · have synced := goes _ moved.1 projected
      exact ⟨synced.1, _, Or.inl rfl, synced.2⟩
    · have synced := goes _ moved.1 stayed
      exact ⟨synced.1, _, Or.inr ⟨finished, stands⟩, synced.2⟩
  | false =>
    have inSync : status = stateMap (hooks.getActionState userPrompt actionId) :=
      follows.resolve_right (by simp [finished])
    have moved := moveLedgerTask_running host ledger task call _ found accepting
      (stands.trans inSync) ((congrArg isTerminalState stands).trans finished) valid
    simp only [and_true]
    split
    · rename_i refused
      rw [if_pos refused] at moved
      exact stops moved
    · rename_i allowed
      rw [if_neg allowed] at moved
      have synced := goes _ moved.1 moved.2
      exact ⟨synced.1, _, Or.inl rfl, synced.2⟩

theorem setActionState_same (same : hooks.getActionState userPrompt actionId = call.state) :
    setActionState host hooks userPrompt actionId call = (.ok (), hooks) := by
  simp only [setActionState, same, ↓reduceIte]

theorem setActionState_invalid (different : hooks.getActionState userPrompt actionId ≠ call.state)
    (invalid : validateStateTransition (hooks.getActionState userPrompt actionId) call.state = false) :
    setActionState host hooks userPrompt actionId call =
      (.error (.invalidTransition actionId (hooks.getActionState userPrompt actionId) call.state),
        hooks) := by
  simp only [setActionState, different, invalid, Bool.false_eq_true, ↓reduceIte]

theorem setActionState_valid (different : hooks.getActionState userPrompt actionId ≠ call.state)
    (valid : validateStateTransition (hooks.getActionState userPrompt actionId) call.state = true) :
    setActionState host hooks userPrompt actionId call =
      if (hooks.autoSyncToLedger host userPrompt actionId call).1 then
        (.ok (), (hooks.autoSyncToLedger host userPrompt actionId call).2.putActionState userPrompt
          actionId call.state)
      else
        (.error (.ledgerPersistenceFailed actionId call.state),
          (hooks.autoSyncToLedger host userPrompt actionId call).2) := by
  simp only [setActionState, different, valid, ↓reduceIte]

end

theorem unprojected_valid (currentState newState : ActionState)
    (refused : unprojected currentState newState = true) :
    validateStateTransition currentState newState = true ∧ currentState ≠ newState := by
  revert refused
  cases currentState <;> cases newState <;> decide

theorem setActionState_tracked (host : Host) (call : Call)
    (tracked : Tracked userPrompt actionId hooks) :
    Tracked userPrompt actionId (act host userPrompt actionId hooks call) ∧
      (Simulates host userPrompt actionId hooks call ↔
        Projected userPrompt actionId hooks call) := by
  obtain ⟨status, registered, follows⟩ := tracked
  have reads := registered.ledgerStatus
  by_cases same : hooks.getActionState userPrompt actionId = call.state
  · have idle := setActionState_same host call same
    have allowed : unprojected (hooks.getActionState userPrompt actionId) call.state ≠ true :=
      fun refused => (unprojected_valid _ _ refused).2 same
    simp only [Simulates, Projected, act, idle, reads]
    refine ⟨⟨status, registered, follows⟩, fun _ refused => absurd refused allowed, fun _ _ => ?_⟩
    refine ⟨rfl, ?_⟩
    rcases follows with inSync | finished
    · exact Or.inl (congrArg some (inSync.trans (congrArg stateMap same)))
    · exact Or.inr ⟨finished, trivial⟩
  · cases valid : validateStateTransition (hooks.getActionState userPrompt actionId) call.state with
    | false =>
      have refusal := setActionState_invalid host call same valid
      simp only [Simulates, Projected, act, refusal]
      refine ⟨⟨status, registered, follows⟩, fun _ refused => ?_, fun _ passes => ?_⟩
      · rw [(unprojected_valid _ _ refused).1] at valid
        cases valid
      · rw [valid] at passes
        cases passes
    | true =>
      have synced := setActionState_valid host call same valid
      have ends := autoSyncToLedger_tracked host call registered follows valid
      by_cases refused : unprojected (hooks.getActionState userPrompt actionId) call.state = true ∧
          isTerminalState status = false
      · rw [if_pos refused] at ends
        rw [ends.1, if_neg Bool.false_ne_true] at synced
        simp only [Simulates, Projected, act, synced, valid, reads]
        refine ⟨⟨status, ends.2, ?_⟩, fun simulated => ?_, fun projected => ?_⟩
        · rw [Hooks.getActionState, autoSyncToLedger_states]
          exact follows
        · cases (simulated trivial).1
        · have finished : isTerminalState status = true := projected refused.1
          rw [refused.2] at finished
          cases finished
      · rw [if_neg refused] at ends
        obtain ⟨goes, later, settled, after⟩ := ends
        rw [goes, if_pos rfl] at synced
        have afterwards := (after.putActionState call.state).ledgerStatus
        simp only [Simulates, Projected, act, synced, valid, reads, afterwards]
        refine ⟨⟨later, after.putActionState call.state, ?_⟩, fun _ moves => ?_, fun _ _ => ⟨rfl, ?_⟩⟩
        · rw [getActionState_putActionState]
          rcases settled with projected | ⟨finished, stayed⟩
          · exact Or.inl projected
          · exact Or.inr (stayed ▸ finished)
        · exact (Bool.eq_false_or_eq_true _).resolve_right fun running => refused ⟨moves, running⟩
        · rcases settled with projected | ⟨finished, stayed⟩
          · exact Or.inl (congrArg some projected)
          · exact Or.inr ⟨finished, congrArg some stayed⟩

end Calls

/-- Along every run of calls on an action that starts in sync with its ledger task,
the ledger follows every allowed move exactly when none of the four refused moves is
made while the task still runs. -/
theorem ledger_follows_exactly (host : Host) (userPrompt : UserPrompt) (actionId : Int)
    (hooks : Hooks) (ledger : SmartLedger) (task : Task) (run : List Call)
    (registered : hooks.ledgerRegistry userPrompt = some ledger)
    (found : ledger.getTask (actionTaskId actionId) = some task)
    (saves : ∀ write, ledger.backend.verdict write = .accepted)
    (inSync : task.status = stateMap (hooks.getActionState userPrompt actionId)) :
    Along (act host userPrompt actionId) (Simulates host userPrompt actionId) hooks run ↔
      Along (act host userPrompt actionId) (Projected userPrompt actionId) hooks run := by
  have start : Tracked userPrompt actionId hooks :=
    ⟨task.status, ⟨ledger, registered, saves, task, found, rfl⟩, Or.inl inSync⟩
  constructor
  · apply along_of_invariant _ (Tracked userPrompt actionId)
    · exact fun state call tracked _ => (setActionState_tracked host call tracked).1
    · exact fun state call tracked => (setActionState_tracked host call tracked).2.mp
    · exact start
  · apply along_of_invariant _ (Tracked userPrompt actionId)
    · exact fun state call tracked _ => (setActionState_tracked host call tracked).1
    · exact fun state call tracked => (setActionState_tracked host call tracked).2.mpr
    · exact start

def freshLedger : SmartLedger := sampleLedger [sampleTask "action_1" .pending] .accepted

def sampleHooks : Hooks where
  actionStates := fun _ _ => none
  ledgerRegistry := fun userPrompt => if userPrompt = "7_42" then some freshLedger else none
  tracking := fun _ _ => {}
  nodeId := "node"

def verifiedRun : List Call :=
  [⟨.inProgress, none, none, 1⟩, ⟨.pending, none, none, 2⟩, ⟨.inProgress, none, none, 3⟩,
    ⟨.statusVerificationRequested, none, none, 4⟩, ⟨.completed, none, none, 5⟩,
    ⟨.recipeRequested, none, none, 6⟩, ⟨.recipeReceived, none, none, 7⟩,
    ⟨.terminated, none, some true, 8⟩]

theorem ledger_follows_verified_run :
    Along (act sampleHost "7_42" 1) (Simulates sampleHost "7_42" 1) sampleHooks verifiedRun ↔
      Along (act sampleHost "7_42" 1) (Projected "7_42" 1) sampleHooks verifiedRun :=
  ledger_follows_exactly sampleHost "7_42" 1 sampleHooks freshLedger
    (sampleTask "action_1" .pending) verifiedRun rfl (by decide) (fun _ => rfl) rfl

/-- Giving up an action that never ran is allowed by the action table and refused by
the ledger, which knows no way from PENDING to FAILED. -/
theorem giving_up_unstarted_is_refused :
    (∀ write, freshLedger.backend.verdict write = .accepted) ∧
      sampleHooks.ledgerStatus "7_42" 1 =
        some (stateMap (sampleHooks.getActionState "7_42" 1)) ∧
      validateStateTransition (sampleHooks.getActionState "7_42" 1) .gaveUp = true ∧
      ¬Along (act sampleHost "7_42" 1) (Simulates sampleHost "7_42" 1) sampleHooks
        [⟨.gaveUp, none, none, 1⟩] :=
  ⟨fun _ => rfl, by decide⟩

end Hartos.Lifecycle
