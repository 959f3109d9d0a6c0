import Hartos.LifecycleSync

/-!
What a refusal leaves behind. A projection may need one step of the ledger, or two, and a
save; blocking an action for the user's input and resuming it need a step and a save. A
step or a save that is refused takes what was done before it along.
-/
namespace Hartos.Lifecycle
open TaskStatus KeyedTable SmartLedger

inductive EvidenceKey where
  | unblockEvidence
  | userInputEvidence
  deriving DecidableEq

def EvidenceKey.text : EvidenceKey → String
  | .unblockEvidence => "unblock_evidence"
  | .userInputEvidence => "user_input_evidence"

/-- `AttributeError`: what stands under the key is no list. -/
inductive EvidenceError where
  | notAList (key : EvidenceKey)
  deriving DecidableEq

def appendEvidence (context : Context) (key : EvidenceKey) (evidence : Value) :
    Except EvidenceError Context :=
  match lookup Prod.fst key.text context.extra with
  | none => .ok { context with extra := context.extra ++ [(key.text, .list [evidence])] }
  | some (_, .list items) =>
      .ok { context with
        extra := put Prod.fst (key.text, .list (items ++ [evidence])) context.extra }
  | some _ => .error (.notAList key)

def recordEvidence (context : Context) : Option (EvidenceKey × Value) → Except EvidenceError Context
  | none => .ok context
  | some (key, evidence) => appendEvidence context key evidence

namespace Hooks

def saveOrPutBack (hooks : Hooks) (userPrompt : UserPrompt) (ledger : SmartLedger)
    (before moved : Task) : Bool × Hooks :=
  let saved := (ledger.putTask moved).save
  if saved.1 then (true, hooks.putLedger userPrompt saved.2)
  else (false, hooks.putLedger userPrompt (saved.2.putTask before))

def blockForUserInput (hooks : Hooks) (userPrompt : UserPrompt) (actionId : Int)
    (reason : String) (now : Time) : Bool × Hooks :=
  match hooks.ledgerRegistry userPrompt with
  | none => (false, hooks)
  | some ledger =>
      match ledger.getTask (actionTaskId actionId) with
      | none => (false, hooks)
      | some task =>
          if task.status ≠ .inProgress then (false, hooks)
          else
            match task.block reason now with
            | none => (false, hooks)
            | some blocked =>
                hooks.saveOrPutBack userPrompt ledger task
                  (blocked.setBlockedReason (some "input_required") now)

def resumeBlockedAction (hooks : Hooks) (userPrompt : UserPrompt) (actionId : Int)
    (reason : String) (evidence : Option (EvidenceKey × Value)) (now : Time) :
    Except EvidenceError Bool × Hooks :=
  match hooks.ledgerRegistry userPrompt with
  | none => (.ok false, hooks)
  | some ledger =>
      match ledger.getTask (actionTaskId actionId) with
      | none => (.ok false, hooks)
      | some task =>
          if task.status ≠ .blocked then (.ok false, hooks)
          else
            match task.resume reason now with
            | none => (.ok false, hooks)
            | some resumed =>
                match recordEvidence resumed.context evidence with
                | .error error =>
                    (.error error, hooks.putLedger userPrompt (ledger.putTask resumed))
                | .ok context =>
                    let saved := hooks.saveOrPutBack userPrompt ledger task
                      { resumed with context, blockedReason := none }
                    (.ok saved.1, saved.2)

end Hooks

inductive Route where
  | resumes
  | unblocks
  | updates
  | skips
  deriving DecidableEq

def route (status : Status) (call : Call) : Route :=
  if stateMap call.state = .inProgress ∧ (status = .paused ∨ status = .userStopped) then .resumes
  else if stateMap call.state = .inProgress ∧ status = .blocked then .unblocks
  else if status = stateMap call.state then .skips
  else
    let recovers := decide (stateMap call.state = .completed ∧ status = .failed)
    if isTerminalState status && !recovers then .skips
    else if isPossibleMaskedFailure recovers call.state &&
        decide (call.bankedArtifactExists = some false) then .skips
    else .updates

def StepRefused (ledger : SmartLedger) (task : Task) (call : Call) : Prop :=
  match route task.status call with
  | .resumes =>
      task.validateTransition .resuming = false ∨ ledger.backend.next ≠ .accepted
  | .unblocks =>
      task.validateTransition .pending = false ∨
        transitionRefusalBetween .pending .inProgress ≠ none ∨ ledger.backend.next ≠ .accepted
  | .updates =>
      task.validateTransition (stateMap call.state) = false ∨ ledger.backend.next ≠ .accepted
  | .skips => False

variable {before after : Hooks} (host : Host) (hooks : Hooks) (userPrompt : UserPrompt)
  (actionId : Int) (ledger : SmartLedger) (task : Task) (call : Call)

theorem move_none_iff (newStatus : Status) (reason : String) (now : Time) (fields : Task → Task) :
    task.move newStatus reason now fields = none ↔ task.validateTransition newStatus = false := by
  rw [Task.move]
  cases task.validateTransition newStatus <;> simp

theorem resume_none_iff (reason : String) (now : Time) :
    task.resume reason now = none ↔ task.validateTransition .resuming = false := by
  rw [Task.resume, Option.map_eq_none_iff, move_none_iff]

/-- The second move starts at PENDING, whatever the task. -/
theorem unblock_none_iff (first second : String) (now : Time) :
    ((task.transitionTo .pending first now).bind fun unblocked =>
        unblocked.transitionTo .inProgress second now) = none ↔
      task.validateTransition .pending = false ∨
        transitionRefusalBetween .pending .inProgress ≠ none := by
  rw [Task.transitionTo, Task.move]
  cases task.validateTransition .pending with
  | false => simp only [Bool.false_eq_true, if_false, Option.bind_none, true_or]
  | true =>
    constructor
    · intro rejected
      exact absurd rejected (by simp [Task.transitionTo, Task.move, Task.validateTransition,
        Task.transitionRefusal, Task.recordStateTransition, transitionRefusalBetween,
        isTerminalState, validTransitions])
    · intro rejected
      exact absurd rejected (by decide)

variable (moved : Option Task)

theorem saveResumed_refused_iff :
    (saveResumed ledger moved).1 = false ↔ moved = none ∨ ledger.backend.next ≠ .accepted := by
  cases moved with
  | none => simp only [saveResumed, true_or]
  | some task =>
    by_cases accepted : ledger.backend.next = .accepted
    · have saved := save_accepted (ledger.putTask { task with blockedReason := none }) accepted
      simp only [saveResumed, saved, if_true, accepted, reduceCtorEq, ne_eq, not_true_eq_false,
        or_self]
    · have refused := save_refused (ledger.putTask { task with blockedReason := none }) accepted
      simp only [saveResumed, refused, Bool.false_eq_true, if_false, ne_eq, accepted,
        not_false_eq_true, or_true]

theorem saveResumed_undone (refused : (saveResumed ledger moved).1 = false) :
    (saveResumed ledger moved).2.tasks = ledger.tasks := by
  cases moved with
  | none => rfl
  | some task =>
    cases saved : (ledger.putTask { task with blockedReason := none }).save.1 with
    | true =>
      simp only [saveResumed, saved, if_true] at refused
      cases refused
    | false => simp only [saveResumed, saved, Bool.false_eq_true, if_false]

/-- An update is refused by the table, or by the save; nothing of it stays. -/
theorem updateTaskStatus_refused_iff (update : StatusUpdate) (now : Time)
    (found : ledger.getTask task.taskId = some task) (durable : update.deferSave = false) :
    (ledger.updateTaskStatus host task.taskId update now).1 = false ↔
      task.validateTransition update.status = false ∨ ledger.backend.next ≠ .accepted := by
  cases valid : task.validateTransition update.status with
  | false =>
    rw [updateTaskStatus_refused host ledger task.taskId update now]
    · simp only [true_or]
    · intro other same
      cases found.symm.trans same
      exact valid
  | true =>
    by_cases accepted : ledger.backend.next = .accepted
    · rw [updateTaskStatus_done host ledger task update now found durable valid accepted]
      simp only [accepted, reduceCtorEq, ne_eq, not_true_eq_false, or_self]
    · rw [updateTaskStatus_undone host ledger task update now found durable valid accepted]
      simp only [accepted, ne_eq, not_false_eq_true, or_true]

theorem updateTaskStatus_tasks (taskId : TaskId) (update : StatusUpdate) (now : Time)
    (refused : (ledger.updateTaskStatus host taskId update now).1 = false) :
    (ledger.updateTaskStatus host taskId update now).2.tasks = ledger.tasks := by
  cases updateTaskStatus_cases host ledger taskId update now with
  | unchanged ends => rw [ends]
  | undone _ _ _ _ _ ends => rw [ends]
  | deferred _ _ _ _ ends =>
    rw [ends] at refused
    cases refused
  | done _ _ _ _ _ ends =>
    rw [ends] at refused
    cases refused

theorem moveLedgerTask_route :
    moveLedgerTask host ledger task call =
      match route task.status call with
      | .resumes =>
          saveResumed ledger (task.resume s!"Resumed via ActionState.{call.state.value}" call.now)
      | .unblocks =>
          saveResumed ledger
            ((task.transitionTo .pending s!"Unblocked via ActionState.{call.state.value}"
                call.now).bind fun unblocked =>
              unblocked.transitionTo .inProgress s!"Resumed via ActionState.{call.state.value}"
                call.now)
      | .updates => ledger.updateTaskStatus host task.taskId (projectedUpdate call) call.now
      | .skips => (true, ledger) := by
  simp only [moveLedgerTask, route, Task.isTerminal, maskedFailurePrevented, recoverFailed]
  by_cases stopped : stateMap call.state = .inProgress ∧
      (task.status = .paused ∨ task.status = .userStopped)
  · rw [if_pos stopped, if_pos stopped]
  rw [if_neg stopped, if_neg stopped]
  by_cases blocked : stateMap call.state = .inProgress ∧ task.status = .blocked
  · rw [if_pos blocked, if_pos blocked]
  rw [if_neg blocked, if_neg blocked]
  by_cases same : task.status = stateMap call.state
  · rw [if_pos same, if_pos same]
  rw [if_neg same, if_neg same]
  by_cases finished : (isTerminalState task.status &&
      !decide (stateMap call.state = .completed ∧ task.status = .failed)) = true
  · simp only [finished, if_true]
  by_cases prevented : (isPossibleMaskedFailure
      (decide (stateMap call.state = .completed ∧ task.status = .failed)) call.state &&
        decide (call.bankedArtifactExists = some false)) = true
  · simp only [finished, prevented, Bool.false_eq_true, if_false, if_true]
  · simp only [finished, prevented, Bool.false_eq_true, if_false]

/-- A move is refused exactly if one of its steps is, and the tasks are then as before. -/
theorem moveLedgerTask_refused_iff (found : ledger.getTask task.taskId = some task) :
    (moveLedgerTask host ledger task call).1 = false ↔ StepRefused ledger task call := by
  rw [moveLedgerTask_route, StepRefused]
  cases route task.status call with
  | resumes =>
    rw [saveResumed_refused_iff, resume_none_iff]
  | unblocks =>
    rw [saveResumed_refused_iff, unblock_none_iff, or_assoc]
  | updates => exact updateTaskStatus_refused_iff host ledger task _ call.now found rfl
  | skips =>
    constructor
    · intro same
      cases same
    · exact False.elim

theorem moveLedgerTask_undone (refused : (moveLedgerTask host ledger task call).1 = false) :
    (moveLedgerTask host ledger task call).2.tasks = ledger.tasks := by
  rw [moveLedgerTask_route] at refused ⊢
  cases taken : route task.status call with
  | resumes =>
    rw [taken] at refused
    exact saveResumed_undone ledger _ refused
  | unblocks =>
    rw [taken] at refused
    exact saveResumed_undone ledger _ refused
  | updates =>
    rw [taken] at refused
    exact updateTaskStatus_tasks host ledger _ _ _ refused
  | skips => rfl

structure Untouched (before after : Hooks) : Prop where
  actionStates : after.actionStates = before.actionStates
  tasks : ∀ session, (after.ledgerRegistry session).map SmartLedger.tasks =
    (before.ledgerRegistry session).map SmartLedger.tasks
  tracking : after.tracking = before.tracking

theorem Untouched.refl : Untouched hooks hooks := ⟨rfl, fun _ => rfl, rfl⟩

theorem Untouched.ledgerTask (untouched : Untouched before after) (userPrompt : UserPrompt)
    (actionId : Int) :
    after.ledgerTask userPrompt actionId = before.ledgerTask userPrompt actionId := by
  have same := untouched.tasks userPrompt
  rw [Hooks.ledgerTask, Hooks.ledgerTask]
  cases old : before.ledgerRegistry userPrompt with
  | none =>
    rw [old, Option.map_none, Option.map_eq_none_iff] at same
    rw [same]
  | some ledger =>
    rw [old, Option.map_some, Option.map_eq_some_iff] at same
    obtain ⟨later, registered, tasks⟩ := same
    rw [registered, Option.bind_some, Option.bind_some, getTask, getTask, tasks]

theorem Untouched.putLedger (untouched : Untouched before after) (userPrompt : UserPrompt)
    (ledger later : SmartLedger) (held : before.ledgerRegistry userPrompt = some ledger)
    (same : later.tasks = ledger.tasks) :
    Untouched before (after.putLedger userPrompt later) where
  actionStates := untouched.actionStates
  tasks := by
    intro session
    rw [Hooks.putLedger]
    dsimp only
    by_cases here : session = userPrompt
    · subst here
      rw [Function.update_self, held, Option.map_some, Option.map_some, same]
    · rw [Function.update_of_ne here]
      exact untouched.tasks session
  tracking := untouched.tracking

theorem untouched_countMaskedFailure : Untouched hooks (hooks.countMaskedFailure task call) := by
  rw [Hooks.countMaskedFailure]
  split
  next => split <;> exact ⟨rfl, fun _ => rfl, rfl⟩
  next => exact Untouched.refl hooks

def SyncRefused (hooks : Hooks) (userPrompt : UserPrompt) (actionId : Int) (call : Call) : Prop :=
  ∃ ledger task, hooks.ledgerRegistry userPrompt = some ledger ∧
    ledger.getTask (actionTaskId actionId) = some task ∧ StepRefused ledger task call

theorem stepRefused_claim (claims : Bool) (now : Time) (task : Task) (call : Call) :
    StepRefused (ledger.putTask (claimTask claims now task)) (claimTask claims now task) call ↔
      StepRefused ledger task call := by
  cases claims <;> exact Iff.rfl

theorem autoSyncToLedger_refused_iff :
    (hooks.autoSyncToLedger host userPrompt actionId call).1 = false ↔
      SyncRefused hooks userPrompt actionId call := by
  rw [Hooks.autoSyncToLedger, SyncRefused]
  cases held : hooks.ledgerRegistry userPrompt with
  | none => simp only [Bool.true_eq_false, reduceCtorEq, false_and, exists_false]
  | some ledger =>
    cases found : ledger.getTask (actionTaskId actionId) with
    | none =>
      simp only [found, Bool.true_eq_false, Option.some.injEq, false_iff, not_exists, not_and]
      rintro other task rfl there
      rw [found] at there
      cases there
    | some task =>
      simp only [found, Option.some.injEq, exists_and_left, exists_eq_left']
      generalize claimsOwnership _ _ = claims
      have row : (ledger.putTask (claimTask claims call.now task)).getTask
          (claimTask claims call.now task).taskId =
            some (claimTask claims call.now task) := by
        rw [getTask_putTask, if_pos rfl]
      have steps := (moveLedgerTask_refused_iff host _ _ call row).trans
        (stepRefused_claim ledger claims call.now task call)
      rw [← steps]
      split
      next goes => rw [goes]
      next stops => simp only [Bool.not_eq_true] at stops; rw [stops]

theorem autoSyncToLedger_untouched
    (refused : (hooks.autoSyncToLedger host userPrompt actionId call).1 = false) :
    Untouched hooks (hooks.autoSyncToLedger host userPrompt actionId call).2 := by
  rw [Hooks.autoSyncToLedger] at refused ⊢
  cases held : hooks.ledgerRegistry userPrompt with
  | none => exact Untouched.refl hooks
  | some ledger =>
    cases found : ledger.getTask (actionTaskId actionId) with
    | none =>
      simp only [found]
      exact Untouched.refl hooks
    | some task =>
      simp only [held, found] at refused ⊢
      generalize claimsOwnership _ _ = claims at refused ⊢
      split at refused
      next => cases refused
      next stops =>
        rw [if_neg stops]
        have undone := moveLedgerTask_undone host _ _ call (Bool.eq_false_of_not_eq_true stops)
        have named := ledger.getTask_taskId _ task found
        have sameId := (claimTask_keeps claims call.now task).1
        -- The copy of the task undoes the claim; the move has left everything else alone.
        have restored : (moveLedgerTask host
            (ledger.putTask (claimTask claims call.now task))
            (claimTask claims call.now task) call).2.tasks.set task = ledger.tasks := by
          rw [undone]
          exact ledger.tasks.set_undo task _ sameId (named ▸ found)
        exact (untouched_countMaskedFailure hooks task call).putLedger userPrompt ledger _ held
          restored

theorem setActionState_untouched (error : StateTransitionError)
    (raised : (setActionState host hooks userPrompt actionId call).1 = .error error) :
    Untouched hooks (setActionState host hooks userPrompt actionId call).2 := by
  by_cases same : hooks.getActionState userPrompt actionId = call.state
  · rw [setActionState_same host call same]
    exact Untouched.refl hooks
  · cases valid : validateStateTransition (hooks.getActionState userPrompt actionId) call.state with
    | false =>
      rw [setActionState_invalid host call same valid]
      exact Untouched.refl hooks
    | true =>
      rw [setActionState_valid host call same valid] at raised ⊢
      split at raised
      next => cases raised
      next stops =>
        rw [if_neg stops]
        exact autoSyncToLedger_untouched host hooks userPrompt actionId call
          (Bool.eq_false_of_not_eq_true stops)

theorem setActionState_refused (moves : hooks.getActionState userPrompt actionId ≠ call.state)
    (valid : validateStateTransition (hooks.getActionState userPrompt actionId) call.state = true)
    (refused : SyncRefused hooks userPrompt actionId call) :
    (setActionState host hooks userPrompt actionId call).1 =
      .error (.ledgerPersistenceFailed actionId call.state) := by
  rw [setActionState_valid host call moves valid,
    (autoSyncToLedger_refused_iff host hooks userPrompt actionId call).mpr refused,
    if_neg Bool.false_ne_true]

theorem saveOrPutBack_refused_iff (before moved : Task) :
    (hooks.saveOrPutBack userPrompt ledger before moved).1 = false ↔
      ledger.backend.next ≠ .accepted := by
  rw [Hooks.saveOrPutBack]
  by_cases accepted : ledger.backend.next = .accepted
  · have saved := save_accepted (ledger.putTask moved) accepted
    simp only [saved, if_true, Bool.true_eq_false, accepted, ne_eq, not_true_eq_false]
  · have refused := save_refused (ledger.putTask moved) accepted
    simp only [refused, Bool.false_eq_true, if_false, accepted, ne_eq, not_false_eq_true]

theorem saveOrPutBack_untouched (before moved : Task)
    (held : hooks.ledgerRegistry userPrompt = some ledger)
    (found : ledger.getTask before.taskId = some before) (sameId : moved.taskId = before.taskId)
    (refused : (hooks.saveOrPutBack userPrompt ledger before moved).1 = false) :
    Untouched hooks (hooks.saveOrPutBack userPrompt ledger before moved).2 := by
  rw [Hooks.saveOrPutBack] at refused ⊢
  cases saved : (ledger.putTask moved).save.1 with
  | true =>
    simp only [saved, if_true] at refused
    cases refused
  | false =>
    exact (Untouched.refl hooks).putLedger userPrompt ledger _ held
      (ledger.tasks.set_undo before moved sameId found)

structure HasTask (hooks : Hooks) (userPrompt : UserPrompt) (actionId : Int) (status : Status)
    (ledger : SmartLedger) (task : Task) : Prop where
  held : hooks.ledgerRegistry userPrompt = some ledger
  found : ledger.getTask (actionTaskId actionId) = some task
  stands : task.status = status

section Gate
variable {hooks : Hooks} {userPrompt : UserPrompt} {actionId : Int} {ledger : SmartLedger}
  {task : Task}

theorem HasTask.self {status : Status}
    (has : HasTask hooks userPrompt actionId status ledger task) :
    ledger.getTask task.taskId = some task :=
  ledger.getTask_self _ task has.found

theorem move_taskId (task moved : Task) (newStatus : Status) (reason : String) (now : Time)
    (fields : Task → Task) (keeps : (fields task).taskId = task.taskId)
    (goes : task.move newStatus reason now fields = some moved) : moved.taskId = task.taskId := by
  rw [Task.move] at goes
  split at goes
  next =>
    cases goes
    exact keeps
  next => cases goes

variable (reason : String) (evidence : Option (EvidenceKey × Value)) (now : Time)

theorem blockForUserInput_absent
    (absent : ∀ ledger task, ¬ HasTask hooks userPrompt actionId .inProgress ledger task) :
    hooks.blockForUserInput userPrompt actionId reason now = (false, hooks) := by
  rw [Hooks.blockForUserInput]
  cases held : hooks.ledgerRegistry userPrompt with
  | none => rfl
  | some ledger =>
    cases found : ledger.getTask (actionTaskId actionId) with
    | none => simp only [found]
    | some task =>
      have other : task.status ≠ .inProgress := fun running =>
        absent ledger task ⟨held, found, running⟩
      simp only [found, ne_eq, other, not_false_eq_true, if_true]

theorem blockForUserInput_present
    (has : HasTask hooks userPrompt actionId .inProgress ledger task) :
    hooks.blockForUserInput userPrompt actionId reason now =
      match task.block reason now with
      | none => (false, hooks)
      | some blocked =>
          hooks.saveOrPutBack userPrompt ledger task
            (blocked.setBlockedReason (some "input_required") now) := by
  simp only [Hooks.blockForUserInput, has.held, has.found, ne_eq, has.stands, not_true_eq_false,
    if_false]

theorem blockForUserInput_refused (has : HasTask hooks userPrompt actionId .inProgress ledger task)
    (refused : task.validateTransition .blocked = false ∨ ledger.backend.next ≠ .accepted) :
    (hooks.blockForUserInput userPrompt actionId reason now).1 = false := by
  rw [blockForUserInput_present reason now has]
  cases goes : task.block reason now with
  | none => rfl
  | some blocked =>
    rcases refused with rejected | unsaved
    · have stays : task.block reason now = none := (move_none_iff task _ _ _ _).mpr rejected
      rw [stays] at goes
      cases goes
    · exact (saveOrPutBack_refused_iff hooks userPrompt ledger task _).mpr unsaved

theorem blockForUserInput_untouched
    (refused : (hooks.blockForUserInput userPrompt actionId reason now).1 = false) :
    Untouched hooks (hooks.blockForUserInput userPrompt actionId reason now).2 := by
  by_cases present : ∃ ledger task, HasTask hooks userPrompt actionId .inProgress ledger task
  · obtain ⟨ledger, task, has⟩ := present
    rw [blockForUserInput_present reason now has] at refused ⊢
    cases goes : task.block reason now with
    | none => exact Untouched.refl hooks
    | some blocked =>
      rw [goes] at refused
      have sameId : blocked.taskId = task.taskId := move_taskId task blocked _ _ _ _ rfl goes
      exact saveOrPutBack_untouched hooks userPrompt ledger task _ has.held has.self sameId
        refused
  · rw [blockForUserInput_absent reason now fun ledger task has => present ⟨ledger, task, has⟩]
    exact Untouched.refl hooks

theorem resumeBlockedAction_absent
    (absent : ∀ ledger task, ¬ HasTask hooks userPrompt actionId .blocked ledger task) :
    hooks.resumeBlockedAction userPrompt actionId reason evidence now = (.ok false, hooks) := by
  rw [Hooks.resumeBlockedAction]
  cases held : hooks.ledgerRegistry userPrompt with
  | none => rfl
  | some ledger =>
    cases found : ledger.getTask (actionTaskId actionId) with
    | none => simp only [found]
    | some task =>
      have other : task.status ≠ .blocked := fun waits =>
        absent ledger task ⟨held, found, waits⟩
      simp only [found, ne_eq, other, not_false_eq_true, if_true]

theorem resumeBlockedAction_present (has : HasTask hooks userPrompt actionId .blocked ledger task) :
    hooks.resumeBlockedAction userPrompt actionId reason evidence now =
      match task.resume reason now with
      | none => (.ok false, hooks)
      | some resumed =>
          match recordEvidence resumed.context evidence with
          | .error error => (.error error, hooks.putLedger userPrompt (ledger.putTask resumed))
          | .ok context =>
              let saved := hooks.saveOrPutBack userPrompt ledger task
                { resumed with context, blockedReason := none }
              (.ok saved.1, saved.2) := by
  simp only [Hooks.resumeBlockedAction, has.held, has.found, ne_eq, has.stands, not_true_eq_false,
    if_false]

theorem resume_keeps (task resumed : Task) (reason : String) (now : Time)
    (goes : task.resume reason now = some resumed) :
    resumed.taskId = task.taskId ∧ resumed.context = task.context := by
  rw [Task.resume, Task.move] at goes
  split at goes
  next =>
    cases goes
    exact ⟨rfl, rfl⟩
  next => cases goes

theorem resumeBlockedAction_refused (has : HasTask hooks userPrompt actionId .blocked ledger task)
    (refused : task.validateTransition .resuming = false ∨
      ((recordEvidence task.context evidence).isOk = true ∧ ledger.backend.next ≠ .accepted)) :
    (hooks.resumeBlockedAction userPrompt actionId reason evidence now).1 = .ok false := by
  rw [resumeBlockedAction_present reason evidence now has]
  cases goes : task.resume reason now with
  | none => rfl
  | some resumed =>
    rcases refused with rejected | ⟨recordable, unsaved⟩
    · rw [(resume_none_iff task reason now).mpr rejected] at goes
      cases goes
    · dsimp only
      rw [(resume_keeps task resumed reason now goes).2]
      cases recorded : recordEvidence task.context evidence with
      | error error =>
        rw [recorded] at recordable
        cases recordable
      | ok context =>
        exact congrArg Except.ok
          ((saveOrPutBack_refused_iff hooks userPrompt ledger task _).mpr unsaved)

theorem resumeBlockedAction_untouched
    (refused : (hooks.resumeBlockedAction userPrompt actionId reason evidence now).1 = .ok false) :
    Untouched hooks (hooks.resumeBlockedAction userPrompt actionId reason evidence now).2 := by
  by_cases present : ∃ ledger task, HasTask hooks userPrompt actionId .blocked ledger task
  · obtain ⟨ledger, task, has⟩ := present
    rw [resumeBlockedAction_present reason evidence now has] at refused ⊢
    cases goes : task.resume reason now with
    | none => exact Untouched.refl hooks
    | some resumed =>
      rw [goes] at refused
      dsimp only at refused ⊢
      cases recorded : recordEvidence resumed.context evidence with
      | error error =>
        rw [recorded] at refused
        cases refused
      | ok context =>
        rw [recorded] at refused
        exact saveOrPutBack_untouched hooks userPrompt ledger task _ has.held has.self
          (resume_keeps task resumed reason now goes).1 (Except.ok.inj refused)
  · rw [resumeBlockedAction_absent reason evidence now fun ledger task has =>
      present ⟨ledger, task, has⟩]
    exact Untouched.refl hooks

end Gate

/-- What is refused is answered with False, or raised by `set_action_state`, and leaves no
trace: no step of it, and no field of a task. -/
structure AllOrNothing (host : Host) (hooks : Hooks) (userPrompt : UserPrompt) (actionId : Int) :
    Prop where
  sync : ∀ call, (hooks.autoSyncToLedger host userPrompt actionId call).1 = false ↔
    SyncRefused hooks userPrompt actionId call
  syncUndone : ∀ call, (hooks.autoSyncToLedger host userPrompt actionId call).1 = false →
    Untouched hooks (hooks.autoSyncToLedger host userPrompt actionId call).2
  set : ∀ call, hooks.getActionState userPrompt actionId ≠ call.state →
    validateStateTransition (hooks.getActionState userPrompt actionId) call.state = true →
    SyncRefused hooks userPrompt actionId call →
    (setActionState host hooks userPrompt actionId call).1 =
      .error (.ledgerPersistenceFailed actionId call.state)
  setUndone : ∀ call error, (setActionState host hooks userPrompt actionId call).1 = .error error →
    Untouched hooks (setActionState host hooks userPrompt actionId call).2
  block : ∀ reason now ledger task, HasTask hooks userPrompt actionId .inProgress ledger task →
    (task.validateTransition .blocked = false ∨ ledger.backend.next ≠ .accepted) →
    (hooks.blockForUserInput userPrompt actionId reason now).1 = false
  blockUndone : ∀ reason now, (hooks.blockForUserInput userPrompt actionId reason now).1 = false →
    Untouched hooks (hooks.blockForUserInput userPrompt actionId reason now).2
  resume : ∀ reason evidence now ledger task,
    HasTask hooks userPrompt actionId .blocked ledger task →
    (task.validateTransition .resuming = false ∨
      ((recordEvidence task.context evidence).isOk = true ∧ ledger.backend.next ≠ .accepted)) →
    (hooks.resumeBlockedAction userPrompt actionId reason evidence now).1 = .ok false
  resumeUndone : ∀ reason evidence now,
    (hooks.resumeBlockedAction userPrompt actionId reason evidence now).1 = .ok false →
    Untouched hooks (hooks.resumeBlockedAction userPrompt actionId reason evidence now).2

theorem refusals_leave_no_trace (host : Host) (hooks : Hooks) (userPrompt : UserPrompt)
    (actionId : Int) : AllOrNothing host hooks userPrompt actionId where
  sync := autoSyncToLedger_refused_iff host hooks userPrompt actionId
  syncUndone := autoSyncToLedger_untouched host hooks userPrompt actionId
  set := setActionState_refused host hooks userPrompt actionId
  setUndone := setActionState_untouched host hooks userPrompt actionId
  block := fun reason now _ _ has => blockForUserInput_refused reason now has
  blockUndone := blockForUserInput_untouched
  resume := fun reason evidence now _ _ has => resumeBlockedAction_refused reason evidence now has
  resumeUndone := resumeBlockedAction_untouched

/-- A paused task is resumed in memory; the backend rejects the save, and it is paused again. -/
example :
    let ledger := sampleLedger [sampleTask "action_1" .paused] .rejected
    let hooks := sampleHooks.putLedger "7_42" ledger
    let synced := hooks.autoSyncToLedger sampleHost "7_42" 1 ⟨.inProgress, none, none, 1⟩
    synced.1 = false ∧ synced.2.ledgerTask "7_42" 1 = hooks.ledgerTask "7_42" 1 := by
  decide

end Hartos.Lifecycle
