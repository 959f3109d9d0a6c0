import Hartos.LifecycleHooks
import Hartos.Numerals

/-!
Action states rebuilt from a ledger. Every task whose id begins as an action's id does is
read as the number between the first two underscores, in the order of the ledger, and the
last task of a number decides.
-/
namespace Hartos.Lifecycle
open TaskStatus KeyedTable

def reverseMap : Status → Option ActionState
  | .pending => some .assigned
  | .inProgress => some .inProgress
  | .completed => some .terminated
  | .blocked => some .pending
  | .failed => some .error
  | .paused => some .fallbackRequested
  | .delegated => some .inProgress
  | .terminated => some .terminated
  | _ => none

def restoredState (status : Status) : ActionState := (reverseMap status).getD .assigned

def ActionState.isTerminal (state : ActionState) : Bool :=
  decide (state ∈ [ActionState.completed, .terminated, .error, .gaveUp])

section Restore
variable (decimal : Char → Option Nat)

/-- `int(task_id.split('_')[1])` of an id that starts as an action's. -/
def actionIdOf (taskId : TaskId) : Option Int :=
  if "action_".toList.isPrefixOf taskId.toList then
    ((taskId.toList.splitOn '_')[1]?).bind fun piece => intOfText decimal (String.ofList piece)
  else none

def restoreTask (userPrompt : UserPrompt) (restored : Nat × Hooks) (task : Task) : Nat × Hooks :=
  match actionIdOf decimal task.taskId with
  | none => restored
  | some actionId =>
      (restored.1 + 1, restored.2.putActionState userPrompt actionId (restoredState task.status))

def restoreActionStatesFromLedger (hooks : Hooks) (userPrompt : UserPrompt)
    (ledger : SmartLedger) : Nat × Hooks :=
  ledger.tasks.rows.foldl (restoreTask decimal userPrompt) (0, hooks)

def lastRead (ledger : SmartLedger) (actionId : Int) : Option Task :=
  (ledger.tasks.rows.filter fun task =>
    decide (actionIdOf decimal task.taskId = some actionId)).getLast?

def isOver (status : Status) : Bool := isTerminalState status || decide (status = .userStopped)

structure RestoredByName (hooks : Hooks) (userPrompt : UserPrompt) (ledger : SmartLedger)
    (actionId : Int) : Prop where
  named : ∀ task, ledger.tasks.get? (actionTaskId actionId) = some task →
    (restoreActionStatesFromLedger decimal hooks userPrompt ledger).2.actionStates userPrompt
      actionId = some (restoredState task.status)
  unnamed : ledger.tasks.get? (actionTaskId actionId) = none →
    (restoreActionStatesFromLedger decimal hooks userPrompt ledger).2.actionStates userPrompt
      actionId = hooks.actionStates userPrompt actionId
  finished : ∀ task, ledger.tasks.get? (actionTaskId actionId) = some task →
    isOver task.status = true → ∃ state,
      (restoreActionStatesFromLedger decimal hooks userPrompt ledger).2.actionStates userPrompt
        actionId = some state ∧ state.isTerminal = true

structure ReadByName (hooks : Hooks) (userPrompt : UserPrompt) (ledger : SmartLedger)
    (actionId : Int) : Prop where
  named : ∀ task, ledger.tasks.get? (actionTaskId actionId) = some task →
    ∀ last, lastRead decimal ledger actionId = some last →
      restoredState last.status = restoredState task.status
  unnamed : ledger.tasks.get? (actionTaskId actionId) = none →
    ∀ last, lastRead decimal ledger actionId = some last →
      hooks.actionStates userPrompt actionId = some (restoredState last.status)
  finished : ∀ task, ledger.tasks.get? (actionTaskId actionId) = some task →
    task.status ∉ [.cancelled, .skipped, .notApplicable, .rolledBack, .userStopped]

variable {decimal}
variable (hooks : Hooks) (userPrompt : UserPrompt) {status : Status}

theorem actionStates_put (actionId other : Int) (state : ActionState) :
    (hooks.putActionState userPrompt actionId state).actionStates userPrompt other =
      if other = actionId then some state else hooks.actionStates userPrompt other := by
  change Function.update hooks.actionStates userPrompt _ userPrompt other = _
  rw [Function.update_self, Function.update_apply]

-- What the loop leaves under a number is what the last task read as it says.
theorem actionStates_foldl (actionId : Int) (rows : List Task) (restored : Nat × Hooks) :
    (rows.foldl (restoreTask decimal userPrompt) restored).2.actionStates userPrompt actionId =
      match (rows.filter fun task =>
        decide (actionIdOf decimal task.taskId = some actionId)).getLast? with
      | some task => some (restoredState task.status)
      | none => restored.2.actionStates userPrompt actionId := by
  induction rows generalizing restored with
  | nil => rfl
  | cons task rest ih =>
    rw [List.foldl_cons, ih, restoreTask]
    cases read : actionIdOf decimal task.taskId with
    | none =>
      rw [List.filter_cons_of_neg]
      rw [read]
      exact Bool.false_ne_true
    | some other =>
      by_cases same : other = actionId
      · rw [List.filter_cons_of_pos (by simp [read, same]), List.getLast?_cons]
        cases (rest.filter fun task =>
            decide (actionIdOf decimal task.taskId = some actionId)).getLast? with
        | some last => rfl
        | none =>
            rw [actionStates_put, if_pos same.symm]
            rfl
      · rw [List.filter_cons_of_neg (by simp [read, same])]
        cases (rest.filter fun task =>
            decide (actionIdOf decimal task.taskId = some actionId)).getLast? with
        | some last => rfl
        | none =>
            rw [actionStates_put, if_neg fun here => same here.symm]

theorem actionStates_restored (ledger : SmartLedger) (actionId : Int) :
    (restoreActionStatesFromLedger decimal hooks userPrompt ledger).2.actionStates userPrompt
      actionId =
      match lastRead decimal ledger actionId with
      | some task => some (restoredState task.status)
      | none => hooks.actionStates userPrompt actionId :=
  actionStates_foldl userPrompt actionId ledger.tasks.rows (0, hooks)

theorem underscore_not_in_toString (value : Int) : '_' ∉ (toString value).toList := by
  cases value with
  | ofNat value =>
    change '_' ∉ value.repr.toList
    rw [Nat.toList_repr]
    exact Nat.underscore_not_in_toDigits
  | negSucc value =>
    change '_' ∉ ("-" ++ (value + 1).repr).toList
    rw [String.toList_append, Nat.toList_repr, List.mem_append, not_or]
    exact ⟨by decide, Nat.underscore_not_in_toDigits⟩

-- The task of an action's name is read as that action.
theorem actionIdOf_named (reads : ReadsDigits decimal) (actionId : Int)
    (writable : Writable actionId) :
    actionIdOf decimal (actionTaskId actionId) = some actionId := by
  have spelled : (actionTaskId actionId).toList =
      "action".toList ++ '_' :: (toString actionId).toList := by
    exact String.toList_append
  have starts : "action_".toList.isPrefixOf (actionTaskId actionId).toList = true := by
    rw [spelled, List.isPrefixOf_iff_prefix]
    exact ⟨(toString actionId).toList, rfl⟩
  rw [actionIdOf, if_pos starts, spelled, List.splitOn_append_cons_self_of_not_mem (by decide),
    List.splitOn_eq_singleton (underscore_not_in_toString actionId), List.getElem?_cons_succ,
    List.getElem?_cons_zero, Option.bind_some, String.ofList_toList]
  exact intOfText_toString reads actionId writable

/-- Where a task has an action's name, some task is the last that is read as the action. -/
theorem lastRead_named (reads : ReadsDigits decimal) {ledger : SmartLedger} {actionId : Int}
    (writable : Writable actionId) {task : Task}
    (here : ledger.tasks.get? (actionTaskId actionId) = some task) :
    ∃ last, lastRead decimal ledger actionId = some last := by
  have named : task.taskId = actionTaskId actionId := ledger.tasks.get?_key _ _ here
  have member : task ∈ ledger.tasks.rows.filter fun task =>
      decide (actionIdOf decimal task.taskId = some actionId) := by
    apply List.mem_filter.mpr
    refine ⟨ledger.tasks.get?_mem _ _ here, decide_eq_true ?_⟩
    rw [named]
    exact actionIdOf_named reads actionId writable
  rw [lastRead, List.getLast?_eq_some_getLast (List.ne_nil_of_mem member)]
  exact ⟨_, rfl⟩

-- Of the ways to be over, five are restored as an action still to be done.
theorem terminal_restored_iff (finished : isOver status = true) :
    (restoredState status).isTerminal = true ↔
      status ∉ [.cancelled, .skipped, .notApplicable, .rolledBack, .userStopped] := by
  revert finished
  cases status <;> decide

theorem open_restored (unfinished : ¬isOver status = true) :
    status ∉ [.cancelled, .skipped, .notApplicable, .rolledBack, .userStopped] := by
  revert unfinished
  cases status <;> decide

theorem restoredByName_iff (reads : ReadsDigits decimal) (hooks : Hooks) (userPrompt : UserPrompt)
    (ledger : SmartLedger) {actionId : Int} (writable : Writable actionId) :
    RestoredByName decimal hooks userPrompt ledger actionId ↔
      ReadByName decimal hooks userPrompt ledger actionId := by
  have after := @actionStates_restored decimal hooks userPrompt ledger actionId
  constructor
  · intro restored
    constructor
    · intro task here last read
      have state := restored.named task here
      rw [after, read] at state
      exact Option.some.inj state
    · intro none last read
      have state := restored.unnamed none
      rw [after, read] at state
      exact state.symm
    · intro task here
      by_cases ended : isOver task.status = true
      · obtain ⟨state, is, terminal⟩ := restored.finished task here ended
        rw [restored.named task here] at is
        obtain rfl := Option.some.inj is
        exact (terminal_restored_iff ended).mp terminal
      · exact open_restored ended
  · intro read
    have named (task : Task) (here : ledger.tasks.get? (actionTaskId actionId) = some task) :
        (restoreActionStatesFromLedger decimal hooks userPrompt ledger).2.actionStates userPrompt
          actionId = some (restoredState task.status) := by
      obtain ⟨last, is⟩ := lastRead_named reads writable here
      rw [after, is]
      exact congrArg some (read.named task here last is)
    refine ⟨named, fun none => ?_, fun task here ended => ?_⟩
    · rw [after]
      cases is : lastRead decimal ledger actionId with
      | none => rfl
      | some last => exact (read.unnamed none last is).symm
    · exact ⟨_, named task here, (terminal_restored_iff ended).mpr (read.finished task here)⟩

end Restore

/-- A ledger restores every action by the task of its name exactly when the last task that
is read as the action means the same, and none of those tasks is over in a way that the
reverse map leaves out. -/
theorem restored_by_name_iff (decimal : Char → Option Nat) (reads : ReadsDigits decimal)
    (hooks : Hooks) (userPrompt : UserPrompt) (ledger : SmartLedger) :
    (∀ actionId, Writable actionId → RestoredByName decimal hooks userPrompt ledger actionId) ↔
      ∀ actionId, Writable actionId → ReadByName decimal hooks userPrompt ledger actionId :=
  forall₂_congr fun _ writable => restoredByName_iff reads hooks userPrompt ledger writable

def restoringHooks : Hooks where
  actionStates := fun _ _ => none
  ledgerRegistry := fun _ => none
  tracking := fun _ _ => {}
  nodeId := "node"

def storedLedger (tasks : List Task) : SmartLedger where
  tasks := tasks.foldl Table.set (Table.empty Task.taskId)
  taskOrder := tasks.map Task.taskId
  events := []
  loadedTaskIds := []
  pubsub := false
  published := []
  backend := ⟨none, fun _ => .accepted, 0⟩

def storedTask (taskId : TaskId) (status : Status) : Task :=
  { Task.create taskId "work" .preAssigned 0 with status }

def doneWithStep : SmartLedger :=
  storedLedger [storedTask "action_1" .completed, storedTask "action_1_seq_1" .terminated]

-- Both tasks are read as action 1, so no other action has one.
theorem doneWithStep_else {actionId : Int} (writable : Writable actionId) (other : actionId ≠ 1) :
    doneWithStep.tasks.get? (actionTaskId actionId) = none ∧
      lastRead asciiDigit doneWithStep actionId = none := by
  have first : actionIdOf asciiDigit "action_1" = some 1 := by decide +kernel
  have second : actionIdOf asciiDigit "action_1_seq_1" = some 1 := by decide +kernel
  have elsewhere : some 1 ≠ some actionId := fun same => other (Option.some.inj same).symm
  have apart (taskId : TaskId) (read : actionIdOf asciiDigit taskId = some 1) :
      actionTaskId actionId ≠ taskId := by
    rintro rfl
    rw [actionIdOf_named asciiDigit_reads actionId writable] at read
    exact elsewhere read.symm
  constructor
  · apply (Table.get?_none _ _).mpr
    change _ ∉ ["action_1", "action_1_seq_1"]
    rw [List.mem_pair]
    exact not_or.mpr ⟨apart _ first, apart _ second⟩
  · change (List.filter _ [storedTask "action_1" _, storedTask "action_1_seq_1" _]).getLast? = _
    rw [List.filter_cons_of_neg, List.filter_cons_of_neg]
    · rfl
    · exact fun read => elsewhere (second.symm.trans (of_decide_eq_true read))
    · exact fun read => elsewhere (first.symm.trans (of_decide_eq_true read))

theorem doneWithStep_read {actionId : Int} (writable : Writable actionId) :
    ReadByName asciiDigit restoringHooks "7_42" doneWithStep actionId := by
  by_cases same : actionId = 1
  · subst same
    constructor
    · intro task is last isLast
      obtain rfl := Option.some.inj is
      obtain rfl := Option.some.inj isLast
      rfl
    · intro none
      cases none
    · intro task is
      obtain rfl := Option.some.inj is
      decide
  · obtain ⟨absent, unread⟩ := doneWithStep_else writable same
    constructor
    · intro task here
      rw [absent] at here
      cases here
    · intro _ last read
      rw [unread] at read
      cases read
    · intro task here
      rw [absent] at here
      cases here

theorem done_action_stays_done :
    RestoredByName asciiDigit restoringHooks "7_42" doneWithStep 1 :=
  (restored_by_name_iff asciiDigit asciiDigit_reads restoringHooks "7_42" doneWithStep).mpr
    (fun _ => doneWithStep_read) 1 (by decide +kernel)

def doneWithChild : SmartLedger :=
  storedLedger [storedTask "action_1" .completed, storedTask "action_1_child_1" .pending]

theorem child_overwrites_action :
    ¬ ∀ (decimal : Char → Option Nat) (hooks : Hooks) (userPrompt : UserPrompt)
      (ledger : SmartLedger) (actionId : Int), ReadsDigits decimal → Writable actionId →
      RestoredByName decimal hooks userPrompt ledger actionId := by
  intro always
  have restored := always asciiDigit restoringHooks "7_42" doneWithChild 1 asciiDigit_reads
    (by decide)
  have state := restored.named (storedTask "action_1" .completed) (by decide +kernel)
  revert state
  decide +kernel

end Hartos.Lifecycle
