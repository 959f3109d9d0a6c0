import Hartos.LedgerProjection
import Hartos.VerifiedCompletion

/-!
A verified completion as it is committed: the evidence is recorded and saved first, then the
state is written. The credit for the outcome comes after both and decides nothing.
-/
namespace Hartos.VerifiedCompletion
open Lifecycle TaskStatus KeyedTable
open SmartLedger (getTask getTask_putTask getTask_modifyTask save_accepted save_refused
  stageStatus_staged updateTaskStatus_cases updateTaskStatus_accepted sampleLedger sampleTask
  sampleHost)

structure Recorder where
  host : Host
  sha256 : String → String
  isoformat : Time → String

structure Conversation where
  groupChat : Option GroupChat
  actionText : Nat → String
  namedTools : Nat → List String

/-- One call. `cited` is the evidence as it came, `claimed` the action that the verdict names
when it names a number. -/
structure Completion where
  actionId : Nat
  evidence : Evidence
  cited : Value
  claimed : Option Int
  recordedAt : Time
  setAt : Time

def evidenceKey : String := "verification_evidence"

/-- The list under the key; `none` where something else stands there. -/
def evidenceRecords (context : Context) : Option (List Value) :=
  match lookup Prod.fst evidenceKey context.extra with
  | none => some []
  | some (_, .list records) => some records
  | some _ => none

def withRecords (task : Task) (records : List Value) : Task :=
  { task with
    context := { task.context with
      extra := put Prod.fst (evidenceKey, .list records) task.context.extra } }

def isActionId (actionId : Nat) : Value → Bool
  | .number value => decide (value = actionId)
  | .bool flag => decide ((if flag then 1 else 0) = actionId)
  | _ => false

def certifies (actionId : Nat) (digest : String) : Value → Bool
  | .dict fields =>
      (fields.lookup "action_id").any (isActionId actionId) &&
        decide (fields.lookup "receipt_sha256" = some (.text digest))
  | _ => false

def Message.body (message : Message) : String := message.content.getD ""

def evidenceRecord (recorder : Recorder) (call : Completion) (receipt : Message) : Value :=
  .dict [("agent", .text "StatusVerifier"), ("verdict", .bool true),
    ("action_id", .number call.actionId), ("evidence", call.cited),
    ("receipt_sha256", .text (recorder.sha256 receipt.body)), ("receipt_role", .text receipt.role),
    ("receipt_agent", .text receipt.name),
    ("timestamp", .text (recorder.isoformat call.recordedAt))]

/-- Something else than a list has no `append`, or is not even gone through. -/
inductive RecordError where
  | notAList
  deriving DecidableEq

section Commit
variable (recorder : Recorder) (userPrompt : UserPrompt) (conversation : Conversation)

def sessionOf (hooks : Hooks) (recordsEvidence : Nat → Evidence → Bool) (setsState : Nat → Bool) :
    Session where
  groupChat := conversation.groupChat
  actionText := conversation.actionText
  namedTools := conversation.namedTools
  actionState actionId := hooks.getActionState userPrompt actionId
  flowHasAction other := (hooks.ledgerTask userPrompt other).isSome
  recordsEvidence := recordsEvidence
  setsState := setsState

def gateSession (hooks : Hooks) : Session :=
  sessionOf userPrompt conversation hooks (fun _ _ => true) fun _ => true

def receiptOf (hooks : Hooks) (evidence : Evidence) : Option Message :=
  (resolveReceipt (gateSession userPrompt conversation hooks) evidence).map fun found => found.2.2

def recordVerifierEvidence (hooks : Hooks) (call : Completion) : Except RecordError Bool × Hooks :=
  match hooks.ledgerRegistry userPrompt with
  | none => (.ok false, hooks)
  | some ledger =>
      match ledger.getTask (actionTaskId call.actionId) with
      | none => (.ok false, hooks)
      | some task =>
          match receiptOf userPrompt conversation hooks call.evidence with
          | none => (.ok false, hooks)
          | some receipt =>
              match evidenceRecords task.context with
              | none => (.error .notAList, hooks)
              | some records =>
                  let digest := recorder.sha256 receipt.body
                  if records.any (certifies call.actionId digest) then (.ok true, hooks)
                  else
                    let record := evidenceRecord recorder call receipt
                    let saved := (ledger.putTask (withRecords task (records ++ [record]))).save
                    if saved.1 then (.ok true, hooks.putLedger userPrompt saved.2)
                    else
                      -- A list that `setdefault` made stays, without the record.
                      (.ok false, hooks.putLedger userPrompt
                        (saved.2.putTask (withRecords task ((records ++ [record]).erase record))))

def completionCall (hooks : Hooks) (call : Completion) : Call where
  state := .completed
  result := some (.text
    (((receiptOf userPrompt conversation hooks call.evidence).map Message.body).getD ""))
  now := call.setAt

variable (decimal : Char → Option Nat) (isWrittenAnswer : Message → Bool)

def accepts (hooks : Hooks) (call : Completion) : Bool :=
  let session := gateSession userPrompt conversation hooks
  let state := hooks.getActionState userPrompt call.actionId
  !(call.claimed.any fun other => other ≠ (call.actionId : Int) && session.flowHasAction other) &&
    decide (state = .statusVerificationRequested) &&
    hasConversationEvidence decimal isWrittenAnswer session call.actionId call.evidence &&
    validateStateTransition state .completed

def commitCompletion (hooks : Hooks) (call : Completion) : Except RecordError Bool × Hooks :=
  if accepts userPrompt conversation decimal isWrittenAnswer hooks call then
    match recordVerifierEvidence recorder userPrompt conversation hooks call with
    | (.ok true, recorded) =>
        let set := setActionState recorder.host recorded userPrompt call.actionId
          (completionCall userPrompt conversation hooks call)
        (.ok set.1.isOk, set.2)
    | refused => refused
  else (.ok false, hooks)

end Commit

def finished (status : Status) : Bool := isTerminalState status && decide (status ≠ .failed)

def completedStatus (status : Status) : Status := if finished status then status else .completed

section Moves
variable {userPrompt : UserPrompt} {actionId : Int} {call : Call}

theorem route_completed (completing : call.state = .completed) (status : Status) :
    route status call = if finished status then .skips else .updates := by
  rw [route, completing]
  cases status <;> rfl

theorem project_completed (completing : call.state = .completed) (view : LedgerView)
    {status : Status} (stands : view.status = some status) :
    view.project call =
      if finished status then some view
      else view.written (LedgerView.allows status .completed) .completed := by
  rw [LedgerView.project, stands]
  dsimp only
  rw [route_completed completing, completing]
  cases finished status <;> rfl

variable (host : Host) (hooks : Hooks)

-- A valid move of an action goes through exactly if its projection does.
theorem setActionState_viewed (moves : hooks.getActionState userPrompt actionId ≠ call.state)
    (valid : validateStateTransition (hooks.getActionState userPrompt actionId) call.state = true) :
    match (hooks.ledgerView userPrompt actionId).project call with
    | some view =>
        (setActionState host hooks userPrompt actionId call).1 = .ok () ∧
          (setActionState host hooks userPrompt actionId call).2 =
            (hooks.autoSyncToLedger host userPrompt actionId call).2.putActionState userPrompt
              actionId call.state ∧
          (hooks.autoSyncToLedger host userPrompt actionId call).1 = true ∧
          (setActionState host hooks userPrompt actionId call).2.ledgerView userPrompt actionId =
            view
    | none =>
        (setActionState host hooks userPrompt actionId call).1.isOk = false ∧
          Untouched hooks (setActionState host hooks userPrompt actionId call).2 := by
  have seen := autoSyncToLedger_viewed host hooks userPrompt actionId call
  rw [← seen, viewed, setActionState_valid host call moves valid]
  cases synced : (hooks.autoSyncToLedger host userPrompt actionId call).1 with
  | false => exact ⟨rfl, autoSyncToLedger_untouched host hooks userPrompt actionId call synced⟩
  | true => exact ⟨rfl, rfl, rfl, rfl⟩

theorem recordReason_context (state : ActionState) (now : Time) (task : Task) :
    (recordReason state now task).context = task.context := by
  cases state <;> try rfl
  rw [recordReason]
  split_ifs <;> rfl

theorem claimTask_context (claims : Bool) (now : Time) (task : Task) :
    (claimTask claims now task).context = task.context := by
  cases claims <;> rfl

theorem statusSet_extra {taskId : TaskId} {status : Status} {old new : Task}
    (set : SmartLedger.StatusSet taskId status old new) : new.context.extra = old.context.extra :=
  congrArg (fun task => task.context.extra) set.frame

theorem moveLedgerTask_extra (ledger : SmartLedger) (task : Task)
    (completing : call.state = .completed) (found : ledger.getTask task.taskId = some task) :
    ∃ later, (moveLedgerTask host ledger task call).2.getTask task.taskId = some later ∧
      later.context.extra = task.context.extra := by
  rw [moveLedgerTask_route, route_completed completing]
  cases finished task.status with
  | true => exact ⟨task, found, rfl⟩
  | false =>
    rw [if_neg Bool.false_ne_true]
    cases updateTaskStatus_cases host ledger task.taskId (projectedUpdate call) call.now with
    | unchanged ends =>
      rw [ends]
      exact ⟨task, found, rfl⟩
    | undone other there valid durable refused ends =>
      rw [ends]
      exact ⟨task, found, rfl⟩
    | deferred other there valid deferred ends => cases deferred
    | done other there valid durable accepted ends =>
      cases found.symm.trans there
      have staged := stageStatus_staged host ledger task (projectedUpdate call) call.now found
      obtain ⟨later, row, set⟩ := staged.getTask_some task.taskId task found
      have tasks := (updateTaskStatus_accepted host ledger task (projectedUpdate call) call.now
        found durable valid accepted).2
      exact ⟨later, by rw [getTask, tasks]; exact row, statusSet_extra set.set⟩

theorem autoSyncToLedger_extra (completing : call.state = .completed)
    (synced : (hooks.autoSyncToLedger host userPrompt actionId call).1 = true) {task : Task}
    (stands : hooks.ledgerTask userPrompt actionId = some task) :
    ∃ later,
      (hooks.autoSyncToLedger host userPrompt actionId call).2.ledgerTask userPrompt actionId =
        some later ∧ later.context.extra = task.context.extra := by
  obtain ⟨ledger, held, found⟩ := Option.bind_eq_some_iff.mp stands
  have named := ledger.getTask_taskId _ task found
  rw [Hooks.autoSyncToLedger] at synced ⊢
  simp only [held, found] at synced ⊢
  generalize claimsOwnership _ _ = claims at synced ⊢
  have keeps := claimTask_keeps claims call.now task
  have context := claimTask_context claims call.now task
  generalize claimTask claims call.now task = claimed at keeps context synced ⊢
  have row : (ledger.putTask claimed).getTask claimed.taskId = some claimed := by
    rw [getTask_putTask, if_pos rfl]
  obtain ⟨moved, there, extra⟩ := moveLedgerTask_extra host (ledger.putTask claimed) claimed
    completing row
  rw [keeps.1, named] at there
  split at synced
  next goes =>
    rw [if_pos goes]
    have reasoned (other : Task) : (recordReason call.state call.now other).taskId = other.taskId :=
      (recordReason_keeps call.state call.now other).1
    rw [Hooks.ledgerTask, Hooks.settleSync, Hooks.putTracking, Hooks.putLedger]
    dsimp only
    rw [Function.update_self, Option.bind_some, getTask_modifyTask, if_pos rfl, there]
    · refine ⟨_, rfl, ?_⟩
      rw [← context, ← extra]
      split <;> rw [recordReason_context]
    · intro other same
      split <;> exact (reasoned other).trans same
  next => cases synced

end Moves

structure Observed where
  state : ActionState
  status : Option Status
  result : Option Value
  records : List Value
  deriving DecidableEq

def recordsOf (task : Option Task) : List Value :=
  (task.bind fun task => evidenceRecords task.context).getD []

def observe (hooks : Hooks) (userPrompt : UserPrompt) (actionId : Int) : Observed where
  state := hooks.getActionState userPrompt actionId
  status := hooks.ledgerStatus userPrompt actionId
  result := (hooks.ledgerTask userPrompt actionId).bind Task.result
  records := recordsOf (hooks.ledgerTask userPrompt actionId)

structure Recordable (userPrompt : UserPrompt) (conversation : Conversation) (hooks : Hooks)
    (call : Completion) (ledger : SmartLedger) (task : Task) (receipt : Message)
    (records : List Value) : Prop where
  held : hooks.ledgerRegistry userPrompt = some ledger
  found : ledger.getTask (actionTaskId call.actionId) = some task
  cited : receiptOf userPrompt conversation hooks call.evidence = some receipt
  listed : evidenceRecords task.context = some records

section Outcome
variable {recorder : Recorder} {userPrompt : UserPrompt} {conversation : Conversation}
variable {decimal : Char → Option Nat} {isWrittenAnswer : Message → Bool}
variable {hooks : Hooks} {call : Completion} {ledger : SmartLedger} {task : Task}
variable {receipt : Message} {records : List Value}

theorem evidenceRecords_withRecords (task : Task) (records : List Value) :
    evidenceRecords (withRecords task records).context = some records := by
  rw [evidenceRecords, withRecords, lookup_put, if_pos rfl]

theorem Recordable.ledgerTask
    (recordable : Recordable userPrompt conversation hooks call ledger task receipt records) :
    hooks.ledgerTask userPrompt call.actionId = some task := by
  rw [Hooks.ledgerTask, recordable.held, Option.bind_some, recordable.found]

theorem observe_task {hooks : Hooks} {actionId : Int} {task : Task} {records : List Value}
    (stands : hooks.ledgerTask userPrompt actionId = some task)
    (listed : evidenceRecords task.context = some records) :
    observe hooks userPrompt actionId =
      ⟨hooks.getActionState userPrompt actionId, some task.status, task.result, records⟩ := by
  rw [observe, recordsOf, Hooks.ledgerStatus, stands, Option.bind_some, Option.bind_some, listed]
  rfl

theorem observe_withRecords
    (recordable : Recordable userPrompt conversation hooks call ledger task receipt records)
    {later : SmartLedger} {others : List Value}
    (row : later.getTask (actionTaskId call.actionId) = some (withRecords task others)) :
    observe (hooks.putLedger userPrompt later) userPrompt call.actionId =
      { observe hooks userPrompt call.actionId with records := others } := by
  have standing : (hooks.putLedger userPrompt later).ledgerTask userPrompt call.actionId =
      some (withRecords task others) := by
    rw [Hooks.ledgerTask, Hooks.putLedger]
    dsimp only
    rw [Function.update_self, Option.bind_some, row]
  rw [observe_task recordable.ledgerTask recordable.listed,
    observe_task standing (evidenceRecords_withRecords task others)]
  rfl

theorem recordVerifierEvidence_not
    (none : ∀ ledger task receipt records,
      ¬ Recordable userPrompt conversation hooks call ledger task receipt records) :
    (recordVerifierEvidence recorder userPrompt conversation hooks call).1 ≠ .ok true ∧
      (recordVerifierEvidence recorder userPrompt conversation hooks call).2 = hooks := by
  rw [recordVerifierEvidence]
  cases held : hooks.ledgerRegistry userPrompt with
  | none => exact ⟨by simp, rfl⟩
  | some ledger =>
    dsimp only
    cases found : ledger.getTask (actionTaskId call.actionId) with
    | none => exact ⟨by simp, rfl⟩
    | some task =>
      dsimp only
      cases cited : receiptOf userPrompt conversation hooks call.evidence with
      | none => exact ⟨by simp, rfl⟩
      | some receipt =>
        cases listed : evidenceRecords task.context with
        | none => exact ⟨by simp, rfl⟩
        | some records => exact absurd ⟨held, found, cited, listed⟩ (none _ _ _ _)

theorem recordVerifierEvidence_present
    (recordable : Recordable userPrompt conversation hooks call ledger task receipt records)
    (present : records.any (certifies call.actionId (recorder.sha256 receipt.body)) = true) :
    recordVerifierEvidence recorder userPrompt conversation hooks call = (.ok true, hooks) := by
  rw [recordVerifierEvidence, recordable.held]
  dsimp only
  rw [recordable.found]
  dsimp only
  rw [recordable.cited]
  rw [recordable.listed]
  dsimp only
  rw [if_pos present]

theorem isActionId_self (actionId : Nat) : isActionId actionId (.number actionId) = true :=
  decide_eq_true rfl

theorem certifies_evidenceRecord (receipt : Message) :
    certifies call.actionId (recorder.sha256 receipt.body)
      (evidenceRecord recorder call receipt) = true := by
  simp [certifies, evidenceRecord, List.lookup_cons, isActionId_self]

theorem erase_new
    (fresh : records.any (certifies call.actionId (recorder.sha256 receipt.body)) = false) :
    (records ++ [evidenceRecord recorder call receipt]).erase
      (evidenceRecord recorder call receipt) = records := by
  have absent : evidenceRecord recorder call receipt ∉ records := by
    intro member
    have certified := List.any_eq_false.mp fresh _ member
    exact certified (certifies_evidenceRecord receipt)
  rw [List.erase_append_right _ absent, List.erase_cons_head, List.append_nil]

theorem recordVerifierEvidence_new
    (recordable : Recordable userPrompt conversation hooks call ledger task receipt records)
    (fresh : records.any (certifies call.actionId (recorder.sha256 receipt.body)) = false) :
    recordVerifierEvidence recorder userPrompt conversation hooks call =
      let record := evidenceRecord recorder call receipt
      let saved := (ledger.putTask (withRecords task (records ++ [record]))).save
      if saved.1 then (.ok true, hooks.putLedger userPrompt saved.2)
      else
        (.ok false, hooks.putLedger userPrompt (saved.2.putTask (withRecords task records))) := by
  rw [recordVerifierEvidence, recordable.held]
  dsimp only
  rw [recordable.found]
  dsimp only
  rw [recordable.cited]
  rw [recordable.listed]
  dsimp only
  rw [fresh, if_neg Bool.false_ne_true, erase_new fresh]

variable (recorder userPrompt conversation hooks call) in
inductive RecordEnd : Except RecordError Bool × Hooks → Prop
  | refused (answer : Except RecordError Bool) (after : Hooks) (answered : answer ≠ .ok true)
      (same : observe after userPrompt call.actionId = observe hooks userPrompt call.actionId)
      (unsaved : ∀ ledger task receipt records,
        Recordable userPrompt conversation hooks call ledger task receipt records →
          records.any (certifies call.actionId (recorder.sha256 receipt.body)) = false ∧
            ledger.backend.next ≠ .accepted) :
      RecordEnd (answer, after)
  | present (ledger : SmartLedger) (task : Task) (receipt : Message) (records : List Value)
      (recordable : Recordable userPrompt conversation hooks call ledger task receipt records)
      (present : records.any (certifies call.actionId (recorder.sha256 receipt.body)) = true) :
      RecordEnd (.ok true, hooks)
  | recorded (ledger : SmartLedger) (task : Task) (receipt : Message) (records : List Value)
      (recordable : Recordable userPrompt conversation hooks call ledger task receipt records)
      (fresh : records.any (certifies call.actionId (recorder.sha256 receipt.body)) = false)
      (accepted : ledger.backend.next = .accepted) (later : SmartLedger)
      (verdict : later.backend.verdict = ledger.backend.verdict)
      (writes : later.backend.writes = ledger.backend.writes + 1)
      (row : later.getTask (actionTaskId call.actionId) =
        some (withRecords task (records ++ [evidenceRecord recorder call receipt]))) :
      RecordEnd (.ok true, hooks.putLedger userPrompt later)

theorem recordVerifierEvidence_end :
    RecordEnd recorder userPrompt conversation hooks call
      (recordVerifierEvidence recorder userPrompt conversation hooks call) := by
  by_cases some : ∃ ledger task receipt records,
      Recordable userPrompt conversation hooks call ledger task receipt records
  · obtain ⟨ledger, task, receipt, records, recordable⟩ := some
    have named := ledger.getTask_taskId _ task recordable.found
    cases fresh : records.any (certifies call.actionId (recorder.sha256 receipt.body)) with
    | true =>
      rw [recordVerifierEvidence_present recordable fresh]
      exact .present ledger task receipt records recordable fresh
    | false =>
      rw [recordVerifierEvidence_new recordable fresh]
      dsimp only
      generalize noted :
        withRecords task (records ++ [evidenceRecord recorder call receipt]) = new
      by_cases accepted : ledger.backend.next = .accepted
      · rw [save_accepted (ledger.putTask new) accepted, if_pos rfl, ← noted]
        exact .recorded ledger task receipt records recordable fresh accepted _ rfl rfl
          ((getTask_putTask ledger _ _).trans (if_pos named))
      · rw [save_refused (ledger.putTask new) accepted, if_neg Bool.false_ne_true]
        apply RecordEnd.refused
        · intro same
          cases same
        · rw [observe_withRecords recordable ((getTask_putTask _ _ _).trans (if_pos named)),
            observe_task recordable.ledgerTask recordable.listed]
        · intro ledger' task' receipt' records' other
          cases recordable.held.symm.trans other.held
          cases recordable.found.symm.trans other.found
          cases recordable.cited.symm.trans other.cited
          cases recordable.listed.symm.trans other.listed
          exact ⟨fresh, accepted⟩
  · have nothing := @recordVerifierEvidence_not recorder userPrompt conversation hooks call
      fun ledger task receipt records recordable =>
        some ⟨ledger, task, receipt, records, recordable⟩
    have same := congrArg (observe · userPrompt call.actionId) nothing.2
    exact .refused _ _ nothing.1 same fun ledger task receipt records recordable =>
      absurd ⟨ledger, task, receipt, records, recordable⟩ some

theorem observe_untouched {before after : Hooks} (untouched : Untouched before after)
    (actionId : Int) : observe after userPrompt actionId = observe before userPrompt actionId := by
  rw [observe, observe, recordsOf, recordsOf, Hooks.ledgerStatus, Hooks.ledgerStatus,
    untouched.ledgerTask, Hooks.getActionState, Hooks.getActionState, untouched.actionStates]

theorem evidenceRecords_extra {first second : Context} (same : first.extra = second.extra) :
    evidenceRecords first = evidenceRecords second := by
  rw [evidenceRecords, evidenceRecords, same]

def Completes (ledger : SmartLedger) (status : Status) : Prop :=
  finished status = true ∨
    (LedgerView.allows status .completed = true ∧ ledger.backend.next = .accepted)

section

variable {move : Call} (completing : move.state = .completed)
include completing

theorem project_isSome_iff (found : ledger.getTask (actionTaskId call.actionId) = some task) :
    ((viewOf ledger (actionTaskId call.actionId)).project move).isSome = true ↔
      Completes ledger task.status := by
  rw [viewOf_found ledger _ task found, project_completed completing _ rfl, Completes]
  cases finished task.status with
  | true => exact ⟨fun _ => Or.inl rfl, fun _ => rfl⟩
  | false =>
    rw [if_neg Bool.false_ne_true, LedgerView.written]
    split
    next both => simpa [Backend.next] using both
    next neither => simpa [Backend.next] using neither

theorem project_status (found : ledger.getTask (actionTaskId call.actionId) = some task)
    {view : LedgerView}
    (goes : (viewOf ledger (actionTaskId call.actionId)).project move = some view) :
    view.status = some (completedStatus task.status) := by
  rw [viewOf_found ledger _ task found, project_completed completing _ rfl] at goes
  rw [completedStatus]
  cases done : finished task.status with
  | true =>
    rw [done, if_pos rfl] at goes
    rw [← Option.some.inj goes, if_pos rfl]
  | false =>
    rw [done, if_neg Bool.false_ne_true, LedgerView.written] at goes
    split at goes
    next => rw [← Option.some.inj goes, if_neg Bool.false_ne_true]
    next => cases goes

/-- What the write of the state leaves of a ledger that holds the records. -/
theorem setActionState_observed (host : Host)
    (verifying : hooks.getActionState userPrompt call.actionId = .statusVerificationRequested)
    (held : hooks.ledgerRegistry userPrompt = some ledger)
    (found : ledger.getTask (actionTaskId call.actionId) = some task)
    (listed : evidenceRecords task.context = some records) :
    let set := setActionState host hooks userPrompt call.actionId move
    (Completes ledger task.status → set.1.isOk = true ∧
      (observe set.2 userPrompt call.actionId).state = .completed ∧
      (observe set.2 userPrompt call.actionId).status = some (completedStatus task.status) ∧
      (observe set.2 userPrompt call.actionId).records = records) ∧
    (¬ Completes ledger task.status → set.1.isOk = false ∧
      observe set.2 userPrompt call.actionId = observe hooks userPrompt call.actionId) := by
  have moves : hooks.getActionState userPrompt call.actionId ≠ move.state := by
    rw [verifying, completing]
    decide
  have valid : validateStateTransition (hooks.getActionState userPrompt call.actionId) move.state =
      true := by
    rw [verifying, completing]
    rfl
  have ends := setActionState_viewed host hooks moves valid
  have completes := @project_isSome_iff call ledger task move completing found
  have standing : hooks.ledgerView userPrompt call.actionId =
      viewOf ledger (actionTaskId call.actionId) := by
    rw [Hooks.ledgerView, held]
  rw [standing] at ends
  cases goes : (viewOf ledger (actionTaskId call.actionId)).project move with
  | none =>
    rw [goes] at ends completes
    exact ⟨fun whole => absurd (completes.mpr whole) Bool.false_ne_true,
      fun _ => ⟨ends.1, observe_untouched ends.2 _⟩⟩
  | some view =>
    rw [goes] at ends completes
    obtain ⟨answered, later, synced, viewed⟩ := ends
    have ledgerTask : hooks.ledgerTask userPrompt call.actionId = some task := by
      rw [Hooks.ledgerTask, held, Option.bind_some, found]
    obtain ⟨row, there, extra⟩ := autoSyncToLedger_extra host hooks completing synced ledgerTask
    refine ⟨fun _ => ⟨?_, ?_, ?_, ?_⟩, fun partly => absurd (completes.mp rfl) partly⟩
    · rw [answered]
      rfl
    · rw [later, ← completing]
      exact getActionState_putActionState _ move.state
    · rw [← project_status completing found goes, ← viewed, ledgerView_status]
      rfl
    · have stays : (setActionState host hooks userPrompt call.actionId move).2.ledgerTask
          userPrompt call.actionId = some row := by
        rw [later]
        exact there
      rw [observe_task stays ((evidenceRecords_extra extra).trans listed)]

end

end Outcome

section Claims
variable (recorder : Recorder) (userPrompt : UserPrompt) (conversation : Conversation)
variable (decimal : Char → Option Nat) (isWrittenAnswer : Message → Bool)

/-- The call is accepted and its record is new; the record is saved, and the write of the state
behind it goes wrong: the ledger refuses the move of the task or the backend the second save. -/
def Stranded (hooks : Hooks) (call : Completion) (record : Value) : Prop :=
  accepts userPrompt conversation decimal isWrittenAnswer hooks call = true ∧
    ∃ ledger task receipt records,
      Recordable userPrompt conversation hooks call ledger task receipt records ∧
        record = evidenceRecord recorder call receipt ∧
        records.any (certifies call.actionId (recorder.sha256 receipt.body)) = false ∧
        ledger.backend.next = .accepted ∧
        finished task.status = false ∧
        ¬ (LedgerView.allows task.status .completed = true ∧
          ledger.backend.verdict (ledger.backend.writes + 1) = .accepted)

def OnRecord (hooks : Hooks) (call : Completion) (records : List Value) : Prop :=
  ∃ receipt, receiptOf userPrompt conversation hooks call.evidence = some receipt ∧
    ∃ record ∈ records, certifies call.actionId (recorder.sha256 receipt.body) record = true

structure CommitEnd (hooks : Hooks) (call : Completion) (answer : Except RecordError Bool)
    (after : Hooks) : Prop where
  completed : answer = .ok true →
    (observe after userPrompt call.actionId).state = .completed ∧
      (∃ status, (observe hooks userPrompt call.actionId).status = some status ∧
        (observe after userPrompt call.actionId).status = some (completedStatus status)) ∧
      OnRecord recorder userPrompt conversation hooks call
        (observe after userPrompt call.actionId).records
  kept : answer = .ok false →
    (∀ record,
      ¬ Stranded recorder userPrompt conversation decimal isWrittenAnswer hooks call record) →
      observe after userPrompt call.actionId = observe hooks userPrompt call.actionId
  stranded : ∀ record,
    Stranded recorder userPrompt conversation decimal isWrittenAnswer hooks call record →
      answer = .ok false ∧ observe after userPrompt call.actionId =
        { observe hooks userPrompt call.actionId with
          records := (observe hooks userPrompt call.actionId).records ++ [record] }
  again : OnRecord recorder userPrompt conversation hooks call
      (observe hooks userPrompt call.actionId).records →
    (observe after userPrompt call.actionId).records =
      (observe hooks userPrompt call.actionId).records

end Claims

section Outcome
variable {recorder : Recorder} {userPrompt : UserPrompt} {conversation : Conversation}
variable {decimal : Char → Option Nat} {isWrittenAnswer : Message → Bool}
variable {hooks : Hooks} {call : Completion}

theorem accepts_state
    (accepted : accepts userPrompt conversation decimal isWrittenAnswer hooks call = true) :
    hooks.getActionState userPrompt call.actionId = .statusVerificationRequested := by
  rw [accepts] at accepted
  simp only [Bool.and_eq_true, decide_eq_true_eq] at accepted
  exact accepted.1.1.2

/-- The two facts that a call stands on are the same however they are read. -/
theorem Recordable.unique {ledger ledger' : SmartLedger} {task task' : Task}
    {receipt receipt' : Message} {records records' : List Value}
    (first : Recordable userPrompt conversation hooks call ledger task receipt records)
    (second : Recordable userPrompt conversation hooks call ledger' task' receipt' records') :
    ledger' = ledger ∧ task' = task ∧ receipt' = receipt ∧ records' = records := by
  cases first.held.symm.trans second.held
  cases first.found.symm.trans second.found
  cases first.cited.symm.trans second.cited
  cases first.listed.symm.trans second.listed
  exact ⟨rfl, rfl, rfl, rfl⟩

theorem commitEnd_refused
    (refused : accepts userPrompt conversation decimal isWrittenAnswer hooks call = false) :
    CommitEnd recorder userPrompt conversation decimal isWrittenAnswer hooks call (.ok false)
      hooks where
  completed := fun same => by cases same
  kept := fun _ _ => rfl
  stranded := fun record stranded => absurd (refused.symm.trans stranded.1) Bool.false_ne_true
  again := fun _ => rfl

theorem commitEnd_unrecorded {answer : Except RecordError Bool} {after : Hooks}
    (answered : answer ≠ .ok true)
    (same : observe after userPrompt call.actionId = observe hooks userPrompt call.actionId)
    (unsaved : ∀ ledger task receipt records,
      Recordable userPrompt conversation hooks call ledger task receipt records →
        records.any (certifies call.actionId (recorder.sha256 receipt.body)) = false ∧
          ledger.backend.next ≠ .accepted) :
    CommitEnd recorder userPrompt conversation decimal isWrittenAnswer hooks call answer
      after where
  completed := fun done => absurd done answered
  kept := fun _ _ => same
  stranded := by
    rintro record ⟨_, ledger, task, receipt, records, recordable, _, _, accepted, _⟩
    exact absurd accepted (unsaved ledger task receipt records recordable).2
  again := fun _ => congrArg Observed.records same

theorem onRecord_iff {ledger : SmartLedger} {task : Task} {receipt : Message} {records : List Value}
    (recordable : Recordable userPrompt conversation hooks call ledger task receipt records)
    (others : List Value) :
    OnRecord recorder userPrompt conversation hooks call others ↔
      others.any (certifies call.actionId (recorder.sha256 receipt.body)) = true := by
  rw [List.any_eq_true]
  constructor
  · rintro ⟨cited, found, certified⟩
    cases recordable.cited.symm.trans found
    exact certified
  · exact fun certified => ⟨receipt, recordable.cited, certified⟩

/-- The receipt was on record: all there is to do is the write of the state. -/
theorem commitEnd_present
    (accepted : accepts userPrompt conversation decimal isWrittenAnswer hooks call = true)
    {ledger : SmartLedger} {task : Task} {receipt : Message} {records : List Value}
    (recordable : Recordable userPrompt conversation hooks call ledger task receipt records)
    (present : records.any (certifies call.actionId (recorder.sha256 receipt.body)) = true)
    {move : Call} (completing : move.state = .completed) :
    CommitEnd recorder userPrompt conversation decimal isWrittenAnswer hooks call
      (.ok (setActionState recorder.host hooks userPrompt call.actionId move).1.isOk)
      (setActionState recorder.host hooks userPrompt call.actionId move).2 := by
  have seen := observe_task recordable.ledgerTask recordable.listed
  obtain ⟨whole, partly⟩ := setActionState_observed completing recorder.host
    (accepts_state accepted) recordable.held recordable.found recordable.listed
  have never (record : Value) : ¬ Stranded recorder userPrompt conversation decimal
      isWrittenAnswer hooks call record := by
    rintro ⟨_, ledger', task', receipt', records', other, _, fresh, _⟩
    obtain ⟨rfl, rfl, rfl, rfl⟩ := recordable.unique other
    exact absurd (present.symm.trans fresh) (by decide)
  by_cases completes : Completes ledger task.status
  · obtain ⟨answered, state, status, kept⟩ := whole completes
    rw [answered]
    constructor
    · refine fun _ => ⟨state, ⟨task.status, congrArg Observed.status seen, status⟩, ?_⟩
      rw [kept, onRecord_iff recordable]
      exact present
    · intro same
      cases same
    · exact fun record stranded => absurd stranded (never record)
    · exact fun _ => kept.trans (congrArg Observed.records seen).symm
  · obtain ⟨answered, same⟩ := partly completes
    rw [answered]
    constructor
    · intro done
      cases done
    · exact fun _ _ => same
    · exact fun record stranded => absurd stranded (never record)
    · exact fun _ => congrArg Observed.records same

/-- The receipt has come on record: the record stays whether or not the state is written. -/
theorem commitEnd_recorded
    (accepted : accepts userPrompt conversation decimal isWrittenAnswer hooks call = true)
    {ledger later : SmartLedger} {task : Task} {receipt : Message} {records : List Value}
    (recordable : Recordable userPrompt conversation hooks call ledger task receipt records)
    (fresh : records.any (certifies call.actionId (recorder.sha256 receipt.body)) = false)
    (saved : ledger.backend.next = .accepted)
    (verdict : later.backend.verdict = ledger.backend.verdict)
    (writes : later.backend.writes = ledger.backend.writes + 1)
    (row : later.getTask (actionTaskId call.actionId) =
      some (withRecords task (records ++ [evidenceRecord recorder call receipt])))
    {move : Call} (completing : move.state = .completed) :
    CommitEnd recorder userPrompt conversation decimal isWrittenAnswer hooks call
      (.ok (setActionState recorder.host (hooks.putLedger userPrompt later) userPrompt
        call.actionId move).1.isOk)
      (setActionState recorder.host (hooks.putLedger userPrompt later) userPrompt call.actionId
        move).2 := by
  have seen := observe_task recordable.ledgerTask recordable.listed
  have noted := observe_withRecords recordable row
  have verified := accepts_state accepted
  have verifying : (hooks.putLedger userPrompt later).getActionState userPrompt call.actionId =
      .statusVerificationRequested := by
    rw [← verified]
    rfl
  have held : (hooks.putLedger userPrompt later).ledgerRegistry userPrompt = some later :=
    Function.update_self ..
  have listed := evidenceRecords_withRecords task
    (records ++ [evidenceRecord recorder call receipt])
  obtain ⟨whole, partly⟩ := setActionState_observed completing recorder.host verifying held row
    listed
  have new : ¬ OnRecord recorder userPrompt conversation hooks call
      (observe hooks userPrompt call.actionId).records := by
    rw [seen, onRecord_iff recordable, fresh]
    exact Bool.false_ne_true
  have completes_iff : Completes later task.status ↔ finished task.status = true ∨
      (LedgerView.allows task.status .completed = true ∧
        ledger.backend.verdict (ledger.backend.writes + 1) = .accepted) := by
    rw [Completes, Backend.next, verdict, writes]
  by_cases completes : Completes later task.status
  · obtain ⟨answered, state, status, kept⟩ := whole completes
    rw [answered]
    constructor
    · refine fun _ => ⟨state, ⟨task.status, congrArg Observed.status seen, status⟩, ?_⟩
      rw [kept, onRecord_iff recordable, List.any_append]
      rw [List.any_cons, certifies_evidenceRecord, Bool.true_or, Bool.or_true]
    · intro same
      cases same
    · rintro record ⟨_, ledger', task', receipt', records', other, _, _, _, runs, refused⟩
      obtain ⟨rfl, rfl, rfl, rfl⟩ := recordable.unique other
      rcases completes_iff.mp completes with done | goes
      · exact absurd (runs.symm.trans done) Bool.false_ne_true
      · exact absurd goes refused
    · exact fun held => absurd held new
  · obtain ⟨answered, same⟩ := partly completes
    rw [answered]
    have refused := mt completes_iff.mpr completes
    rw [not_or, Bool.not_eq_true] at refused
    constructor
    · intro done
      cases done
    · exact fun _ never => absurd ⟨accepted, ledger, task, receipt, records, recordable, rfl, fresh,
        saved, refused⟩ (never _)
    · rintro record ⟨_, ledger', task', receipt', records', other, rfl, _⟩
      obtain ⟨rfl, rfl, rfl, rfl⟩ := recordable.unique other
      refine ⟨rfl, same.trans (noted.trans ?_)⟩
      rw [seen]
    · exact fun held => absurd held new

end Outcome

/-- A call that answers True has the action COMPLETED and its receipt on record, with the ledger
task COMPLETED or finished before; one that answers False changes nothing but, where the write of
the state fails behind it, the one record of the receipt, which no later call adds again. -/
theorem completion_all_or_evidence (recorder : Recorder) (userPrompt : UserPrompt)
    (conversation : Conversation) (decimal : Char → Option Nat) (isWrittenAnswer : Message → Bool)
    (hooks : Hooks) (call : Completion) :
    CommitEnd recorder userPrompt conversation decimal isWrittenAnswer hooks call
      (commitCompletion recorder userPrompt conversation decimal isWrittenAnswer hooks call).1
      (commitCompletion recorder userPrompt conversation decimal isWrittenAnswer hooks call).2 := by
  rw [commitCompletion]
  cases accepted : accepts userPrompt conversation decimal isWrittenAnswer hooks call with
  | false => exact commitEnd_refused accepted
  | true =>
    have ends := @recordVerifierEvidence_end recorder userPrompt conversation hooks call
    generalize recordVerifierEvidence recorder userPrompt conversation hooks call = recorded
      at ends
    have completing : (completionCall userPrompt conversation hooks call).state = .completed :=
      rfl
    cases ends with
    | refused answer after answered same unsaved =>
      have stopped := @commitEnd_unrecorded recorder userPrompt conversation decimal
        isWrittenAnswer hooks call answer after answered same unsaved
      cases answer with
      | error error => exact stopped
      | ok goes =>
        cases goes with
        | false => exact stopped
        | true => exact absurd rfl answered
    | present ledger task receipt records recordable present =>
      exact commitEnd_present accepted recordable present completing
    | recorded ledger task receipt records recordable fresh saved later verdict writes row =>
      exact commitEnd_recorded accepted recordable fresh saved verdict writes row completing

/-! A task that was cancelled stays so; a receipt is saved, and the status behind it is not. -/

section Samples

def verifyingHooks (status : Status) (verdict : Nat → Verdict) : Hooks where
  actionStates := fun _ _ => some .statusVerificationRequested
  ledgerRegistry := fun _ =>
    some { sampleLedger [sampleTask "action_2" status] .accepted with
      backend := ⟨none, verdict, 0⟩ }
  tracking := fun _ _ => {}
  nodeId := "node"

def sampleRecorder : Recorder where
  host := sampleHost
  sha256 := id
  isoformat _ := "2026-09-24T00:00:00+00:00"

def sampleConversation : Conversation where
  groupChat := some ⟨attempt, []⟩
  actionText _ := "read_file"
  namedTools _ := ["read_file"]

def sampleCompletion : Completion where
  actionId := 2
  evidence := sampleEvidence
  cited := .dict [("kind", .text "tool_receipt"), ("message_index", .number 2)]
  claimed := some 2
  recordedAt := 1
  setAt := 2

def sampleCommit (hooks : Hooks) : Except RecordError Bool × Hooks :=
  commitCompletion sampleRecorder "7_42" sampleConversation asciiDigit (fun _ => false) hooks
    sampleCompletion

def firstOnly (write : Nat) : Verdict := if write = 0 then .accepted else .rejected

theorem evidence_outlives_refusal :
    ((sampleCommit (verifyingHooks .cancelled fun _ => .accepted)).1 = .ok true ∧
      (sampleCommit (verifyingHooks .cancelled fun _ => .accepted)).2.ledgerStatus "7_42" 2 =
        some .cancelled) ∧
    ((sampleCommit (verifyingHooks .inProgress firstOnly)).1 = .ok false ∧
      (observe (verifyingHooks .inProgress firstOnly) "7_42" 2).records.length = 0 ∧
      (observe (sampleCommit (verifyingHooks .inProgress firstOnly)).2 "7_42" 2).records.length =
        1) := by
  decide +kernel

end Samples

end Hartos.VerifiedCompletion
