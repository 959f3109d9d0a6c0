import Hartos.PaymentLedger
import Hartos.StepSystem
import Mathlib.Logic.Function.Basic

/-!
A payment ledger under any number of threads: every locked section is one event,
and so is every call of a gateway, which holds no lock. What a finished payment
still goes through is decided where an answer is committed: the commit asks
nothing about the status it finds.
-/
namespace Hartos.Ap2
open KeyedTable StepSystem

structure SameTerms (old new : PaymentRequest) : Prop where
  paymentId : new.paymentId = old.paymentId
  amount : new.amount = old.amount
  currency : new.currency = old.currency
  requester : new.requesterAgentId = old.requesterAgentId
  gateway : new.gateway = old.gateway
  metadata : new.metadata = old.metadata

namespace PaymentLedger

structure Moved (before after : PaymentLedger) (paymentId : PaymentId)
    (fromStatus newStatus : PaymentStatus) : Prop where
  change : ∃ old new, before.getPayment paymentId = some old ∧ SameTerms old new ∧
    old.status = fromStatus ∧ new.status = newStatus ∧ after = before.amend new

variable (ledger : PaymentLedger) (paymentId : PaymentId) (payment : PaymentRequest)
  (wanted : PaymentId)

theorem getPayment_paymentId (found : ledger.getPayment paymentId = some payment) :
    payment.paymentId = paymentId :=
  Table.get?_key ledger.payments paymentId payment found

theorem getPayment_amend :
    (ledger.amend payment).getPayment wanted =
      if payment.paymentId = wanted then some payment else ledger.getPayment wanted :=
  Table.get?_set ledger.payments payment wanted

theorem statusOf_amend :
    (ledger.amend payment).statusOf wanted =
      if payment.paymentId = wanted then some payment.status else ledger.statusOf wanted := by
  unfold statusOf
  rw [getPayment_amend]
  split <;> rfl

theorem statusOf_some (status : PaymentStatus) :
    ledger.statusOf paymentId = some status ↔
      ∃ payment, ledger.getPayment paymentId = some payment ∧ payment.status = status :=
  Option.map_eq_some_iff

section Moved
variable {before after : PaymentLedger} {paymentId : PaymentId}
  {fromStatus newStatus : PaymentStatus}

theorem Moved.found (move : Moved before after paymentId fromStatus newStatus) :
    before.statusOf paymentId = some fromStatus := by
  obtain ⟨old, _, found, _, stood, _⟩ := move.change
  exact (statusOf_some before paymentId fromStatus).mpr ⟨old, found, stood⟩

theorem Moved.statusOf (move : Moved before after paymentId fromStatus newStatus)
    (wanted : PaymentId) :
    after.statusOf wanted =
      if wanted = paymentId then some newStatus else before.statusOf wanted := by
  obtain ⟨old, new, found, terms, _, moved, rfl⟩ := move.change
  have named : new.paymentId = paymentId :=
    terms.paymentId.trans (before.getPayment_paymentId paymentId old found)
  rw [statusOf_amend, named, moved]
  by_cases same : wanted = paymentId
  · rw [if_pos same, if_pos same.symm]
  · rw [if_neg same, if_neg (Ne.symm same)]

end Moved

theorem updateStatus_terms (newStatus : PaymentStatus) (message : Option String) (now : Time) :
    SameTerms payment (payment.updateStatus newStatus message now) :=
  ⟨rfl, rfl, rfl, rfl, rfl, rfl⟩

theorem authorizePayment_cases (approver : String) (now : Time) :
    ledger.authorizePayment paymentId approver now = (false, ledger) ∨
      ((ledger.authorizePayment paymentId approver now).1 = true ∧
        ∃ status, (status = .pending ∨ status = .approvalRequired) ∧
          Moved ledger (ledger.authorizePayment paymentId approver now).2 paymentId status
            .authorized) := by
  unfold authorizePayment
  cases found : ledger.getPayment paymentId with
  | none => exact Or.inl rfl
  | some payment =>
    dsimp only
    split
    · exact Or.inl rfl
    · rename_i waiting
      split
      · refine Or.inr ⟨rfl, payment.status, ?_, ⟨payment, _, found, ?_, rfl, rfl, rfl⟩⟩
        · by_contra other
          exact waiting (not_or.mp other)
        · exact ⟨rfl, rfl, rfl, rfl, rfl, rfl⟩
      · exact Or.inl rfl

theorem cancelPayment_cases (actorId reason : String) (now : Time) :
    (ledger.cancelPayment paymentId actorId reason now = (false, ledger) ∧
        ∀ status, ledger.statusOf paymentId = some status →
          status ∉ [PaymentStatus.pending, .approvalRequired, .authorized]) ∨
      ((ledger.cancelPayment paymentId actorId reason now).1 = true ∧
        ∃ status, status ∈ [PaymentStatus.pending, .approvalRequired, .authorized] ∧
          Moved ledger (ledger.cancelPayment paymentId actorId reason now).2 paymentId status
            .cancelled) := by
  unfold cancelPayment statusOf
  cases found : ledger.getPayment paymentId with
  | none =>
    simp
  | some payment =>
    dsimp only
    split
    · rename_i open'
      refine Or.inr ⟨rfl, payment.status, open', ⟨payment, _, found, ?_, rfl, rfl, rfl⟩⟩
      exact ⟨rfl, rfl, rfl, rfl, rfl, rfl⟩
    · rename_i closed
      simpa using closed

theorem reserve_cases (settler : Bool) (now : Time) :
    ((ledger.reserve paymentId settler now).2 = ledger ∧
        (ledger.reserve paymentId settler now).1 ≠ .reserved) ∨
      ((ledger.reserve paymentId settler now).1 = .gatewayNotAvailable ∧
        Moved ledger (ledger.reserve paymentId settler now).2 paymentId .authorized .failed) ∨
      ((ledger.reserve paymentId settler now).1 = .reserved ∧
        Moved ledger (ledger.reserve paymentId settler now).2 paymentId .authorized
          .processing) := by
  unfold reserve
  cases found : ledger.getPayment paymentId with
  | none => simp
  | some payment =>
    dsimp only
    split
    · simp
    · split
      · simp
      · rename_i authorized
        have stood : payment.status = .authorized := by
          by_contra other
          exact authorized other
        split
        · exact Or.inr (Or.inr ⟨rfl, payment, _, found,
            updateStatus_terms payment .processing none now, stood, rfl, rfl⟩)
        · exact Or.inr (Or.inl ⟨rfl, payment, _, found,
            updateStatus_terms payment .failed _ now, stood, rfl, rfl⟩)

theorem completeOnce_cases (note : String) (now : Time) :
    (ledger.completeOnce paymentId note now = (false, ledger) ∧
        ∀ status, ledger.statusOf paymentId = some status →
          ¬(status = .processing ∨ status = .authorized)) ∨
      ((ledger.completeOnce paymentId note now).1 = true ∧
        ∃ status, (status = .processing ∨ status = .authorized) ∧
          Moved ledger (ledger.completeOnce paymentId note now).2 paymentId status .completed) := by
  unfold completeOnce statusOf
  cases found : ledger.getPayment paymentId with
  | none => simp
  | some payment =>
    dsimp only
    split
    · rename_i inFlight
      exact Or.inr ⟨rfl, payment.status, inFlight, payment, _, found,
        updateStatus_terms payment .completed _ now, rfl, rfl, rfl⟩
    · rename_i closed
      simpa using closed

end PaymentLedger

def GatewayOutcome.status : GatewayOutcome → PaymentStatus
  | .raised _ | .refused _ | .captureFailed _ _ => .failed
  | .awaitingPayment _ _ => .processing
  | .captured _ => .completed

variable (outcome : GatewayOutcome)

theorem GatewayOutcome.status_completed :
    outcome.status = .completed ↔ outcome.isCaptured = true := by
  cases outcome <;> simp [status, isCaptured]

theorem GatewayOutcome.record_terms (now : Time) (payment : PaymentRequest) :
    SameTerms payment (outcome.record now payment) ∧
      (outcome.record now payment).status = outcome.status := by
  cases outcome <;> exact ⟨⟨rfl, rfl, rfl, rfl, rfl, rfl⟩, rfl⟩

theorem PaymentLedger.commit_cases (ledger : PaymentLedger) (paymentId : PaymentId)
    (outcome : GatewayOutcome) (now : Time) :
    (ledger.commit paymentId outcome now = ledger ∧ ledger.statusOf paymentId = none) ∨
      ∃ status, PaymentLedger.Moved ledger (ledger.commit paymentId outcome now) paymentId status
        outcome.status := by
  unfold commit statusOf
  cases found : ledger.getPayment paymentId with
  | none => exact Or.inl ⟨rfl, rfl⟩
  | some payment =>
    have terms := outcome.record_terms now payment
    exact Or.inr ⟨payment.status, payment, _, found, terms.1, rfl, terms.2, rfl⟩

inductive ProcessPhase where
  | reserved
  | answered (outcome : GatewayOutcome)
  deriving DecidableEq

structure ProcessCall where
  paymentId : PaymentId
  phase : ProcessPhase
  deriving DecidableEq

/-- The ledger, the calls in flight by number, and the payments `create_payment` was
called for, the latest last. -/
structure Processing where
  ledger : PaymentLedger
  calls : Nat → Option ProcessCall
  created : List PaymentId

inductive PaymentEvent where
  | request (payment : PaymentRequest) (requireApproval : Bool)
  | authorize (paymentId : PaymentId) (approver : String) (now : Time)
  | cancel (paymentId : PaymentId) (actorId reason : String) (now : Time)
  | reserve (call : Nat) (paymentId : PaymentId) (settler : Bool) (now : Time)
  | gateway (call : Nat) (create : CreateAnswer) (capture : CaptureAnswer)
  | commit (call : Nat) (now : Time)
  | completeOnce (paymentId : PaymentId) (note : String) (now : Time)

namespace Processing

def setCall (state : Processing) (call : Nat) (pending : Option ProcessCall) : Processing :=
  { state with calls := Function.update state.calls call pending }

theorem setCall_calls (state : Processing) (call : Nat) (pending : Option ProcessCall)
    (other : Nat) :
    (state.setCall call pending).calls other = if other = call then pending else state.calls other :=
  Function.update_apply state.calls call pending other

def step (state : Processing) : PaymentEvent → Processing
  | .request payment requireApproval =>
      -- A fresh uuid: no payment on record has it, and no gateway has seen it.
      if state.ledger.getPayment payment.paymentId = none ∧ payment.paymentId ∉ state.created then
        { state with ledger := state.ledger.createPaymentRequest payment requireApproval }
      else state
  | .authorize paymentId approver now =>
      { state with ledger := (state.ledger.authorizePayment paymentId approver now).2 }
  | .cancel paymentId actorId reason now =>
      { state with ledger := (state.ledger.cancelPayment paymentId actorId reason now).2 }
  | .reserve call paymentId settler now =>
      if state.calls call = none then
        let reservation := state.ledger.reserve paymentId settler now
        let reserved := { state with ledger := reservation.2 }
        if reservation.1 = .reserved then reserved.setCall call (some ⟨paymentId, .reserved⟩)
        else reserved
      else state
  | .gateway call create capture =>
      match state.calls call with
      | some ⟨paymentId, .reserved⟩ =>
          let gateway := (state.ledger.getPayment paymentId).bind PaymentRequest.gateway
          { state with created := state.created ++ [paymentId] }.setCall call
            (some ⟨paymentId, .answered (callGateway gateway create capture)⟩)
      | _ => state
  | .commit call now =>
      match state.calls call with
      | some ⟨paymentId, .answered outcome⟩ =>
          { state with ledger := state.ledger.commit paymentId outcome now }.setCall call none
      | _ => state
  | .completeOnce paymentId note now =>
      { state with ledger := (state.ledger.completeOnce paymentId note now).2 }

structure Reserved (state : Processing) : Prop where
  status : ∀ call pending, state.calls call = some pending →
    state.ledger.statusOf pending.paymentId = some .processing ∨
      state.ledger.statusOf pending.paymentId = some .completed
  once : ∀ call other pending competing, state.calls call = some pending →
    state.calls other = some competing → pending.paymentId = competing.paymentId → call = other

variable {state : Processing} {after : PaymentLedger} {paymentId : PaymentId}

theorem Reserved.of_idle (idle : ∀ call, state.calls call = none) : state.Reserved := by
  constructor
  · intro call pending flying
    rw [idle call] at flying
    cases flying
  · intro call other pending competing flying
    rw [idle call] at flying
    cases flying

/-- Nothing in flight is touched by a payment moved out of a status no reserved one has. -/
theorem Reserved.moved {fromStatus newStatus : PaymentStatus} (reserved : state.Reserved)
    (move : PaymentLedger.Moved state.ledger after paymentId fromStatus newStatus)
    (waiting : fromStatus ≠ .processing ∧ fromStatus ≠ .completed) :
    { state with ledger := after }.Reserved := by
  refine ⟨fun call pending flying => ?_, reserved.once⟩
  have stands := reserved.status call pending flying
  have other : pending.paymentId ≠ paymentId := by
    intro same
    rw [same, move.found] at stands
    simp only [Option.some.injEq] at stands
    rcases stands with processing | completed
    · exact waiting.1 processing
    · exact waiting.2 completed
  rw [move.statusOf, if_neg other]
  exact stands

theorem Reserved.completed {fromStatus : PaymentStatus} (reserved : state.Reserved)
    (move : PaymentLedger.Moved state.ledger after paymentId fromStatus .completed) :
    { state with ledger := after }.Reserved := by
  refine ⟨fun call pending flying => ?_, reserved.once⟩
  rw [move.statusOf]
  split
  · exact Or.inr rfl
  · exact reserved.status call pending flying

theorem Reserved.taken {call : Nat} (reserved : state.Reserved)
    (move : PaymentLedger.Moved state.ledger after paymentId .authorized .processing) :
    ({ state with ledger := after }.setCall call (some ⟨paymentId, .reserved⟩)).Reserved := by
  have kept := reserved.moved move (by decide)
  have alone (other : Nat) (pending : ProcessCall) (flying : state.calls other = some pending) :
      pending.paymentId ≠ paymentId := by
    intro same
    have stands := reserved.status other pending flying
    rw [same, move.found] at stands
    simp at stands
  constructor
  · intro other pending flying
    by_cases same : other = call
    · rw [setCall_calls, if_pos same, Option.some.injEq] at flying
      subst flying
      exact Or.inl ((move.statusOf paymentId).trans (if_pos rfl))
    · rw [setCall_calls, if_neg same] at flying
      exact kept.status other pending flying
  · intro one other pending competing flyingOne flyingOther same
    rw [setCall_calls] at flyingOne flyingOther
    split at flyingOne <;> split at flyingOther
    · simp_all
    · cases flyingOne
      exact absurd same.symm (alone other competing flyingOther)
    · cases flyingOther
      exact absurd same (alone one pending flyingOne)
    · exact reserved.once one other pending competing flyingOne flyingOther same

theorem Reserved.answered {call : Nat} {before : ProcessCall} (reserved : state.Reserved)
    (flying : state.calls call = some before) (after : ProcessCall)
    (same : after.paymentId = before.paymentId) (created : List PaymentId) :
    ({ state with created := created }.setCall call (some after)).Reserved := by
  have origin (other : Nat) (pending : ProcessCall)
      (held : (state.setCall call (some after)).calls other = some pending) :
      ∃ earlier, state.calls other = some earlier ∧ earlier.paymentId = pending.paymentId := by
    rw [setCall_calls] at held
    split at held
    · rename_i here
      cases held
      exact ⟨before, here ▸ flying, same.symm⟩
    · exact ⟨pending, held, rfl⟩
  constructor
  · intro other pending held
    obtain ⟨earlier, flew, named⟩ := origin other pending held
    exact named ▸ reserved.status other earlier flew
  · intro one other pending competing heldOne heldOther shared
    obtain ⟨first, flewFirst, namedFirst⟩ := origin one pending heldOne
    obtain ⟨second, flewSecond, namedSecond⟩ := origin other competing heldOther
    exact reserved.once one other first second flewFirst flewSecond
      (namedFirst.trans (shared.trans namedSecond.symm))

/-- A call that ends leaves the payments of the others alone. -/
theorem Reserved.ended {call : Nat} {pending : ProcessCall} (reserved : state.Reserved)
    (flying : state.calls call = some pending)
    (others : ∀ wanted, wanted ≠ pending.paymentId →
      after.statusOf wanted = state.ledger.statusOf wanted) :
    ({ state with ledger := after }.setCall call none).Reserved := by
  have origin (other : Nat) (competing : ProcessCall)
      (held : (state.setCall call none).calls other = some competing) :
      other ≠ call ∧ state.calls other = some competing := by
    rw [setCall_calls] at held
    split at held
    · cases held
    · rename_i different
      exact ⟨different, held⟩
  constructor
  · intro other competing held
    obtain ⟨different, flew⟩ := origin other competing held
    have apart : competing.paymentId ≠ pending.paymentId := fun same =>
      different (reserved.once other call competing pending flew flying same)
    show after.statusOf _ = _ ∨ after.statusOf _ = _
    rw [others competing.paymentId apart]
    exact reserved.status other competing flew
  · intro one other first second heldOne heldOther same
    exact reserved.once one other first second (origin one first heldOne).2
      (origin other second heldOther).2 same

theorem step_reserved (state : Processing) (event : PaymentEvent) (reserved : state.Reserved) :
    (state.step event).Reserved := by
  cases event with
  | request payment requireApproval =>
    simp only [step]
    split
    · rename_i fresh
      have absent := fresh.1
      refine ⟨fun call pending flying => ?_, reserved.once⟩
      have stands := reserved.status call pending flying
      have other : payment.paymentId ≠ pending.paymentId := by
        intro same
        simp [PaymentLedger.statusOf, ← same, absent] at stands
      rw [PaymentLedger.createPaymentRequest, PaymentLedger.statusOf_amend, if_neg other]
      exact stands
    · exact reserved
  | authorize paymentId approver now =>
    rcases state.ledger.authorizePayment_cases paymentId approver now with
      same | ⟨_, status, waiting, move⟩
    · simp only [step, same]
      exact reserved
    · apply reserved.moved move
      rcases waiting with rfl | rfl <;> decide
  | cancel paymentId actorId reason now =>
    rcases state.ledger.cancelPayment_cases paymentId actorId reason now with
      ⟨same, _⟩ | ⟨_, status, waiting, move⟩
    · simp only [step, same]
      exact reserved
    · apply reserved.moved move
      revert waiting
      cases status <;> decide
  | reserve call paymentId settler now =>
    simp only [step]
    split
    · rcases state.ledger.reserve_cases paymentId settler now with
        ⟨same, refused⟩ | ⟨unavailable, move⟩ | ⟨taken, move⟩
      · rw [if_neg refused, same]
        exact reserved
      · rw [if_neg (by simp [unavailable])]
        exact reserved.moved move (by decide)
      · rw [if_pos taken]
        exact reserved.taken move
    · exact reserved
  | gateway call create capture =>
    simp only [step]
    split
    · rename_i paymentId flying
      apply reserved.answered flying
      rfl
    · exact reserved
  | commit call now =>
    simp only [step]
    split
    · rename_i paymentId outcome flying
      apply reserved.ended flying
      intro wanted other
      rcases state.ledger.commit_cases paymentId outcome now with ⟨same, _⟩ | ⟨status, move⟩
      · rw [same]
      · rw [move.statusOf, if_neg other]
    · exact reserved
  | completeOnce paymentId note now =>
    rcases state.ledger.completeOnce_cases paymentId note now with
      ⟨same, _⟩ | ⟨_, status, _, move⟩
    · simp only [step, same]
      exact reserved
    · exact reserved.completed move

def movesTo : PaymentStatus → PaymentStatus → Bool
  | .pending, .authorized | .approvalRequired, .authorized => true
  | .pending, .cancelled | .approvalRequired, .cancelled | .authorized, .cancelled => true
  | .authorized, .processing | .authorized, .failed => true
  | .processing, .completed | .authorized, .completed => true
  | _, _ => false

def committing (state : Processing) : PaymentEvent → Option (PaymentId × GatewayOutcome)
  | .commit call _ => match state.calls call with
      | some ⟨paymentId, .answered outcome⟩ => some (paymentId, outcome)
      | _ => none
  | _ => none

inductive LedgerStep (state : Processing) (event : PaymentEvent) : Prop
  | same (ledger : (state.step event).ledger = state.ledger)
      (missing : ∀ found, state.committing event = some found →
        state.ledger.statusOf found.1 = none)
  | entered (payment : PaymentRequest) (absent : state.ledger.getPayment payment.paymentId = none)
      (unseen : payment.paymentId ∉ state.created)
      (ledger : (state.step event).ledger = state.ledger.amend payment)
      (plain : state.committing event = none)
  | moved (paymentId : PaymentId) (fromStatus newStatus : PaymentStatus)
      (moves : movesTo fromStatus newStatus = true)
      (move : PaymentLedger.Moved state.ledger (state.step event).ledger paymentId fromStatus
        newStatus)
      (plain : state.committing event = none)
  | committed (paymentId : PaymentId) (outcome : GatewayOutcome) (fromStatus : PaymentStatus)
      (commits : state.committing event = some (paymentId, outcome))
      (flying : ∃ call phase, state.calls call = some ⟨paymentId, phase⟩)
      (move : PaymentLedger.Moved state.ledger (state.step event).ledger paymentId fromStatus
        outcome.status)

theorem step_ledger (state : Processing) (event : PaymentEvent) : state.LedgerStep event := by
  have quiet (plain : state.committing event = none) (found : PaymentId × GatewayOutcome)
      (some' : state.committing event = some found) : state.ledger.statusOf found.1 = none := by
    rw [plain] at some'
    cases some'
  cases event with
  | request payment requireApproval =>
    by_cases fresh : state.ledger.getPayment payment.paymentId = none ∧
        payment.paymentId ∉ state.created
    · refine .entered { payment with status := if requireApproval then .approvalRequired else .pending }
        fresh.1 fresh.2 ?_ rfl
      simp only [step, fresh, not_false_eq_true, and_self, ↓reduceIte]
      rfl
    · refine .same ?_ (quiet rfl)
      rw [step, if_neg fresh]
  | authorize paymentId approver now =>
    rcases state.ledger.authorizePayment_cases paymentId approver now with
      same | ⟨_, was, waiting, move⟩
    · exact .same (by simp only [step, same]) (quiet rfl)
    · refine .moved paymentId was .authorized ?_ move rfl
      rcases waiting with rfl | rfl <;> rfl
  | cancel paymentId actorId reason now =>
    rcases state.ledger.cancelPayment_cases paymentId actorId reason now with
      ⟨same, _⟩ | ⟨_, was, waiting, move⟩
    · exact .same (by simp only [step, same]) (quiet rfl)
    · refine .moved paymentId was .cancelled ?_ move rfl
      revert waiting
      cases was <;> decide
  | reserve call paymentId settler now =>
    by_cases free : state.calls call = none
    · have ledger : (state.step (.reserve call paymentId settler now)).ledger =
          (state.ledger.reserve paymentId settler now).2 := by
        simp only [step, free, ↓reduceIte]
        split <;> rfl
      rcases state.ledger.reserve_cases paymentId settler now with
        ⟨same, _⟩ | ⟨_, move⟩ | ⟨_, move⟩
      · exact .same (ledger.trans same) (quiet rfl)
      · exact .moved paymentId .authorized .failed rfl (ledger ▸ move) rfl
      · exact .moved paymentId .authorized .processing rfl (ledger ▸ move) rfl
    · refine .same ?_ (quiet rfl)
      rw [step, if_neg free]
  | gateway call create capture =>
    refine .same ?_ (quiet rfl)
    simp only [step]
    split <;> rfl
  | commit call now =>
    cases held : state.calls call with
    | none =>
      refine .same ?_ (quiet (by simp only [committing, held]))
      simp only [step, held]
    | some pending =>
      obtain ⟨paymentId, phase⟩ := pending
      cases phase with
      | reserved =>
        refine .same ?_ (quiet (by simp only [committing, held]))
        simp only [step, held]
      | answered outcome =>
        have commits : state.committing (.commit call now) = some (paymentId, outcome) := by
          simp only [committing, held]
        have ledger : (state.step (.commit call now)).ledger =
            state.ledger.commit paymentId outcome now := by
          simp only [step, held, setCall]
        rcases state.ledger.commit_cases paymentId outcome now with
          ⟨same, missing⟩ | ⟨was, move⟩
        · refine .same (ledger.trans same) fun found is => ?_
          rw [commits, Option.some.injEq] at is
          exact is ▸ missing
        · exact .committed paymentId outcome was commits ⟨call, _, held⟩ (ledger ▸ move)
  | completeOnce paymentId note now =>
    rcases state.ledger.completeOnce_cases paymentId note now with
      ⟨same, _⟩ | ⟨_, was, inFlight, move⟩
    · exact .same (by simp only [step, same]) (quiet rfl)
    · refine .moved paymentId was .completed ?_ move rfl
      rcases inFlight with rfl | rfl <;> rfl

/-! An empty ledger with a PhonePe gateway, and a payment a person authorizes. -/

def emptyLedger (saves : Nat → Bool) : PaymentLedger where
  payments := Table.empty PaymentRequest.paymentId
  gateways := [.mock, .phonepe]
  file := none
  saves := saves
  writes := 0

def quiet (saves : Nat → Bool) : Processing := ⟨emptyLedger saves, fun _ => none, []⟩

def samplePayment : PaymentRequest where
  paymentId := "p"
  amount := 49900
  currency := "INR"
  description := "order"
  requesterAgentId := "agent-1"
  createdAt := 0
  updatedAt := 0
  gateway := some .phonepe

def atGateway : List PaymentEvent :=
  [.request samplePayment false, .authorize "p" "user:7" 1, .reserve 0 "p" true 2,
    .gateway 0 (.created (some "txn") (some "page")) .captured]

end Processing

end Hartos.Ap2
