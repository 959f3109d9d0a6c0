import Hartos.PaymentRuns

/-!
A payment ledger whose process may stop between any two steps and read its file
back. What keeps a payment from being charged again is its reservation; it does so
as long as no restart finds a payment the gateway has seen on file as one that can
still be charged.
-/
namespace Hartos.Ap2
open KeyedTable StepSystem

def PaymentStatus.isChargeable : PaymentStatus → Bool
  | .pending | .approvalRequired | .authorized => true
  | _ => false

inductive DurableEvent where
  | operation (event : PaymentEvent)
  | restart

namespace Processing

def restart (state : Processing) : Processing :=
  { state with ledger := state.ledger.loadLedger, calls := fun _ => none }

def durableStep (state : Processing) : DurableEvent → Processing
  | .operation event => state.step event
  | .restart => state.restart

def Recorded (state : Processing) : DurableEvent → Prop
  | .operation _ => True
  | .restart => ∀ paymentId ∈ state.created,
      (state.ledger.loadLedger.statusOf paymentId).any PaymentStatus.isChargeable = false

instance (state : Processing) : (event : DurableEvent) → Decidable (state.Recorded event)
  | .operation _ => inferInstanceAs (Decidable True)
  | .restart => inferInstanceAs (Decidable (∀ paymentId ∈ _, _ = false))

/-- No payment has been given to `create_payment` twice. -/
def ChargedOnce (state : Processing) : Prop := state.created.Nodup

instance (state : Processing) : Decidable state.ChargedOnce :=
  inferInstanceAs (Decidable (List.Nodup _))

structure Spent (state : Processing) : Prop where
  once : state.created.Nodup
  settled : ∀ paymentId ∈ state.created, ∀ status,
    state.ledger.statusOf paymentId = some status → status.isChargeable = false
  fresh : ∀ call paymentId, state.calls call = some ⟨paymentId, .reserved⟩ →
    paymentId ∉ state.created
  reserved : state.Reserved

theorem settled_moved {before after : PaymentLedger} {created : List PaymentId}
    {paymentId : PaymentId} {fromStatus newStatus : PaymentStatus}
    (settled : ∀ seen ∈ created, ∀ status, before.statusOf seen = some status →
      status.isChargeable = false)
    (move : PaymentLedger.Moved before after paymentId fromStatus newStatus)
    (back : newStatus.isChargeable = true → fromStatus.isChargeable = true) :
    ∀ seen ∈ created, ∀ status, after.statusOf seen = some status →
      status.isChargeable = false := by
  intro seen member status stands
  rw [move.statusOf] at stands
  split at stands
  · rename_i same
    cases stands
    have was := settled seen member fromStatus (same ▸ move.found)
    exact Bool.eq_false_iff.mpr fun chargeable =>
      absurd (back chargeable) (Bool.eq_false_iff.mp was)
  · exact settled seen member status stands

variable (state : Processing) (event : PaymentEvent)

-- What an operation makes of the ledger never makes a payment chargeable again.
theorem step_settled (spent : state.Spent) :
    ∀ paymentId ∈ state.created, ∀ status,
      (state.step event).ledger.statusOf paymentId = some status →
        status.isChargeable = false := by
  have settled := spent.settled
  cases state.step_ledger event with
  | same ledger _ =>
    rw [ledger]
    exact settled
  | entered payment _ unseen ledger _ =>
    rw [ledger]
    intro seen member status stands
    have other : payment.paymentId ≠ seen := fun same => unseen (same ▸ member)
    rw [PaymentLedger.statusOf_amend, if_neg other] at stands
    exact settled seen member status stands
  | moved paymentId was becomes moves move _ =>
    refine settled_moved settled move ?_
    revert moves
    cases was <;> cases becomes <;> decide
  | committed paymentId outcome was _ _ move =>
    refine settled_moved settled move ?_
    cases outcome <;> simp [GatewayOutcome.status, PaymentStatus.isChargeable]

-- Only a call that waits for its gateway adds to the payments gateways have seen.
theorem step_created :
    (state.step event).created = state.created ∨
      ∃ call paymentId, state.calls call = some ⟨paymentId, .reserved⟩ ∧
        (state.step event).created = state.created ++ [paymentId] ∧
        (state.step event).ledger = state.ledger ∧
        (state.step event).calls call ≠ some ⟨paymentId, .reserved⟩ := by
  cases event with
  | request payment requireApproval =>
    simp only [step]
    split
    · exact Or.inl rfl
    · exact Or.inl rfl
  | authorize => exact Or.inl rfl
  | cancel => exact Or.inl rfl
  | completeOnce => exact Or.inl rfl
  | reserve call paymentId settler now =>
    left
    simp only [step]
    split
    · split <;> rfl
    · rfl
  | gateway call create capture =>
    simp only [step]
    split
    · rename_i paymentId flying
      exact Or.inr ⟨call, paymentId, flying, rfl, rfl, by simp [setCall]⟩
    · exact Or.inl rfl
  | commit call now =>
    left
    simp only [step]
    split <;> rfl

-- A call that waits for its gateway did so before, or has just reserved its payment.
theorem step_waiting (call : Nat) (paymentId : PaymentId)
    (waits : (state.step event).calls call = some ⟨paymentId, .reserved⟩) :
    state.calls call = some ⟨paymentId, .reserved⟩ ∨
      ((state.step event).created = state.created ∧
        state.ledger.statusOf paymentId = some .authorized ∧
        ∃ settler now, event = .reserve call paymentId settler now) := by
  cases event with
  | request payment requireApproval =>
    simp only [step] at waits
    split at waits <;> exact Or.inl waits
  | authorize => exact Or.inl waits
  | cancel => exact Or.inl waits
  | completeOnce => exact Or.inl waits
  | reserve taking named settler now =>
    simp only [step] at waits ⊢
    split at waits
    · rcases state.ledger.reserve_cases named settler now with
        ⟨_, refused⟩ | ⟨unavailable, _⟩ | ⟨taken, move⟩
      · rw [if_neg refused] at waits
        exact Or.inl waits
      · rw [if_neg (by simp [unavailable])] at waits
        exact Or.inl waits
      · rw [if_pos taken, setCall_calls] at waits
        split at waits
        · cases waits
          rename_i free same
          rw [if_pos free, if_pos taken]
          exact Or.inr ⟨rfl, move.found, settler, now, by rw [same]⟩
        · exact Or.inl waits
    · exact Or.inl waits
  | gateway answering create capture =>
    simp only [step] at waits
    split at waits
    · rw [setCall_calls] at waits
      split at waits
      · cases waits
      · exact Or.inl waits
    · exact Or.inl waits
  | commit ending now =>
    simp only [step] at waits
    split at waits
    · rw [setCall_calls] at waits
      split at waits
      · cases waits
      · exact Or.inl waits
    · exact Or.inl waits

theorem step_spent (spent : state.Spent) : (state.step event).Spent := by
  have reserved := step_reserved state event spent.reserved
  rcases step_created state event with same | ⟨call, paymentId, flying, added, ledger, gone⟩
  · refine ⟨same ▸ spent.once, ?_, ?_, reserved⟩
    · rw [same]
      exact step_settled state event spent
    · intro call paymentId waits
      rw [same]
      rcases step_waiting state event call paymentId waits with before | ⟨_, authorized, _⟩
      · exact spent.fresh call paymentId before
      · intro seen
        cases spent.settled paymentId seen .authorized authorized
  · have unseen := spent.fresh call paymentId flying
    refine ⟨?_, ?_, ?_, reserved⟩
    · rw [added, ← List.concat_eq_append]
      exact spent.once.concat unseen
    · intro seen member status stands
      rw [ledger] at stands
      rw [added, List.mem_append, List.mem_singleton] at member
      rcases member with before | rfl
      · exact spent.settled seen before status stands
      · have waits := spent.reserved.status call _ flying
        rw [stands, Option.some.injEq, Option.some.injEq] at waits
        rcases waits with rfl | rfl <;> rfl
    · intro other named waits
      rcases step_waiting state event other named waits with before | ⟨same, _, _⟩
      · rw [added, List.mem_append, List.mem_singleton, not_or]
        refine ⟨spent.fresh other named before, ?_⟩
        rintro rfl
        have one := spent.reserved.once other call _ _ before flying rfl
        exact gone (one ▸ waits)
      · rw [added] at same
        simp at same

theorem restart_spent (spent : state.Spent) (recorded : state.Recorded .restart) :
    state.restart.Spent := by
  refine ⟨spent.once, ?_, ?_, Reserved.of_idle fun _ => rfl⟩
  · intro paymentId member status stands
    have read := recorded paymentId member
    rw [show state.ledger.loadLedger.statusOf paymentId = some status from stands] at read
    exact read
  · intro call paymentId held
    cases held

theorem Spent.of_idle {state : Processing} (idle : ∀ call, state.calls call = none)
    (unseen : state.created = []) : state.Spent := by
  refine ⟨unseen ▸ List.nodup_nil, ?_, ?_, Reserved.of_idle idle⟩
  · rw [unseen]
    exact fun _ member => absurd member List.not_mem_nil
  · intro call paymentId held
    rw [idle call] at held
    cases held

/-- In every run, with any crashes and any failing saves, `create_payment` is called at
most once for each payment, as long as no restart finds a payment a gateway has seen
on file as still to be charged. -/
theorem recorded_payments_charged_once (state : Processing) (run : List DurableEvent)
    (idle : ∀ call, state.calls call = none) (unseen : state.created = [])
    (recorded : Along durableStep Recorded state run) : Always durableStep ChargedOnce state run := by
  apply always_of_invariant durableStep Spent ChargedOnce Recorded
  · intro current event spent allowed
    cases event with
    | operation operation => exact step_spent current operation spent
    | restart => exact restart_spent current spent allowed
  · exact fun current spent => spent.once
  · exact Spent.of_idle idle unseen
  · exact recorded

/-! The reservation of payment "p" is the third write. -/

def savedRun : List DurableEvent :=
  (atGateway ++ [PaymentEvent.commit 0 3]).map .operation ++
    [.restart, .operation (.completeOnce "p" "paid" 4), .restart]

theorem saved_run_charged_once :
    Always durableStep ChargedOnce (quiet fun write => decide (write ≠ 3)) savedRun :=
  recorded_payments_charged_once (quiet fun write => decide (write ≠ 3)) savedRun (fun _ => rfl) rfl
    (by decide +kernel)

/-- A reservation whose write fails, a crash after the gateway was called: the file still
reads AUTHORIZED, and the payment is charged again. -/
theorem lost_reservation_charges_twice :
    ¬Always durableStep ChargedOnce (quiet fun write => decide (write ≠ 2))
      (atGateway.map .operation ++ [.restart, .operation (.reserve 1 "p" true 5),
        .operation (.gateway 1 (.created (some "txn2") (some "page")) .captured)]) := by
  decide +kernel

end Processing

end Hartos.Ap2
