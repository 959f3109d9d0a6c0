import Hartos.PaymentRuns

/-!
What becomes of a finished payment. Every locked section but one tests the status it
replaces; the commit of a gateway's answer does not, so a confirmation that comes in
between the reservation and the commit is overwritten unless both say the same.
-/
namespace Hartos.Ap2
open KeyedTable StepSystem

namespace Processing

def KeepsFinal (state : Processing) (event : PaymentEvent) : Prop :=
  ∀ payment ∈ state.ledger.payments.rows, payment.status.isFinal = true →
    (state.step event).ledger.statusOf payment.paymentId = some payment.status

def Undisturbed (state : Processing) (event : PaymentEvent) : Prop :=
  ∀ found ∈ state.committing event,
    state.ledger.statusOf found.1 = some .completed → found.2.isCaptured = true

instance (state : Processing) (event : PaymentEvent) : Decidable (state.KeepsFinal event) :=
  inferInstanceAs (Decidable (∀ payment ∈ _, _ → _))

instance (state : Processing) (event : PaymentEvent) : Decidable (state.Undisturbed event) :=
  inferInstanceAs (Decidable (∀ found ∈ _, _ → _))

def completes (paymentId : PaymentId) (state : Processing) : PaymentEvent → Bool
  | .completeOnce named note now =>
      decide (named = paymentId) && (state.ledger.completeOnce named note now).1
  | _ => false

def completions (paymentId : PaymentId) : Processing → List PaymentEvent → Nat
  | _, [] => 0
  | state, event :: rest =>
      (if completes paymentId state event then 1 else 0) +
        completions paymentId (state.step event) rest

variable (paymentId : PaymentId) (run : List PaymentEvent) (state : Processing)
  (event : PaymentEvent)

theorem keepsFinal_iff :
    state.KeepsFinal event ↔ ∀ paymentId status, state.ledger.statusOf paymentId = some status →
      status.isFinal = true → (state.step event).ledger.statusOf paymentId = some status := by
  constructor
  · intro keeps paymentId status stands final
    obtain ⟨payment, found, rfl⟩ := (PaymentLedger.statusOf_some _ _ _).mp stands
    have named := state.ledger.getPayment_paymentId paymentId payment found
    exact named ▸ keeps payment (Table.get?_mem _ paymentId payment found) final
  · intro keeps payment member final
    apply keeps payment.paymentId payment.status _ final
    rw [PaymentLedger.statusOf, PaymentLedger.getPayment,
      Table.mem_get? state.ledger.payments payment member, Option.map_some]

-- A payment moved out of a status that is not final leaves the finished ones alone.
theorem moved_keeps {before after : PaymentLedger} {paymentId : PaymentId}
    {fromStatus newStatus : PaymentStatus}
    (move : PaymentLedger.Moved before after paymentId fromStatus newStatus)
    (running : fromStatus.isFinal = true → fromStatus = newStatus) (wanted : PaymentId)
    (status : PaymentStatus) (stands : before.statusOf wanted = some status)
    (final : status.isFinal = true) : after.statusOf wanted = some status := by
  rw [move.statusOf]
  split
  · rename_i same
    rw [same, move.found, Option.some.injEq] at stands
    subst stands
    rw [running final]
  · exact stands

theorem step_keeps (reserved : state.Reserved) :
    state.KeepsFinal event ↔ state.Undisturbed event := by
  rw [keepsFinal_iff]
  cases state.step_ledger event with
  | same ledger missing =>
    rw [ledger]
    constructor
    · intro _ found commits stands
      rw [missing found commits] at stands
      cases stands
    · exact fun _ _ _ stands _ => stands
  | entered payment absent _ ledger plain =>
    rw [ledger, Undisturbed, plain]
    refine ⟨fun _ found member => (Option.not_mem_none found member).elim, ?_⟩
    intro _ wanted status stands _
    have other : payment.paymentId ≠ wanted := by
      rintro rfl
      simp [PaymentLedger.statusOf, absent] at stands
    rw [PaymentLedger.statusOf_amend, if_neg other, stands]
  | moved paymentId was becomes moves move plain =>
    rw [Undisturbed, plain]
    refine ⟨fun _ found member => (Option.not_mem_none found member).elim, ?_⟩
    intro _ wanted status stands final
    refine moved_keeps move (fun ended => ?_) wanted status stands final
    revert moves ended
    cases was <;> cases becomes <;> decide
  | committed paymentId outcome was commits flying move =>
    obtain ⟨call, phase, held⟩ := flying
    have stood := reserved.status call _ held
    rw [move.found, Option.some.injEq, Option.some.injEq] at stood
    simp only [Undisturbed, commits, Option.mem_def, Option.some.injEq, forall_eq', move.found]
    constructor
    · rintro keeps rfl
      have written := keeps paymentId .completed move.found rfl
      rw [move.statusOf, if_pos rfl, Option.some.injEq] at written
      exact outcome.status_completed.mp written
    · intro captured wanted status stands final
      refine moved_keeps move (fun ended => ?_) wanted status stands final
      rcases stood with processing | completed
      · rw [processing] at ended
        cases ended
      · rw [completed, outcome.status_completed.mpr (captured completed)]

-- A True answer moves a payment that is not finished to COMPLETED.
theorem completes_moves (answered : completes paymentId state event = true) :
    (∀ status, state.ledger.statusOf paymentId = some status → status.isFinal = false) ∧
      (state.step event).ledger.statusOf paymentId = some .completed := by
  cases event with
  | completeOnce named note now =>
    simp only [completes, Bool.and_eq_true, decide_eq_true_eq] at answered
    obtain ⟨rfl, done⟩ := answered
    rcases state.ledger.completeOnce_cases named note now with ⟨same, _⟩ | ⟨_, was, inFlight, move⟩
    · rw [same] at done
      cases done
    · constructor
      · intro status stands
        rw [move.found, Option.some.injEq] at stands
        subst stands
        rcases inFlight with rfl | rfl <;> rfl
      · exact (move.statusOf named).trans (if_pos rfl)
  | _ => cases answered

theorem completions_of_final (status : PaymentStatus)
    (stands : state.ledger.statusOf paymentId = some status) (final : status.isFinal = true)
    (keeps : Along step KeepsFinal state run) : completions paymentId state run = 0 := by
  induction run generalizing state with
  | nil => rfl
  | cons event rest ih =>
    have refused : completes paymentId state event ≠ true := by
      intro answered
      rw [(completes_moves paymentId state event answered).1 status stands] at final
      cases final
    have kept := (state.keepsFinal_iff event).mp keeps.1 paymentId status stands final
    rw [completions, if_neg refused, ih _ kept keeps.2]

theorem completions_le_one (keeps : Along step KeepsFinal state run) :
    completions paymentId state run ≤ 1 := by
  induction run generalizing state with
  | nil => exact Nat.zero_le 1
  | cons event rest ih =>
    rw [completions]
    split
    · rename_i answered
      have done := (completes_moves paymentId state event answered).2
      have later := completions_of_final paymentId rest _ .completed done rfl keeps.2
      omega
    · rw [Nat.zero_add]
      exact ih _ keeps.2

/-- Over every interleaving that starts with no payment at a gateway: finished payments
stay as they are and `complete_once` answers True at most once for each, exactly when
no commit overtaken by a confirmation brings anything but a capture. -/
theorem finished_payments_stand_exactly (state : Processing) (run : List PaymentEvent)
    (idle : ∀ call, state.calls call = none) :
    (Along step KeepsFinal state run ∧ ∀ paymentId, completions paymentId state run ≤ 1) ↔
      Along step Undisturbed state run := by
  have start := Reserved.of_idle idle
  constructor
  · rintro ⟨keeps, _⟩
    apply along_of_invariant _ Reserved KeepsFinal
    · exact fun current event reserved _ => step_reserved current event reserved
    · exact fun current event reserved => (step_keeps current event reserved).mp
    · exact start
    · exact keeps
  · intro undisturbed
    have keeps : Along step KeepsFinal state run := by
      apply along_of_invariant _ Reserved Undisturbed
      · exact fun current event reserved _ => step_reserved current event reserved
      · exact fun current event reserved => (step_keeps current event reserved).mpr
      · exact start
      · exact undisturbed
    exact ⟨keeps, fun paymentId => completions_le_one paymentId run state keeps⟩

/-- The confirmation after the commit, delivered twice. -/
theorem confirmed_after_commit :
    (Along step KeepsFinal (quiet fun _ => true)
        (atGateway ++ [.commit 0 3, .completeOnce "p" "paid" 4, .completeOnce "p" "paid" 5]) ∧
      ∀ paymentId, completions paymentId (quiet fun _ => true)
        (atGateway ++ [.commit 0 3, .completeOnce "p" "paid" 4, .completeOnce "p" "paid" 5]) ≤ 1) ↔
      Along step Undisturbed (quiet fun _ => true)
        (atGateway ++ [.commit 0 3, .completeOnce "p" "paid" 4, .completeOnce "p" "paid" 5]) :=
  finished_payments_stand_exactly (quiet fun _ => true) _ fun _ => rfl

/-- A confirmation between the gateway's answer and its commit: the commit takes the
COMPLETED payment back to PROCESSING, and the next confirmation is answered True again. -/
theorem late_commit_reopens_payment :
    ¬Along step KeepsFinal (quiet fun _ => true)
        (atGateway ++ [.completeOnce "p" "paid" 3, .commit 0 4, .completeOnce "p" "paid" 5]) ∧
      completions "p" (quiet fun _ => true)
        (atGateway ++ [.completeOnce "p" "paid" 3, .commit 0 4, .completeOnce "p" "paid" 5]) = 2 := by
  decide +kernel

end Processing

end Hartos.Ap2
