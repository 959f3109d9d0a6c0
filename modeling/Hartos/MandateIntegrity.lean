import Hartos.MandateSteps

/-!
A record edited outside the store. Expiry keeps its broken signature, `approve`,
`consume` and the two order marks refuse it, and nothing that signs it brings its
payment further; but an owner who declines it, a withdrawn approval and a newer
checkout make the edit genuine.
-/
namespace Hartos.Ap2
open KeyedTable StepSystem

namespace MandateStore
variable (host : MandateHost) (key : MandateId) (store : MandateStore)

def Broken : Prop :=
  (store.getMandate key).any (fun mandate => !mandate.intact host) = true

def restores (ledger : PaymentLedger) (mandate : CartMandate) (now : Time) : Bool :=
  decide (expiryOf ledger mandate now ≠ .stays) &&
    decide (mandate.sig = host.sign (Expiry.fields (expiryOf ledger mandate now) mandate))

def Unmended (event : StoreEvent) : Prop :=
  signsUnchecked host key store event = false ∧
    ∀ now ∈ readsClock key store event, ∀ mandate ∈ store.getMandate key,
      restores host store.ledger mandate now = false

def Dead : Prop :=
  ∃ mandate, store.getMandate key = some mandate ∧
    (mandate.intact host = false ∨ mandate.status.isLive = false)

instance (host : MandateHost) (key : MandateId) (store : MandateStore) :
    Decidable (Broken host key store) :=
  inferInstanceAs (Decidable (_ = true))

instance (host : MandateHost) (key : MandateId) (store : MandateStore) (event : StoreEvent) :
    Decidable (Unmended host key store event) :=
  inferInstanceAs (Decidable (_ ∧ ∀ now ∈ _, ∀ mandate ∈ _, _))

section Records
variable {host : MandateHost} {key : MandateId} {store : MandateStore} {mandate : CartMandate}

theorem broken_iff : Broken host key store ↔
    ∃ mandate, store.getMandate key = some mandate ∧ mandate.intact host = false := by
  rw [Broken, Option.any_eq_true]
  exact exists_congr fun mandate => and_congr_right fun _ => Iff.of_eq (Bool.not_eq_true' _)

theorem broken_found (found : store.getMandate key = some mandate) :
    Broken host key store ↔ mandate.intact host = false := by
  rw [Broken, found, Option.any_some, Bool.not_eq_true']

variable (event : StoreEvent) {ledger : PaymentLedger} {now : Time}

theorem clocked_of_stays (stays : expiryOf ledger mandate now = .stays) :
    clocked host ledger now mandate = mandate := by
  rw [clocked, expired, if_pos stays]

theorem clocked_ended (moves : expiryOf ledger mandate now ≠ .stays) :
    (clocked host ledger now mandate).status.isLive = false := by
  have ended : (Expiry.fields (expiryOf ledger mandate now) mandate).status.isLive = false := by
    revert moves
    cases expiryOf ledger mandate now with
    | stays => exact fun no => absurd rfl no
    | consumed => exact fun _ => rfl
    | released => exact fun _ => rfl
    | expired => exact fun _ => rfl
  rw [clocked, expired, if_neg moves]
  split <;> exact ended

-- A broken record verifies after the clock exactly when that restores it.
theorem clocked_intact (broken : mandate.intact host = false) :
    (clocked host ledger now mandate).intact host = restores host ledger mandate now := by
  rw [restores]
  by_cases stays : expiryOf ledger mandate now = .stays
  · rw [clocked_of_stays stays, broken]
    simp [stays]
  · rw [clocked, expired, if_neg stays, if_neg (by simp [broken]), decide_eq_true stays,
      Bool.true_and]
    rfl

-- A dead record is never found verified and waiting for approval, at any time.
theorem Dead.refuses (dead : Dead host key store) (found : store.getMandate key = some mandate)
    (now : Time) : ¬((clocked host store.ledger now mandate).intact host = true ∧
      (clocked host store.ledger now mandate).status = .pending) := by
  obtain ⟨record, there, ended⟩ := dead
  rw [found, Option.some.injEq] at there
  subst there
  rintro ⟨intact, pending⟩
  by_cases stays : expiryOf store.ledger mandate now = .stays
  · rw [clocked_of_stays stays] at intact pending
    rcases ended with broken | closed
    · rw [broken] at intact
      cases intact
    · rw [pending] at closed
      cases closed
  · have closed : (clocked host store.ledger now mandate).status.isLive = false :=
      clocked_ended stays
    rw [pending] at closed
    cases closed

theorem step_dead (dead : Dead host key store) : Dead host key (store.step host event) := by
  obtain ⟨mandate, found, ended⟩ := dead
  obtain ⟨after, there, move⟩ : ∃ after, (store.step host event).getMandate key = some after ∧
      RecordMove host key store event mandate after := step_record event found
  refine ⟨after, there, ?_⟩
  cases move with
  | same => exact ended
  | clocked now =>
    by_cases stays : expiryOf store.ledger mandate now = .stays
    · rw [clocked_of_stays stays]
      exact ended
    · exact Or.inr (clocked_ended stays)
  | voided fields _ rejected =>
    right
    rw [show (CartMandate.signed host fields).status = .rejected from rejected]
    rfl
  | approved fields approver now keyReads is intact pending =>
    exact absurd ⟨intact, pending⟩ (Dead.refuses ⟨mandate, found, ended⟩ found now)
  | noted fields intact noted =>
    right
    rcases ended with broken | closed
    · rw [broken] at intact
      cases intact
    · rcases noted with approved | ⟨_, consumed⟩
      · rw [approved] at closed
        cases closed
      · rw [show (CartMandate.signed host fields).status = .consumed from consumed]
        rfl

-- A broken record stays broken through exactly the events that do not mend it.
theorem step_broken (broken : Broken host key store) :
    Broken host key (store.step host event) ↔ Unmended host key store event := by
  obtain ⟨mandate, found, invalid⟩ := broken_iff.mp broken
  obtain ⟨after, there, move⟩ : ∃ after, (store.step host event).getMandate key = some after ∧
      RecordMove host key store event mandate after := step_record event found
  rw [broken_found there, Unmended]
  cases move with
  | same unsigned noClock => simp [unsigned, noClock, invalid]
  | clocked now unsigned clock => simp [unsigned, clock, found, clocked_intact invalid]
  | voided fields unchecked => simp [unchecked, signed_intact]
  | approved fields approver now keyReads is intact pending =>
    exact absurd ⟨intact, pending⟩
      (Dead.refuses ⟨mandate, found, Or.inl invalid⟩ found now)
  | noted fields intact =>
    rw [invalid] at intact
    cases intact

end Records

/-- Over every run that starts with an edited record: it never verifies and no operation
on it brings its payment further, exactly when no event mends it. -/
theorem edited_record_stays_broken_exactly (host : MandateHost) (key : MandateId)
    (store : MandateStore) (run : List StoreEvent) (edited : Broken host key store) :
    (Always (step host) (Broken host key) store run ∧
        Along (step host) (LeavesPayment host key) store run) ↔
      Along (step host) (Unmended host key) store run := by
  have exactly : Always (step host) (Broken host key) store run ↔
      Along (step host) (Unmended host key) store run :=
    always_iff_along (step host) (fun _ => True) (Broken host key) (Unmended host key)
      (fun _ _ _ => trivial) (fun _ event _ broken => step_broken event broken) run store trivial
      edited
  rw [exactly]
  refine ⟨And.left, fun unmended => ⟨unmended, ?_⟩⟩
  apply along_of_invariant (step host) (Dead host key) (Unmended host key)
  · exact fun current event dead _ => step_dead event dead
  · exact fun current event dead _ =>
      step_leaves_payment event fun mandate found now => dead.refuses found now
  · obtain ⟨mandate, found, invalid⟩ := broken_iff.mp edited
    exact ⟨mandate, found, Or.inl invalid⟩
  · exact unmended

def digestHost : MandateHost where
  sign fields := s!"{fields.mandateId}|{fields.userId}|{fields.amount}|{fields.status.value}"
  money text := if text = "499.00" then some 49900 else none
  price _ := "499.00"

def editedMandate : CartMandate where
  mandateId := "m"
  userId := "u"
  merchant := "shop"
  cartHash := "h"
  amount := "4990.00"
  currency := "INR"
  paymentId := "p"
  createdAt := 0
  expiresAt := seconds 900
  sig := "m|u|499.00|pending"

def editedStore : MandateStore where
  mandates := (Table.empty MandateEntry.key).set ⟨"m", editedMandate⟩
  keyCached := false
  file := none
  saves _ := true
  writes := 0
  ledger := (Processing.emptyLedger fun _ => true).createPaymentRequest Processing.samplePayment true

/-- The owner looks at it and tries to approve it, and the sweep finds it due. -/
theorem edited_record_refused_and_expired :
    (Always (step digestHost) (Broken digestHost "m") editedStore
        [.get "m" 1 true, .approve "m" "u" 2 true, .sweepExpired (seconds 1000) true] ∧
      Along (step digestHost) (LeavesPayment digestHost "m") editedStore
        [.get "m" 1 true, .approve "m" "u" 2 true, .sweepExpired (seconds 1000) true]) ↔
      Along (step digestHost) (Unmended digestHost "m") editedStore
        [.get "m" 1 true, .approve "m" "u" 2 true, .sweepExpired (seconds 1000) true] :=
  edited_record_stays_broken_exactly digestHost "m" editedStore _ (by decide +kernel)

/-- The owner declines the card of an edited record: it verifies from then on, with the
amount that nobody was shown. -/
theorem declining_signs_edited_record :
    Broken digestHost "m" editedStore ∧
      ¬Always (step digestHost) (Broken digestHost "m") editedStore [.reject "m" "u" 1 true] := by
  decide +kernel

end MandateStore

end Hartos.Ap2
