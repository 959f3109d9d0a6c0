import Hartos.MandateStore
import Hartos.PaymentRuns

/-!
The records of a mandate store and what the clock makes of them. Expiry cancels
payments and nothing else, so over a whole sweep every record reads as the first
ledger says.
-/
namespace Hartos.Ap2
open KeyedTable

namespace MandateStore
variable {α : Type} (host : MandateHost) (ledger : PaymentLedger) (store : MandateStore)
  (key : MandateId) (now : Time) {before after : PaymentLedger} (mandate : CartMandate)
variable (answer : α) (wanted : MandateId) (keys : List MandateId)

theorem getMandate_put :
    (store.put key mandate).getMandate wanted =
      if key = wanted then some mandate else store.getMandate wanted := by
  unfold getMandate put
  rw [Table.get?_set]
  split <;> rfl

@[simp] theorem put_ledger : (store.put key mandate).ledger = store.ledger := rfl

theorem saved_getMandate : (store.saved answer).2.getMandate wanted = store.getMandate wanted := by
  unfold saved
  split <;> rfl

theorem saved_ledger : (store.saved answer).2.ledger = store.ledger := by
  unfold saved
  split <;> rfl

theorem signed_intact (fields : MandateFields) :
    (CartMandate.signed host fields).intact host = true :=
  decide_eq_true rfl

def clocked (host : MandateHost) (ledger : PaymentLedger) (now : Time) (mandate : CartMandate) :
    CartMandate :=
  expired host (expiryOf ledger mandate now) mandate

structure Cancelled (before after : PaymentLedger) : Prop where
  others : ∀ paymentId payment, before.getPayment paymentId = some payment →
    ∃ later, after.getPayment paymentId = some later ∧ later.metadata = payment.metadata ∧
      (later.status = payment.status ∨
        (payment.status ∈ [PaymentStatus.pending, .approvalRequired, .authorized] ∧
          later.status = .cancelled))
  missing : ∀ paymentId, before.getPayment paymentId = none → after.getPayment paymentId = none

theorem Cancelled.refl : Cancelled ledger ledger :=
  ⟨fun _ payment found => ⟨payment, found, rfl, Or.inl rfl⟩, fun _ missing => missing⟩

theorem Cancelled.trans {first second third : PaymentLedger} (one : Cancelled first second)
    (two : Cancelled second third) : Cancelled first third := by
  constructor
  · intro paymentId payment found
    obtain ⟨middle, there, sameMiddle, movedMiddle⟩ := one.others paymentId payment found
    obtain ⟨last, here, sameLast, movedLast⟩ := two.others paymentId middle there
    refine ⟨last, here, sameLast.trans sameMiddle, ?_⟩
    rcases movedMiddle with stood | ⟨open', cancelled⟩
    · rcases movedLast with stands | ⟨stillOpen, cancelled⟩
      · exact Or.inl (stands.trans stood)
      · exact Or.inr ⟨stood ▸ stillOpen, cancelled⟩
    · rcases movedLast with stands | ⟨_, again⟩
      · exact Or.inr ⟨open', stands.trans cancelled⟩
      · exact Or.inr ⟨open', again⟩
  · exact fun paymentId missing => two.missing paymentId (one.missing paymentId missing)

theorem cancelPayment_cancelled (paymentId : PaymentId) (actorId reason : String) (now : Time) :
    Cancelled ledger (ledger.cancelPayment paymentId actorId reason now).2 := by
  rcases ledger.cancelPayment_cases paymentId actorId reason now with
    ⟨same, _⟩ | ⟨_, status, open', move⟩
  · rw [same]
    exact Cancelled.refl ledger
  · obtain ⟨old, new, found, terms, stood, moved, after⟩ := move.change
    have named : new.paymentId = paymentId :=
      terms.paymentId.trans (ledger.getPayment_paymentId paymentId old found)
    rw [after]
    constructor
    · intro wanted payment there
      rw [PaymentLedger.getPayment_amend, named]
      by_cases same : paymentId = wanted
      · rw [if_pos same]
        have one : payment = old := by
          rw [← same, found] at there
          exact (Option.some.inj there).symm
        refine ⟨new, rfl, one ▸ terms.metadata, Or.inr ⟨?_, moved⟩⟩
        rw [one, stood]
        exact open'
      · rw [if_neg same]
        exact ⟨payment, there, rfl, Or.inl rfl⟩
    · intro wanted missing
      rw [PaymentLedger.getPayment_amend, named]
      have other : paymentId ≠ wanted := by
        rintro rfl
        rw [missing] at found
        cases found
      rw [if_neg other]
      exact missing

/-- Cancelling payments never changes what the clock makes of a mandate. -/
theorem expiryOf_cancelled (change : Cancelled before after) (mandate : CartMandate) (now : Time) :
    expiryOf after mandate now = expiryOf before mandate now := by
  unfold expiryOf
  cases found : before.getPayment mandate.paymentId with
  | none => rw [change.missing _ found]
  | some payment =>
    obtain ⟨later, there, metadata, status⟩ := change.others _ payment found
    rw [there]
    dsimp only
    rcases status with same | ⟨open', cancelled⟩
    · have taken : moneyTaken later = moneyTaken payment := by
        rw [moneyTaken, same, metadata, moneyTaken]
      rw [same, taken]
    · have taken : moneyTaken payment = false := by
        unfold moneyTaken
        revert open'
        cases payment.status <;> simp
      have notTaken : moneyTaken later = false := by simp [moneyTaken, cancelled]
      simp only [cancelled, taken, notTaken]
      revert open'
      cases payment.status <;> simp

theorem expireIfDue_getMandate :
    (store.expireIfDue host key now).getMandate wanted =
      if key = wanted then (store.getMandate wanted).map (clocked host store.ledger now)
      else store.getMandate wanted := by
  unfold expireIfDue
  cases found : store.getMandate key with
  | none =>
    by_cases same : key = wanted
    · rw [if_pos same, ← same, found]
      rfl
    · rw [if_neg same]
  | some mandate =>
    have kept : (store.put key (expired host (expiryOf store.ledger mandate now) mandate)).getMandate
        wanted = if key = wanted then (store.getMandate wanted).map (clocked host store.ledger now)
          else store.getMandate wanted := by
      rw [getMandate_put]
      split
      · rename_i same
        rw [← same, found]
        rfl
      · rfl
    dsimp only
    split
    · exact kept
    · exact kept

theorem expireIfDue_cancelled : Cancelled store.ledger (store.expireIfDue host key now).ledger := by
  unfold expireIfDue
  cases store.getMandate key with
  | none => exact Cancelled.refl _
  | some mandate =>
    dsimp only
    split
    · exact cancelPayment_cancelled store.ledger _ _ _ now
    · exact Cancelled.refl _

theorem clocked_cancelled (change : Cancelled before after) :
    clocked host after now = clocked host before now := by
  funext mandate
  rw [clocked, expiryOf_cancelled change, clocked]

structure Visits (before after : MandateStore) (key : MandateId)
    (change : PaymentLedger → CartMandate → CartMandate) : Prop where
  ledger : Cancelled before.ledger after.ledger
  records : ∀ wanted, after.getMandate wanted =
    if key = wanted then (before.getMandate wanted).map (change before.ledger)
    else before.getMandate wanted

theorem Visits.idle (change : PaymentLedger → CartMandate → CartMandate)
    (kept : (store.getMandate key).map (change store.ledger) = store.getMandate key) :
    Visits store store key change := by
  refine ⟨Cancelled.refl _, fun wanted => ?_⟩
  by_cases same : key = wanted
  · rw [if_pos same, ← same, kept]
  · rw [if_neg same]

theorem visit_fold {State : Type} (project : State → MandateStore)
    (visit : State → MandateId → State) (change : PaymentLedger → CartMandate → CartMandate)
    (visits : ∀ state key, Visits (project state) (project (visit state key)) key change)
    (stable : ∀ before after, Cancelled before after → change after = change before)
    (keys : List MandateId) (distinct : keys.Nodup) (state : State) :
    Cancelled (project state).ledger (project (keys.foldl visit state)).ledger ∧
      ∀ wanted, (project (keys.foldl visit state)).getMandate wanted =
        if wanted ∈ keys then ((project state).getMandate wanted).map (change (project state).ledger)
        else (project state).getMandate wanted := by
  induction keys generalizing state with
  | nil => exact ⟨Cancelled.refl _, fun wanted => by simp⟩
  | cons key rest ih =>
    obtain ⟨absent, apart⟩ := List.nodup_cons.mp distinct
    obtain ⟨ledger, records⟩ := ih apart (visit state key)
    have first := visits state key
    refine ⟨first.ledger.trans ledger, fun wanted => ?_⟩
    rw [List.foldl_cons, records wanted, first.records]
    by_cases here : key = wanted
    · subst here
      rw [if_neg absent, if_pos rfl, if_pos List.mem_cons_self]
    · rw [if_neg here, stable _ _ first.ledger]
      by_cases inside : wanted ∈ rest
      · rw [if_pos inside, if_pos (List.mem_cons_of_mem key inside)]
      · rw [if_neg inside, if_neg]
        rw [List.mem_cons, not_or]
        exact ⟨Ne.symm here, inside⟩

theorem expire_fold (distinct : keys.Nodup) (store : MandateStore) :
    Cancelled store.ledger
        (keys.foldl (fun current key => current.expireIfDue host key now) store).ledger ∧
      ∀ wanted, (keys.foldl (fun current key => current.expireIfDue host key now) store).getMandate
          wanted =
        if wanted ∈ keys then (store.getMandate wanted).map (clocked host store.ledger now)
        else store.getMandate wanted :=
  visit_fold id (fun current key => current.expireIfDue host key now)
    (fun ledger => clocked host ledger now)
    (fun current key => ⟨current.expireIfDue_cancelled host key now,
      current.expireIfDue_getMandate host key now⟩)
    (fun _ _ change => clocked_cancelled host now change) keys distinct store

theorem clocked_undue (undue : isDue mandate now = false) :
    clocked host ledger now mandate = mandate := by
  simp [clocked, expiryOf, expired, undue]

theorem expireAll_spec (distinct : keys.Nodup) (now : Time) (keyReads : Bool) :
    Cancelled store.ledger (store.expireAll host keys now keyReads).2.ledger ∧
      ∀ wanted, (store.expireAll host keys now keyReads).2.getMandate wanted =
        if wanted ∈ keys ∧ store.ready keyReads = true then
          (store.getMandate wanted).map (clocked host store.ledger now)
        else store.getMandate wanted := by
  unfold expireAll
  cases due : store.anyDue keys now with
  | true =>
    cases ready : store.ready keyReads with
    | true =>
      obtain ⟨ledger, records⟩ := expire_fold host now keys distinct store.withKey
      refine ⟨ledger, fun wanted => (records wanted).trans ?_⟩
      simp only [and_true]
      rfl
    | false => exact ⟨Cancelled.refl _, fun wanted => by simp⟩
  | false =>
    rw [if_neg Bool.false_ne_true]
    refine ⟨Cancelled.refl _, fun wanted => ?_⟩
    split
    · rename_i inside
      cases found : store.getMandate wanted with
      | none => rfl
      | some mandate =>
        have undue : isDue mandate now = false := by
          have none' := List.any_eq_false.mp due wanted inside.1
          simpa [found] using none'
        simp [clocked_undue host store.ledger now mandate undue]
    · rfl

theorem sweepExpired_spec (keyReads : Bool) :
    Cancelled store.ledger (store.sweepExpired host now keyReads).2.ledger ∧
      ∀ wanted, (store.sweepExpired host now keyReads).2.getMandate wanted =
        if store.ready keyReads = true then
          (store.getMandate wanted).map (clocked host store.ledger now)
        else store.getMandate wanted := by
  have spec := store.expireAll_spec host store.mandates.keys store.mandates.unique now keyReads
  have everyone (wanted : MandateId) :
      (store.expireAll host store.mandates.keys now keyReads).2.getMandate wanted =
        if store.ready keyReads = true then
          (store.getMandate wanted).map (clocked host store.ledger now)
        else store.getMandate wanted := by
    rw [spec.2 wanted]
    by_cases known : wanted ∈ store.mandates.keys
    · simp only [known, true_and]
    · have absent : store.getMandate wanted = none := by
        rw [getMandate, (Table.get?_none store.mandates wanted).mpr known]
        rfl
      simp [known, absent]
  unfold sweepExpired
  cases swept : store.expireAll host store.mandates.keys now keyReads with
  | mk answer after =>
    rw [swept] at spec everyone
    cases answer with
    | error error => exact ⟨spec.1, everyone⟩
    | ok done =>
      dsimp only
      split
      · exact ⟨spec.1, everyone⟩
      · rw [saved_ledger]
        exact ⟨spec.1, fun wanted => (saved_getMandate after _ wanted).trans (everyone wanted)⟩

end MandateStore

end Hartos.Ap2
