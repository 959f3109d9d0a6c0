import Hartos.MandateRecords

/-!
What every operation of a mandate store makes of the record under a key, and of the
payments. Four operations look at the signature before they sign; `reject`, `withdraw`
and `supersede` sign whatever the record says.
-/
namespace Hartos.Ap2
open KeyedTable StepSystem

namespace MandateStore

inductive StoreEvent where
  | create (request : MandateRequest) (now : Time) (keyReads : Bool)
  | get (key : MandateId) (now : Time) (keyReads : Bool)
  | findByPaymentId (paymentId : PaymentId) (now : Time) (keyReads : Bool)
  | approve (key : MandateId) (approverId : String) (now : Time) (keyReads : Bool)
  | reject (key : MandateId) (approverId : String) (now : Time) (keyReads : Bool)
  | withdraw (key : MandateId) (reason : String) (now : Time) (keyReads : Bool)
  | supersede (userId merchant kind : String) (cartRef : Option String) (now : Time)
      (keyReads : Bool)
  | sweepExpired (now : Time) (keyReads : Bool)
  | consume (key : MandateId) (keyReads : Bool)
  | recordOrder (key : MandateId) (orderRef : String) (keyReads : Bool)
  | recordOrderSent (key : MandateId) (now : Time) (keyReads : Bool)
  | beginSettle (key : MandateId)
  | endSettle (key : MandateId)
  | elsewhere (ledger : PaymentLedger)

def step (host : MandateHost) (store : MandateStore) : StoreEvent → MandateStore
  | .create request now keyReads =>
      -- Both ids are fresh uuids.
      if request.mandateId ∉ store.mandates.keys ∧
          store.ledger.getPayment request.paymentId = none then
        (store.createCartMandate host request now keyReads).2
      else store
  | .get key now keyReads => (store.get host key now keyReads).2
  | .findByPaymentId paymentId now keyReads =>
      (store.findByPaymentId host paymentId now keyReads).2
  | .approve key approverId now keyReads => (store.approve host key approverId now keyReads).2
  | .reject key approverId now keyReads => (store.reject host key approverId now keyReads).2
  | .withdraw key reason now keyReads => (store.withdraw host key reason now keyReads).2
  | .supersede userId merchant kind cartRef now keyReads =>
      (store.supersede host userId merchant kind cartRef now keyReads).2
  | .sweepExpired now keyReads => (store.sweepExpired host now keyReads).2
  | .consume key keyReads => (store.consume host key keyReads).2
  | .recordOrder key orderRef keyReads => (store.recordOrder host key orderRef keyReads).2
  | .recordOrderSent key now keyReads => (store.recordOrderSent host key now keyReads).2
  | .beginSettle key => (store.beginSettle key).2
  | .endSettle key => store.endSettle key
  | .elsewhere ledger => { store with ledger := ledger }

/-- The statuses of a payment whose mandate `supersede` voids: it can be cancelled, or
ended with no money taken. -/
def isStoppable (payment : PaymentRequest) : Bool :=
  decide (payment.status ∈ [PaymentStatus.pending, .approvalRequired, .authorized, .failed,
    .cancelled, .refunded]) && !moneyTaken payment

variable (host : MandateHost) {before after : PaymentLedger}

theorem isStoppable_cancelled (change : Cancelled before after) (paymentId : PaymentId) :
    (after.getPayment paymentId).any isStoppable = (before.getPayment paymentId).any isStoppable := by
  cases found : before.getPayment paymentId with
  | none => rw [change.missing _ found]
  | some payment =>
    obtain ⟨later, there, metadata, status⟩ := change.others _ payment found
    rw [there]
    simp only [Option.any_some, isStoppable]
    rcases status with same | ⟨open', cancelled⟩
    · rw [same, moneyTaken, same, metadata, moneyTaken]
    · simp only [moneyTaken, cancelled]
      revert open'
      cases payment.status <;> simp

def voidedRecord (host : MandateHost) (ledger : PaymentLedger) (mandate : CartMandate) :
    CartMandate :=
  if mandate.status.isLive && (ledger.getPayment mandate.paymentId).any isStoppable then
    CartMandate.signed host { mandate.toMandateFields with status := .rejected }
  else mandate

theorem voidedRecord_cancelled (change : Cancelled before after) :
    voidedRecord host after = voidedRecord host before := by
  funext mandate
  rw [voidedRecord, isStoppable_cancelled change, voidedRecord]

-- Cancelled now, or ended before with nothing taken: the loop's test is `isStoppable`.
theorem voids_iff (ledger : PaymentLedger) (paymentId : PaymentId) (actorId reason : String)
    (now : Time) (untaken : ¬(ledger.getPayment paymentId).any moneyTaken = true) :
    ((ledger.cancelPayment paymentId actorId reason now).1 ||
        (ledger.statusOf paymentId).any (· ∈ [PaymentStatus.failed, .cancelled, .refunded])) =
      (ledger.getPayment paymentId).any isStoppable := by
  unfold PaymentLedger.statusOf PaymentLedger.cancelPayment
  cases found : ledger.getPayment paymentId with
  | none => rfl
  | some payment =>
    have nothing : moneyTaken payment = false := by
      simpa [found] using untaken
    simp only [Option.any_some, Option.map_some, isStoppable, nothing]
    cases payment.status <;> simp

theorem voidMandate_visits (now : Time) (state : MandateStore × Nat × Nat) (key : MandateId) :
    Visits state.1 (voidMandate host now state key).1 key (voidedRecord host) := by
  unfold voidMandate
  cases found : state.1.getMandate key with
  | none =>
    apply Visits.idle
    rw [found]
    rfl
  | some mandate =>
    have left (kept : voidedRecord host state.1.ledger mandate = mandate) :
        Visits state.1 state.1 key (voidedRecord host) := by
      apply Visits.idle
      rw [found, Option.map_some, kept]
    dsimp only
    split
    · rename_i passed
      apply left
      unfold voidedRecord
      rcases passed with dead | taken
      · rw [dead]
        rfl
      · cases there : state.1.ledger.getPayment mandate.paymentId with
        | none => simp
        | some payment =>
          rw [there, Option.any_some] at taken
          simp [isStoppable, taken]
    · rename_i open'
      rw [not_or] at open'
      have live : mandate.status.isLive = true := by simpa using open'.1
      rw [voids_iff _ _ _ _ _ open'.2]
      by_cases stoppable :
          (state.1.ledger.getPayment mandate.paymentId).any isStoppable = true
      · rw [if_pos stoppable]
        refine ⟨cancelPayment_cancelled state.1.ledger _ _ _ now, fun wanted => ?_⟩
        rw [getMandate_put]
        split
        · rename_i same
          rw [← same, found, Option.map_some, voidedRecord, live, stoppable]
          rfl
        · rfl
      · rw [if_neg stoppable]
        apply left
        rw [voidedRecord, if_neg]
        simp [stoppable]

/-- The store as `supersede` tests it, with the clock read. -/
def superseding (host : MandateHost) (store : MandateStore) (keys : List MandateId) (now : Time) :
    MandateStore :=
  keys.foldl (fun current key => current.expireIfDue host key now) store.withKey

def supersedeRefused (host : MandateHost) (store : MandateStore) (keys : List MandateId)
    (cartRef : Option String) (now : Time) : Bool :=
  keys.any fun key =>
    ((superseding host store keys now).getMandate key).any fun mandate =>
      ((superseding host store keys now).holdsUp cartRef mandate).isSome

def signsUnchecked (host : MandateHost) (key : MandateId) (store : MandateStore) :
    StoreEvent → Bool
  | .reject named approverId _ keyReads =>
      decide (named = key) && store.ready keyReads && (store.getMandate key).any fun mandate =>
        decide (approverId = mandate.userId) && decide (mandate.status = .pending)
  | .withdraw named _ _ keyReads =>
      decide (named = key) && store.ready keyReads && (store.getMandate key).any fun mandate =>
        decide (mandate.status = .approved) && !store.moneyInFlight mandate.paymentId
  | .supersede userId merchant kind cartRef now keyReads =>
      store.ready keyReads && decide (key ∈ store.mine userId merchant kind) &&
        !supersedeRefused host store (store.mine userId merchant kind) cartRef now &&
        (store.getMandate key).any fun mandate =>
          (clocked host store.ledger now mandate).status.isLive &&
            (store.ledger.getPayment mandate.paymentId).any isStoppable
  | _ => false

def readsClock (key : MandateId) (store : MandateStore) : StoreEvent → Option Time
  | .create request now keyReads =>
      if store.ready keyReads = true ∧ request.mandateId ∉ store.mandates.keys ∧
          store.ledger.getPayment request.paymentId = none then some now else none
  | .get named now keyReads =>
      if named = key ∧ store.ready keyReads = true then some now else none
  | .findByPaymentId paymentId now keyReads =>
      if store.keyOfPayment paymentId = some key ∧ store.ready keyReads = true then some now else none
  | .approve named _ now keyReads =>
      if named = key ∧ store.ready keyReads = true then some now else none
  | .supersede userId merchant kind _ now keyReads =>
      if key ∈ store.mine userId merchant kind ∧ store.ready keyReads = true then some now else none
  | .sweepExpired now keyReads => if store.ready keyReads = true then some now else none
  | _ => none

inductive RecordMove (host : MandateHost) (key : MandateId) (store : MandateStore)
    (event : StoreEvent) (mandate : CartMandate) : CartMandate → Prop
  | same (unsigned : signsUnchecked host key store event = false)
      (noClock : readsClock key store event = none) : RecordMove host key store event mandate mandate
  | clocked (now : Time) (unsigned : signsUnchecked host key store event = false)
      (clock : readsClock key store event = some now) :
      RecordMove host key store event mandate (clocked host store.ledger now mandate)
  | voided (fields : MandateFields) (unchecked : signsUnchecked host key store event = true)
      (rejected : fields.status = .rejected) :
      RecordMove host key store event mandate (CartMandate.signed host fields)
  | approved (fields : MandateFields) (approver : String) (now : Time) (keyReads : Bool)
      (is : event = .approve key approver now keyReads)
      (intact : (MandateStore.clocked host store.ledger now mandate).intact host = true)
      (pending : (MandateStore.clocked host store.ledger now mandate).status = .pending) :
      RecordMove host key store event mandate (CartMandate.signed host fields)
  | noted (fields : MandateFields) (intact : mandate.intact host = true)
      (from' : mandate.status = .approved ∨
        (mandate.status = .consumed ∧ fields.status = .consumed)) :
      RecordMove host key store event mandate (CartMandate.signed host fields)

section Steps
variable {host : MandateHost} {key : MandateId} {store : MandateStore} {mandate : CartMandate}

theorem mem_keys_of_getMandate (found : store.getMandate key = some mandate) :
    key ∈ store.mandates.keys := by
  by_contra absent
  rw [getMandate, (Table.get?_none store.mandates key).mpr absent] at found
  cases found

theorem expireIfDue_found (host : MandateHost) (store : MandateStore) (key : MandateId)
    (mandate : CartMandate) (found : store.getMandate key = some mandate) (now : Time) :
    (store.expireIfDue host key now).getMandate key =
      some (clocked host store.ledger now mandate) := by
  rw [expireIfDue_getMandate, if_pos rfl, found]
  rfl

variable (event : StoreEvent) (request : MandateRequest) {α : Type} (named : MandateId)
  (approverId : String) (now : Time) (keyReads : Bool)

/-- An operation on another key, and one that needs a key that cannot be read. -/
theorem onMandate_other {named : MandateId} {keyReads : Bool} {absent : α}
    {act : MandateStore → CartMandate → Reply α} (found : store.getMandate key = some mandate)
    (frame : ∀ record, (act store.withKey record).2.getMandate key = store.getMandate key) :
    (store.onMandate named keyReads absent act).2.getMandate key = some mandate := by
  unfold onMandate
  split
  · split
    · exact found
    · exact (frame _).trans found
  · exact found

theorem onMandate_here {keyReads : Bool} {absent : α} {act : MandateStore → CartMandate → Reply α}
    (found : store.getMandate key = some mandate) :
    store.onMandate key keyReads absent act =
      if store.ready keyReads then act store.withKey mandate else (.error .paymentsPaused, store) := by
  rw [onMandate, found]

section

variable (found : store.getMandate key = some mandate)
include found

theorem create_record :
    ∃ after, (store.step host (.create request now keyReads)).getMandate key = some after ∧
      RecordMove host key store (.create request now keyReads) mandate after := by
  by_cases fresh : request.mandateId ∉ store.mandates.keys ∧
      store.ledger.getPayment request.paymentId = none
  · rw [step, if_pos fresh, createCartMandate]
    cases ready : store.ready keyReads with
    | false =>
      refine ⟨mandate, found, .same rfl ?_⟩
      rw [readsClock, ready, if_neg (by simp)]
    | true =>
      have spec := store.withKey.sweepExpired_spec host now keyReads
      have swept := spec.2 key
      rw [if_pos (show store.withKey.ready keyReads = true from rfl),
        show store.withKey.getMandate key = some mandate from found, Option.map_some] at swept
      refine ⟨clocked host store.ledger now mandate, ?_, .clocked now rfl ?_⟩
      · rw [if_pos rfl]
        have other : request.mandateId ≠ key := by
          rintro rfl
          exact fresh.1 (mem_keys_of_getMandate found)
        generalize store.withKey.sweepExpired host now keyReads = answer at swept
        obtain ⟨outcome, after⟩ := answer
        cases outcome with
        | error error => exact swept
        | ok count =>
          dsimp only
          split
          · exact swept
          · rw [saved_getMandate, getMandate_put, if_neg other]
            exact swept
      · rw [readsClock, if_pos ⟨ready, fresh⟩]
  · refine ⟨mandate, ?_, .same rfl ?_⟩
    · rw [step, if_neg fresh]
      exact found
    · rw [readsClock, if_neg fun all => fresh all.2]

theorem get_record :
    (store.get host named now keyReads).2.getMandate key =
      some (if named = key ∧ store.ready keyReads = true then clocked host store.ledger now mandate
        else mandate) := by
  have spec := (store.expireAll_spec host [named] (List.nodup_singleton named) now keyReads).2 key
  have kept : (store.get host named now keyReads).2 =
      (store.expireAll host [named] now keyReads).2 := by
    unfold get
    generalize store.expireAll host [named] now keyReads = answer
    obtain ⟨outcome, after⟩ := answer
    cases outcome <;> rfl
  rw [kept, spec, found]
  simp only [List.mem_singleton, Option.map_some, @eq_comm _ key]
  split <;> rfl

theorem approve_record :
    ∃ after, (store.step host (.approve named approverId now keyReads)).getMandate key = some after ∧
      RecordMove host key store (.approve named approverId now keyReads) mandate after := by
  by_cases same : named = key
  · subst same
    rw [step, approve, onMandate_here found]
    cases ready : store.ready keyReads with
    | false =>
      refine ⟨mandate, found, .same rfl ?_⟩
      rw [readsClock, if_neg (by simp [ready])]
    | true =>
      have current := expireIfDue_found host store.withKey named mandate found now
      have clock : readsClock named store (.approve named approverId now keyReads) = some now := by
        rw [readsClock, if_pos ⟨rfl, ready⟩]
      have stays : RecordMove host named store (.approve named approverId now keyReads) mandate
          (clocked host store.ledger now mandate) := .clocked now rfl clock
      rw [if_pos rfl]
      dsimp only
      rw [current]
      dsimp only
      split
      · exact ⟨_, current, stays⟩
      · rename_i intact
        split
        · exact ⟨_, current, stays⟩
        · split
          · exact ⟨_, current, stays⟩
          · rename_i pending
            split
            · exact ⟨_, current, stays⟩
            · split
              · rw [saved_getMandate, getMandate_put, if_pos rfl]
                refine ⟨_, rfl, .approved _ approverId now keyReads rfl ?_ ?_⟩
                · exact (Bool.not_eq_false _).mp intact
                · by_contra other
                  exact pending other
              · exact ⟨_, current, stays⟩
  · refine ⟨mandate, ?_, .same rfl ?_⟩
    · apply onMandate_other found
      intro record
      have kept : (store.withKey.expireIfDue host named now).getMandate key =
          store.getMandate key := by
        rw [expireIfDue_getMandate, if_neg same]
        rfl
      dsimp only
      split
      · exact kept
      · split
        · exact kept
        · split
          · exact kept
          · split
            · exact kept
            · split
              · exact kept
              · split
                · rw [saved_getMandate, getMandate_put, if_neg same]
                  exact kept
                · exact kept
    · rw [readsClock, if_neg fun both => same both.1]

end

/-- The shape of the operations that sign a record or leave it: `signs` is what they test. -/
theorem signing_record {α : Type} (absent answer : α) (signs : MandateStore → CartMandate → Bool)
    (fields : CartMandate → MandateFields) (payments : MandateStore → CartMandate → PaymentLedger)
    (act : MandateStore → CartMandate → Reply α)
    (shape : ∀ held record, (signs held record = true →
        act held record = ({ held with ledger := payments held record }.put named
          (CartMandate.signed host (fields record))).saved answer) ∧
      (signs held record = false → (act held record).2 = held))
    (found : store.getMandate key = some mandate) :
    (store.onMandate named keyReads absent act).2.getMandate key =
      some (if named = key ∧ store.ready keyReads = true ∧ signs store.withKey mandate = true then
        CartMandate.signed host (fields mandate) else mandate) := by
  by_cases same : named = key
  · subst same
    rw [onMandate_here found]
    cases ready : store.ready keyReads with
    | false => simp [found]
    | true =>
      rw [if_pos rfl]
      cases goes : signs store.withKey mandate with
      | true =>
        rw [(shape store.withKey mandate).1 goes, saved_getMandate, getMandate_put, if_pos rfl]
        simp
      | false =>
        rw [(shape store.withKey mandate).2 goes, if_neg (by simp)]
        exact found
  · rw [if_neg fun all => same all.1]
    apply onMandate_other found
    intro record
    cases goes : signs store.withKey record with
    | true =>
      rw [(shape store.withKey record).1 goes, saved_getMandate, getMandate_put, if_neg same]
      rfl
    | false =>
      rw [(shape store.withKey record).2 goes]
      rfl

theorem reject_record (found : store.getMandate key = some mandate) :
    ∃ after, (store.step host (.reject named approverId now keyReads)).getMandate key = some after ∧
      RecordMove host key store (.reject named approverId now keyReads) mandate after := by
  have spec : (store.reject host named approverId now keyReads).2.getMandate key =
      some (if named = key ∧ store.ready keyReads = true ∧
          (decide (approverId = mandate.userId) && decide (mandate.status = .pending)) = true then
        CartMandate.signed host
          { mandate.toMandateFields with status := .rejected, approverId := some approverId }
        else mandate) := by
    refine signing_record named keyReads _ (true, "rejected")
      (fun _ record => decide (approverId = record.userId) && decide (record.status = .pending))
      (fun record =>
        { record.toMandateFields with status := .rejected, approverId := some approverId })
      (fun held record => (held.ledger.cancelPayment record.paymentId (personIdPrefix ++ approverId)
        "declined by the owner" now).2) _ ?_ found
    intro held record
    constructor
    · intro goes
      simp only [Bool.and_eq_true, decide_eq_true_eq] at goes
      rw [if_neg (not_not.mpr goes.1), if_neg (not_not.mpr goes.2)]
    · intro stops
      split
      · rfl
      · split
        · rfl
        · rename_i owner pending
          exact absurd stops (by simp [not_not.mp owner, not_not.mp pending])
  refine ⟨_, spec, ?_⟩
  split
  · rename_i goes
    refine .voided _ ?_ rfl
    simpa [signsUnchecked, found, goes.1, goes.2.1] using goes.2.2
  · rename_i stops
    refine .same ?_ rfl
    rw [← Bool.not_eq_true]
    intro unchecked
    apply stops
    simpa [signsUnchecked, found, and_assoc] using unchecked

theorem withdraw_record (reason : String) (now : Time) (keyReads : Bool)
    (found : store.getMandate key = some mandate) :
    ∃ after, (store.step host (.withdraw named reason now keyReads)).getMandate key = some after ∧
      RecordMove host key store (.withdraw named reason now keyReads) mandate after := by
  have spec : (store.withdraw host named reason now keyReads).2.getMandate key =
      some (if named = key ∧ store.ready keyReads = true ∧
          (decide (mandate.status = .approved) &&
            !store.moneyInFlight mandate.paymentId) = true then
        CartMandate.signed host { mandate.toMandateFields with status := .rejected }
        else mandate) := by
    refine signing_record named keyReads _ true
      (fun held record =>
        decide (record.status = .approved) && !held.moneyInFlight record.paymentId)
      (fun record => { record.toMandateFields with status := .rejected })
      (fun held record => (held.ledger.cancelPayment record.paymentId "ap2_mandate" reason now).2)
      _ ?_ found
    intro held record
    constructor
    · intro goes
      simp only [Bool.and_eq_true, decide_eq_true_eq, Bool.not_eq_true'] at goes
      rw [if_neg (not_not.mpr goes.1), if_neg (by simp [goes.2])]
    · intro stops
      split
      · rfl
      · split
        · rfl
        · rename_i approved free
          exact absurd stops (by simp [not_not.mp approved, free])
  refine ⟨_, spec, ?_⟩
  split
  · rename_i goes
    refine .voided _ ?_ rfl
    simpa [signsUnchecked, found, goes.1, goes.2.1] using goes.2.2
  · rename_i stops
    refine .same ?_ rfl
    rw [← Bool.not_eq_true]
    intro unchecked
    apply stops
    simpa [signsUnchecked, found, and_assoc] using unchecked

/-- The operations that test the signature first, on an unbroken record. -/
theorem noting_record (absent answer : α) (signs : CartMandate → Bool)
    (fields : CartMandate → MandateFields) (event : StoreEvent)
    (act : MandateStore → CartMandate → Reply α)
    (is : (store.step host event) = (store.onMandate named keyReads absent act).2)
    (shape : ∀ held record, (signs record = true → act held record =
        (held.put named (CartMandate.signed host (fields record))).saved answer) ∧
      (signs record = false → (act held record).2 = held))
    (checks : ∀ record, signs record = true → record.intact host = true ∧
      (record.status = .approved ∨ (record.status = .consumed ∧ (fields record).status = .consumed)))
    (unsigned : signsUnchecked host key store event = false)
    (noClock : readsClock key store event = none) (found : store.getMandate key = some mandate) :
    ∃ after, (store.step host event).getMandate key = some after ∧
      RecordMove host key store event mandate after := by
  have spec := signing_record named keyReads absent answer (fun _ => signs) fields
    (fun held _ => held.ledger) act shape found
  rw [is]
  refine ⟨_, spec, ?_⟩
  split
  · rename_i goes
    have checked := checks mandate goes.2.2
    exact .noted _ checked.1 checked.2
  · exact .same unsigned noClock

theorem consume_record (found : store.getMandate key = some mandate) :
    ∃ after, (store.step host (.consume named keyReads)).getMandate key = some after ∧
      RecordMove host key store (.consume named keyReads) mandate after := by
  refine noting_record named keyReads false true
    (fun record => decide (record.status = .approved) && record.intact host)
    (fun record => { record.toMandateFields with status := .consumed }) (.consume named keyReads)
    _ rfl ?_ ?_ rfl rfl found
  · intro held record
    simp only [Bool.and_eq_true, decide_eq_true_eq]
    constructor
    · intro goes
      rw [if_pos goes]
    · intro stops
      rw [if_neg (by simpa using stops)]
  · intro record goes
    simp only [Bool.and_eq_true, decide_eq_true_eq] at goes
    exact ⟨goes.2, Or.inl goes.1⟩

theorem recordOrder_record (orderRef : String) (keyReads : Bool)
    (found : store.getMandate key = some mandate) :
    ∃ after, (store.step host (.recordOrder named orderRef keyReads)).getMandate key = some after ∧
      RecordMove host key store (.recordOrder named orderRef keyReads) mandate after := by
  refine noting_record named keyReads false true
    (fun record => decide (record.status = .consumed ∧
      SmartLedger.nonEmpty record.orderRef = false ∧ record.intact host = true))
    (fun record => { record.toMandateFields with orderRef := some orderRef })
    (.recordOrder named orderRef keyReads) _ rfl ?_ ?_ rfl rfl found
  · intro held record
    constructor
    · intro goes
      rw [if_pos (of_decide_eq_true goes)]
    · intro stops
      rw [if_neg (of_decide_eq_false stops)]
  · intro record goes
    have checked := of_decide_eq_true goes
    exact ⟨checked.2.2, Or.inr ⟨checked.1, checked.1⟩⟩

theorem recordOrderSent_record (found : store.getMandate key = some mandate) :
    ∃ after, (store.step host (.recordOrderSent named now keyReads)).getMandate key = some after ∧
      RecordMove host key store (.recordOrderSent named now keyReads) mandate after := by
  refine noting_record named keyReads false true
    (fun record => decide (record.status = .consumed ∧ record.orderSent.getD 0 = 0 ∧
      record.intact host = true))
    (fun record => { record.toMandateFields with orderSent := some now })
    (.recordOrderSent named now keyReads) _ rfl ?_ ?_ rfl rfl found
  · intro held record
    constructor
    · intro goes
      rw [if_pos (of_decide_eq_true goes)]
    · intro stops
      rw [if_neg (of_decide_eq_false stops)]
  · intro record goes
    have checked := of_decide_eq_true goes
    exact ⟨checked.2.2, Or.inr ⟨checked.1, checked.1⟩⟩

theorem mine_distinct (store : MandateStore) (userId merchant kind : String) :
    (store.mine userId merchant kind).Nodup :=
  store.mandates.unique.sublist (List.filter_sublist.map MandateEntry.key)

section

variable (host : MandateHost)

theorem clocked_paymentId (ledger : PaymentLedger) (now : Time) (mandate : CartMandate) :
    (clocked host ledger now mandate).paymentId = mandate.paymentId := by
  unfold clocked expired
  generalize expiryOf ledger mandate now = expiry
  split
  · rfl
  · split <;> (cases expiry <;> rfl)

theorem superseding_spec (store : MandateStore) (keys : List MandateId) (distinct : keys.Nodup)
    (now : Time) :
    Cancelled store.ledger (superseding host store keys now).ledger ∧
      ∀ wanted, (superseding host store keys now).getMandate wanted =
        if wanted ∈ keys then (store.getMandate wanted).map (clocked host store.ledger now)
        else store.getMandate wanted :=
  expire_fold host now keys distinct store.withKey

theorem void_fold (now : Time) (keys : List MandateId) (distinct : keys.Nodup)
    (state : MandateStore × Nat × Nat) (wanted : MandateId) :
    (keys.foldl (voidMandate host now) state).1.getMandate wanted =
      if wanted ∈ keys then (state.1.getMandate wanted).map (voidedRecord host state.1.ledger)
      else state.1.getMandate wanted :=
  (visit_fold Prod.fst (voidMandate host now) (voidedRecord host) (voidMandate_visits host now)
    (fun _ _ change => voidedRecord_cancelled host change) keys distinct state).2 wanted

theorem supersede_getMandate (store : MandateStore) (userId merchant kind : String)
    (cartRef : Option String) (now : Time) (keyReads : Bool) (ready : store.ready keyReads = true)
    (wanted : MandateId) :
    (store.supersede host userId merchant kind cartRef now keyReads).2.getMandate wanted =
      if supersedeRefused host store (store.mine userId merchant kind) cartRef now then
        (superseding host store (store.mine userId merchant kind) now).getMandate wanted
      else
        ((store.mine userId merchant kind).foldl (voidMandate host now)
          (superseding host store (store.mine userId merchant kind) now, 0, 0)).1.getMandate
            wanted := by
  have refused : supersedeRefused host store (store.mine userId merchant kind) cartRef now =
      ((store.mine userId merchant kind).findSome? fun key =>
        ((superseding host store (store.mine userId merchant kind) now).getMandate key).bind
          ((superseding host store (store.mine userId merchant kind) now).holdsUp cartRef)).isSome := by
    rw [supersedeRefused, Bool.eq_iff_iff, List.findSome?_isSome_iff, List.any_eq_true]
    constructor
    · rintro ⟨key, inside, held⟩
      obtain ⟨mandate, there, holds⟩ := Option.any_eq_true _ _ |>.mp held
      exact ⟨key, inside, by rw [there]; exact holds⟩
    · rintro ⟨key, inside, held⟩
      obtain ⟨refusal, there⟩ := Option.isSome_iff_exists.mp held
      obtain ⟨mandate, found, holds⟩ := Option.bind_eq_some_iff.mp there
      exact ⟨key, inside, by rw [found]; simp [holds]⟩
  rw [refused, supersede, if_pos ready]
  dsimp only
  rw [← superseding]
  cases (store.mine userId merchant kind).findSome? fun key =>
      ((superseding host store (store.mine userId merchant kind) now).getMandate key).bind
        ((superseding host store (store.mine userId merchant kind) now).holdsUp cartRef) with
  | some refusal => rfl
  | none =>
      dsimp only
      split
      · exact saved_getMandate _ _ wanted
      · rfl

end

theorem supersede_record (userId merchant kind : String) (cartRef : Option String) (now : Time)
    (keyReads : Bool) (found : store.getMandate key = some mandate) :
    ∃ after, (store.step host (.supersede userId merchant kind cartRef now keyReads)).getMandate key =
        some after ∧
      RecordMove host key store (.supersede userId merchant kind cartRef now keyReads) mandate
        after := by
  cases ready : store.ready keyReads with
  | false =>
    refine ⟨mandate, ?_, .same ?_ ?_⟩
    · rw [step, supersede, if_neg (by simp [ready])]
      exact found
    · rw [signsUnchecked, ready]
      rfl
    · rw [readsClock, if_neg (by simp [ready])]
  | true =>
    have distinct := store.mine_distinct userId merchant kind
    obtain ⟨cancelled, reads⟩ := store.superseding_spec host _ distinct now
    have spec := store.supersede_getMandate host userId merchant kind cartRef now keyReads ready key
    rw [void_fold host now _ distinct] at spec
    rw [voidedRecord_cancelled host cancelled, reads key, found] at spec
    by_cases inside : key ∈ store.mine userId merchant kind
    · have clock : readsClock key store
          (.supersede userId merchant kind cartRef now keyReads) = some now := by
        rw [readsClock, if_pos ⟨inside, ready⟩]
      simp only [if_pos inside, Option.map_some] at spec
      cases refused : supersedeRefused host store (store.mine userId merchant kind) cartRef now with
      | true =>
        refine ⟨_, by rw [refused] at spec; exact spec, .clocked now ?_ clock⟩
        rw [signsUnchecked, refused]
        simp
      | false =>
        rw [refused, if_neg Bool.false_ne_true, voidedRecord, clocked_paymentId] at spec
        refine ⟨_, spec, ?_⟩
        split
        · rename_i goes
          refine .voided _ ?_ rfl
          rw [signsUnchecked, ready, refused, found]
          simp only [inside, decide_true, Option.any_some]
          exact goes
        · rename_i stops
          refine .clocked now ?_ clock
          rw [signsUnchecked, ready, refused, found]
          simp only [inside, decide_true, Option.any_some]
          exact Bool.eq_false_iff.mpr stops
    · simp only [if_neg inside, ite_self] at spec
      refine ⟨_, spec, .same ?_ ?_⟩
      · simp [signsUnchecked, inside]
      · rw [readsClock, if_neg fun both => inside both.1]

/-- Every operation makes one of these moves of the record under a key. -/
theorem step_record (found : store.getMandate key = some mandate) :
    ∃ after, (store.step host event).getMandate key = some after ∧
      RecordMove host key store event mandate after := by
  cases event with
  | create request now keyReads => exact create_record request now keyReads found
  | get named now keyReads =>
    refine ⟨_, get_record named now keyReads found, ?_⟩
    split
    · rename_i both
      exact .clocked now rfl (by rw [readsClock, if_pos both])
    · rename_i other
      exact .same rfl (by rw [readsClock, if_neg other])
  | findByPaymentId paymentId now keyReads =>
    rw [step, findByPaymentId]
    cases named : store.keyOfPayment paymentId with
    | none =>
      refine ⟨mandate, found, .same rfl ?_⟩
      rw [readsClock, named, if_neg (by simp)]
    | some named' =>
      refine ⟨_, get_record named' now keyReads found, ?_⟩
      split
      · rename_i both
        refine .clocked now rfl ?_
        rw [readsClock, named, if_pos ⟨congrArg some both.1, both.2⟩]
      · rename_i other
        refine .same rfl ?_
        rw [readsClock, named, if_neg fun both => other ⟨Option.some.inj both.1, both.2⟩]
  | approve named approverId now keyReads => exact approve_record named approverId now keyReads found
  | reject named approverId now keyReads => exact reject_record named approverId now keyReads found
  | withdraw named reason now keyReads => exact withdraw_record named reason now keyReads found
  | supersede userId merchant kind cartRef now keyReads =>
    exact supersede_record userId merchant kind cartRef now keyReads found
  | sweepExpired now keyReads =>
    have spec := (store.sweepExpired_spec host now keyReads).2 key
    rw [found, Option.map_some, ← apply_ite some] at spec
    refine ⟨_, spec, ?_⟩
    split
    · rename_i ready
      exact .clocked now rfl (by rw [readsClock, if_pos ready])
    · rename_i paused
      exact .same rfl (by rw [readsClock, if_neg paused])
  | consume named keyReads => exact consume_record named keyReads found
  | recordOrder named orderRef keyReads => exact recordOrder_record named orderRef keyReads found
  | recordOrderSent named now keyReads => exact recordOrderSent_record named now keyReads found
  | beginSettle named =>
    refine ⟨mandate, ?_, .same rfl rfl⟩
    rw [step, beginSettle]
    split
    · exact found
    · split <;> exact found
  | endSettle named => exact ⟨mandate, found, .same rfl rfl⟩
  | elsewhere ledger => exact ⟨mandate, found, .same rfl rfl⟩

theorem onMandate_cancelled (absent : α) (act : MandateStore → CartMandate → Reply α)
    (each : ∀ record, store.getMandate named = some record →
      Cancelled store.ledger (act store.withKey record).2.ledger) :
    Cancelled store.ledger (store.onMandate named keyReads absent act).2.ledger := by
  unfold onMandate
  split
  · split
    · exact Cancelled.refl _
    · rename_i record found
      exact each record found
  · exact Cancelled.refl _

section

variable (host : MandateHost) (store : MandateStore)

theorem get_cancelled (named : MandateId) (now : Time) (keyReads : Bool) :
    Cancelled store.ledger (store.get host named now keyReads).2.ledger := by
  have spec := (store.expireAll_spec host [named] (List.nodup_singleton named) now keyReads).1
  unfold get
  generalize store.expireAll host [named] now keyReads = answer at spec
  obtain ⟨outcome, after⟩ := answer
  cases outcome <;> exact spec

theorem supersede_cancelled (userId merchant kind : String) (cartRef : Option String) (now : Time)
    (keyReads : Bool) :
    Cancelled store.ledger
      (store.supersede host userId merchant kind cartRef now keyReads).2.ledger := by
  have distinct := store.mine_distinct userId merchant kind
  have expired := (store.superseding_spec host _ distinct now).1
  have voided := (visit_fold Prod.fst (voidMandate host now) (voidedRecord host)
    (voidMandate_visits host now) (fun _ _ change => voidedRecord_cancelled host change)
    (store.mine userId merchant kind) distinct
    (superseding host store (store.mine userId merchant kind) now, 0, 0)).1
  unfold supersede
  dsimp only
  split
  · split
    · exact expired
    · split
      · rw [saved_ledger]
        exact expired.trans voided
      · exact expired.trans voided
  · exact Cancelled.refl _

/-- An approval that is refused cancels payments at most. -/
theorem approve_cancelled (named : MandateId) (approverId : String) (now : Time) (keyReads : Bool)
    (refuses : ∀ mandate, store.getMandate named = some mandate →
      ¬((clocked host store.ledger now mandate).intact host = true ∧
        (clocked host store.ledger now mandate).status = .pending)) :
    Cancelled store.ledger (store.approve host named approverId now keyReads).2.ledger := by
  apply onMandate_cancelled
  intro record found
  have current := expireIfDue_found host store.withKey named record found now
  have expired := store.withKey.expireIfDue_cancelled host named now
  dsimp only
  rw [current]
  dsimp only
  split
  · exact expired
  · rename_i intact
    split
    · exact expired
    · split
      · exact expired
      · rename_i pending
        refine absurd ⟨?_, ?_⟩ (refuses record found)
        · exact (Bool.not_eq_false _).mp intact
        · by_contra other
          exact pending other

end

def concerns (key : MandateId) : StoreEvent → Bool
  | .approve named _ _ _ => decide (named = key)
  | .elsewhere _ => false
  | _ => true

def advanced : List PaymentStatus := [.authorized, .processing, .completed]

def LeavesPayment (host : MandateHost) (key : MandateId) (store : MandateStore)
    (event : StoreEvent) : Prop :=
  concerns key event = true → ∀ mandate ∈ store.getMandate key, ∀ status ∈ advanced,
    (store.step host event).ledger.statusOf mandate.paymentId = some status →
      store.ledger.statusOf mandate.paymentId = some status

instance (host : MandateHost) (key : MandateId) (store : MandateStore) (event : StoreEvent) :
    Decidable (LeavesPayment host key store event) :=
  inferInstanceAs (Decidable (_ → ∀ mandate ∈ _, ∀ status ∈ _, _ → _))

theorem Cancelled.stood {before after : PaymentLedger} (change : Cancelled before after)
    {paymentId : PaymentId} {status : PaymentStatus} (further : status ∈ advanced)
    (stands : after.statusOf paymentId = some status) : before.statusOf paymentId = some status := by
  obtain ⟨later, there, rfl⟩ := (PaymentLedger.statusOf_some _ _ _).mp stands
  cases found : before.getPayment paymentId with
  | none =>
    rw [change.missing _ found] at there
    cases there
  | some payment =>
    obtain ⟨other, here, _, moved⟩ := change.others _ payment found
    rw [there, Option.some.injEq] at here
    subst here
    rcases moved with same | ⟨_, cancelled⟩
    · exact (PaymentLedger.statusOf_some _ _ _).mpr ⟨payment, found, same.symm⟩
    · rw [cancelled] at further
      exact absurd further (by decide)

theorem createPaymentRequest_statusOf (ledger : PaymentLedger) (payment : PaymentRequest)
    (wanted : PaymentId) :
    (ledger.createPaymentRequest payment true).statusOf wanted =
      if payment.paymentId = wanted then some .approvalRequired else ledger.statusOf wanted :=
  PaymentLedger.statusOf_amend ledger { payment with status := .approvalRequired } wanted

theorem create_stood {paymentId : PaymentId} {status : PaymentStatus} (further : status ∈ advanced)
    (stands : (store.step host (.create request now keyReads)).ledger.statusOf paymentId =
      some status) : store.ledger.statusOf paymentId = some status := by
  rw [step] at stands
  split at stands
  · have swept := (store.withKey.sweepExpired_spec host now keyReads).1
    rw [createCartMandate] at stands
    split at stands
    · generalize store.withKey.sweepExpired host now keyReads = answer at swept stands
      obtain ⟨outcome, after⟩ := answer
      cases outcome with
      | error error => exact swept.stood further stands
      | ok count =>
        dsimp only at stands swept
        split at stands
        · exact swept.stood further stands
        · rw [saved_ledger, put_ledger, createPaymentRequest_statusOf] at stands
          split at stands
          · rw [← Option.some.inj stands] at further
            exact absurd further (by decide)
          · exact swept.stood further stands
    · exact stands
  · exact stands

theorem step_leaves_payment
    (refuses : ∀ mandate, store.getMandate key = some mandate → ∀ now,
      ¬((clocked host store.ledger now mandate).intact host = true ∧
        (clocked host store.ledger now mandate).status = .pending)) :
    LeavesPayment host key store event := by
  intro concerned mandate _ status further stands
  have stood (change : Cancelled store.ledger (store.step host event).ledger) :
      store.ledger.statusOf mandate.paymentId = some status := change.stood further stands
  cases event with
  | create request now keyReads => exact create_stood request now keyReads further stands
  | get named now keyReads => exact stood (get_cancelled host store named now keyReads)
  | findByPaymentId paymentId now keyReads =>
    apply stood
    rw [step, findByPaymentId]
    split
    · exact Cancelled.refl _
    · exact get_cancelled host store _ now keyReads
  | approve named approverId now keyReads =>
    have here := of_decide_eq_true concerned
    subst here
    exact stood (approve_cancelled host store named approverId now keyReads
      fun mandate found => refuses mandate found now)
  | reject named approverId now keyReads =>
    apply stood
    apply onMandate_cancelled
    intro record _
    split
    · exact Cancelled.refl _
    · split
      · exact Cancelled.refl _
      · rw [saved_ledger]
        exact cancelPayment_cancelled store.ledger _ _ _ now
  | withdraw named reason now keyReads =>
    apply stood
    apply onMandate_cancelled
    intro record _
    split
    · exact Cancelled.refl _
    · split
      · exact Cancelled.refl _
      · rw [saved_ledger]
        exact cancelPayment_cancelled store.ledger _ _ _ now
  | supersede userId merchant kind cartRef now keyReads =>
    exact stood (supersede_cancelled host store userId merchant kind cartRef now keyReads)
  | sweepExpired now keyReads => exact stood (store.sweepExpired_spec host now keyReads).1
  | consume named keyReads =>
    apply stood
    apply onMandate_cancelled
    intro record _
    split
    · rw [saved_ledger]
      exact Cancelled.refl _
    · exact Cancelled.refl _
  | recordOrder named orderRef keyReads =>
    apply stood
    apply onMandate_cancelled
    intro record _
    split
    · rw [saved_ledger]
      exact Cancelled.refl _
    · exact Cancelled.refl _
  | recordOrderSent named now keyReads =>
    apply stood
    apply onMandate_cancelled
    intro record _
    split
    · rw [saved_ledger]
      exact Cancelled.refl _
    · exact Cancelled.refl _
  | beginSettle named =>
    apply stood
    rw [step, beginSettle]
    split
    · exact Cancelled.refl _
    · split <;> exact Cancelled.refl _
  | endSettle named => exact stands
  | elsewhere ledger => cases concerned

end Steps

end MandateStore

end Hartos.Ap2
