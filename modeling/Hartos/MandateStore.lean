import Hartos.PaymentLedger

/-!
The mandate store of the AP2 module: what a person agreed to pay, signed, and the
operations that move it. Every change is signed with a key that may be unreadable
until it is cached, and saved to a file whose write may raise; both end the operation
with an exception, the second after the change in memory. Records are loaded as the
file has them, under the keys the file gives them, whether or not they verify.
-/
namespace Hartos.Ap2
open KeyedTable

abbrev MandateId := String

inductive MandateStatus where
  | pending | approved | rejected | expired | consumed
  -- A status only an edited file can hold.
  | other (text : String)
  deriving DecidableEq

def MandateStatus.value : MandateStatus → String
  | .pending => "pending"
  | .approved => "approved"
  | .rejected => "rejected"
  | .expired => "expired"
  | .consumed => "consumed"
  | .other text => text

def MandateStatus.isLive : MandateStatus → Bool
  | .pending | .approved => true
  | _ => false

structure IntentMandate where
  userId : String
  merchant : String
  cap : Option Int
  currency : String
  expiresAt : Time
  deriving DecidableEq

structure MandateFields where
  mandateId : MandateId
  userId : String
  merchant : String
  cartHash : String
  amount : String
  currency : String
  paymentId : PaymentId
  status : MandateStatus := .pending
  approverId : Option String := none
  approvedAt : Option Time := none
  createdAt : Time
  expiresAt : Time
  intent : Option IntentMandate := none
  kind : String := "generic"
  description : String := ""
  orderRef : Option String := none
  cartRef : Option String := none
  orderSent : Option Time := none
  deriving DecidableEq

def kindGeneric : String := "generic"

structure CartMandate extends MandateFields where
  sig : String
  deriving DecidableEq

structure MandateHost where
  sign : MandateFields → String
  money : String → Option Int
  price : Int → String

namespace CartMandate
variable (host : MandateHost) (mandate : CartMandate)

def intact : Bool :=
  decide (mandate.sig = host.sign mandate.toMandateFields)

def signed (fields : MandateFields) : CartMandate :=
  { fields with sig := host.sign fields }

def unsigned (fields : MandateFields) : CartMandate :=
  { fields with sig := mandate.sig }

def paymentMatches (payment : PaymentRequest) : Bool :=
  decide (host.money mandate.amount = some payment.amount) &&
    decide (payment.currency.toUpper = mandate.currency.toUpper)

end CartMandate

structure MandateEntry where
  key : MandateId
  mandate : CartMandate
  deriving DecidableEq

abbrev MandateTable := Table MandateEntry.key

structure MandateStore where
  mandates : MandateTable
  settling : List MandateId := []
  keyCached : Bool
  file : Option MandateTable
  saves : Nat → Bool
  writes : Nat
  ledger : PaymentLedger

inductive StoreError where
  -- `MandateKeyError`: payments are paused, nothing was changed.
  | paymentsPaused
  | saveFailed
  -- `MandateError`, with its text.
  | refused (reason : String)
  deriving DecidableEq

abbrev Reply (α : Type) := Except StoreError α × MandateStore

def processingReconcileAfter : Time := seconds (24 * 3600)

def defaultMandateTtl : Time := seconds (15 * 60)

inductive Expiry where
  | stays
  | consumed
  | released
  | expired
  deriving DecidableEq

namespace MandateStore
variable (host : MandateHost) (store : MandateStore) (key : MandateId)

def getMandate : Option CartMandate :=
  (store.mandates.get? key).map MandateEntry.mandate

def put (mandate : CartMandate) : MandateStore :=
  { store with mandates := store.mandates.set ⟨key, mandate⟩ }

def ready (keyReads : Bool) : Bool := store.keyCached || keyReads

def withKey : MandateStore := { store with keyCached := true }

def saved {α : Type} (store : MandateStore) (answer : α) : Reply α :=
  if store.saves store.writes then
    (.ok answer, { store with file := some store.mandates, writes := store.writes + 1 })
  else (.error .saveFailed, { store with writes := store.writes + 1 })

def isDue (mandate : CartMandate) (now : Time) : Bool :=
  mandate.status.isLive && decide (now ≥ mandate.expiresAt)

/-- The branch `_expire_if_due` takes for a payment that reads so. -/
def expiryOf (ledger : PaymentLedger) (mandate : CartMandate) (now : Time) : Expiry :=
  if isDue mandate now then
    match ledger.getPayment mandate.paymentId with
    | none => .expired
    | some payment =>
        if payment.status = .completed then
          if mandate.status = .approved ∧ mandate.kind = kindGeneric then .consumed else .stays
        else if moneyTaken payment then .stays
        else if payment.status = .processing then
          if now < mandate.expiresAt + processingReconcileAfter then .stays else .released
        else .expired
  else .stays

def Expiry.fields (expiry : Expiry) (mandate : CartMandate) : MandateFields :=
  match expiry with
  | .stays => mandate.toMandateFields
  | .consumed => { mandate.toMandateFields with status := .consumed }
  | .released | .expired => { mandate.toMandateFields with status := .expired }

def expired (expiry : Expiry) (mandate : CartMandate) : CartMandate :=
  if expiry = .stays then mandate
  else if mandate.intact host then CartMandate.signed host (Expiry.fields expiry mandate)
  else mandate.unsigned (Expiry.fields expiry mandate)

/-- `_expire_if_due`, once the key is at hand. -/
def expireIfDue (now : Time) : MandateStore :=
  match store.getMandate key with
  | none => store
  | some mandate =>
      let expiry := expiryOf store.ledger mandate now
      let kept := store.put key (expired host expiry mandate)
      if expiry = .expired then
        { kept with
          ledger := (kept.ledger.cancelPayment mandate.paymentId "ap2_mandate" "mandate expired"
            now).2 }
      else kept

def anyDue (keys : List MandateId) (now : Time) : Bool :=
  keys.any fun key => (store.getMandate key).any (isDue · now)

def expireAll (keys : List MandateId) (now : Time) (keyReads : Bool) : Reply Unit :=
  if store.anyDue keys now then
    if store.ready keyReads then
      (.ok (), keys.foldl (fun current key => current.expireIfDue host key now) store.withKey)
    else (.error .paymentsPaused, store)
  else (.ok (), store)

def moneyInFlight (paymentId : PaymentId) : Bool :=
  match store.ledger.getPayment paymentId with
  | none => false
  | some payment => decide (payment.status = .processing) || moneyTaken payment

def sweepExpired (now : Time) (keyReads : Bool) : Reply Nat :=
  match store.expireAll host store.mandates.keys now keyReads with
  | (.error error, after) => (.error error, after)
  | (.ok _, after) =>
      let changed := store.mandates.keys.countP fun key =>
        decide ((store.getMandate key).map (·.status) ≠ (after.getMandate key).map (·.status))
      if changed = 0 then (.ok 0, after) else after.saved changed

structure Cart where
  hasLines : Bool
  hash : Except String String
  total : Except String Int
  currency : String

def Cart.currencyCode (cart : Cart) : String :=
  if cart.currency = "" then "INR" else cart.currency.toUpper

/-- The arguments of `create_cart_mandate`, with the two fresh ids it draws. -/
structure MandateRequest where
  userId : String
  merchant : String
  cart : Cart
  cap : Option Int := none
  ttl : Time := defaultMandateTtl
  description : String := ""
  kind : String := kindGeneric
  requesterAgentId : Option String := none
  cartRef : Option String := none
  mandateId : MandateId
  paymentId : PaymentId

/-- `MandateError`s of a request, in the order they are looked for; otherwise the amount
and the hash of the cart. -/
def checkRequest (request : MandateRequest) : Except String (Int × String) :=
  if request.userId = "" then .error "a mandate needs an owner"
  else if request.cart.hasLines = false then .error "the cart is empty"
  else match request.cart.total with
    | .error value => .error s!"not a price: {value}"
    | .ok amount =>
        if amount ≤ 0 then .error "nothing to pay"
        else if request.cap.any (amount > ·) then
          .error s!"cart total {host.price amount} {request.cart.currencyCode} is over the cap {host.price (request.cap.getD 0)} {request.cart.currencyCode}"
        else match request.cart.hash with
          | .error fault => .error s!"malformed cart line: {fault}"
          | .ok hash => .ok (amount, hash)

def MandateRequest.title (request : MandateRequest) : String :=
  if request.description = "" then s!"{request.merchant} order" else request.description

def mandatePayment (ledger : PaymentLedger) (request : MandateRequest) (amount : Int)
    (hash : String) (now : Time) : PaymentRequest where
  paymentId := request.paymentId
  amount := amount
  currency := request.cart.currencyCode
  description := request.title
  requesterAgentId :=
    if SmartLedger.nonEmpty request.requesterAgentId then request.requesterAgentId.getD ""
    else s!"ap2:{request.merchant}"
  metadata :=
    { kind := some request.kind, mandateId := some request.mandateId, userId := some request.userId,
      merchant := some request.merchant, cartHash := some hash }
  createdAt := now
  updatedAt := now
  gateway := some (ledger.selectGateway request.cart.currencyCode)

def mandateFields (request : MandateRequest) (amount : Int) (hash : String) (now : Time) :
    MandateFields where
  mandateId := request.mandateId
  userId := request.userId
  merchant := request.merchant
  cartHash := hash
  amount := host.price amount
  currency := request.cart.currencyCode
  paymentId := request.paymentId
  createdAt := now
  expiresAt := now + request.ttl
  intent := request.cap.map fun cap =>
    ⟨request.userId, request.merchant, some cap, request.cart.currencyCode, now + request.ttl⟩
  kind := request.kind
  description := request.title
  cartRef := if request.cartRef = some "" then none else request.cartRef

def createCartMandate (request : MandateRequest) (now : Time) (keyReads : Bool) :
    Reply CartMandate :=
  if store.ready keyReads then
    match store.withKey.sweepExpired host now keyReads with
    | (.error error, after) => (.error error, after)
    | (.ok _, swept) =>
        match checkRequest host request with
        | .error reason => (.error (.refused reason), swept)
        | .ok (amount, hash) =>
            let requested := { swept with
              ledger := swept.ledger.createPaymentRequest
                (mandatePayment swept.ledger request amount hash now) true }
            let mandate := CartMandate.signed host (mandateFields host request amount hash now)
            (requested.put request.mandateId mandate).saved mandate
  else (.error .paymentsPaused, store)

def get (now : Time) (keyReads : Bool) : Reply (Option CartMandate) :=
  match store.expireAll host [key] now keyReads with
  | (.error error, after) => (.error error, after)
  | (.ok _, after) => (.ok (after.getMandate key), after)

def keyOfPayment (paymentId : PaymentId) : Option MandateId :=
  (store.mandates.rows.find? fun entry => decide (entry.mandate.paymentId = paymentId)).map
    MandateEntry.key

def findByPaymentId (paymentId : PaymentId) (now : Time) (keyReads : Bool) :
    Reply (Option CartMandate) :=
  match store.keyOfPayment paymentId with
  | none => (.ok none, store)
  | some key => store.get host key now keyReads

/-- The shape of the operations below: the key first, then the record under the id, and
what is done with it. A missing record is answered with `absent`. -/
def onMandate {α : Type} (store : MandateStore) (key : MandateId) (keyReads : Bool)
    (absent : α) (act : MandateStore → CartMandate → Reply α) : Reply α :=
  if store.ready keyReads then
    match store.getMandate key with
    | none => (.ok absent, store.withKey)
    | some mandate => act store.withKey mandate
  else (.error .paymentsPaused, store)

/-- `approve`: expire if due, then every check, then the payment, then the record. -/
def approve (host : MandateHost) (store : MandateStore) (key : MandateId) (approverId : String)
    (now : Time) (keyReads : Bool) : Reply (Bool × String) :=
  store.onMandate key keyReads (false, "mandate not found") fun held _ =>
    let current := held.expireIfDue host key now
    match current.getMandate key with
    | none => (.ok (false, "mandate not found"), current)
    | some mandate =>
        if mandate.intact host = false then (.ok (false, "mandate signature invalid"), current)
        else if approverId ≠ mandate.userId then
          (.ok (false, "only the owner can approve this payment"), current)
        else if mandate.status ≠ .pending then
          (.ok (false, s!"mandate is {mandate.status.value}"), current)
        else if (current.ledger.getPayment mandate.paymentId).any
            (mandate.paymentMatches host ·) = false then
          (.ok (false, "payment amount differs from what was shown"), current)
        else
          let authorized := current.ledger.authorizePayment mandate.paymentId
            (personIdPrefix ++ approverId) now
          if authorized.1 then
            ({ current with ledger := authorized.2 }.put key
              (CartMandate.signed host
                { mandate.toMandateFields with
                  status := .approved
                  approverId := some approverId
                  approvedAt := some now })).saved (true, "approved")
          else (.ok (false, "payment could not be authorized"), { current with ledger := authorized.2 })

def reject (approverId : String) (now : Time) (keyReads : Bool) : Reply (Bool × String) :=
  store.onMandate key keyReads (false, "mandate not found") fun held mandate =>
    if approverId ≠ mandate.userId then
      (.ok (false, "only the owner can decline this payment"), held)
    else if mandate.status ≠ .pending then
      (.ok (false, s!"mandate is {mandate.status.value}"), held)
    else
      ({ held with
          ledger := (held.ledger.cancelPayment mandate.paymentId (personIdPrefix ++ approverId)
            "declined by the owner" now).2 }.put key
        (CartMandate.signed host
          { mandate.toMandateFields with status := .rejected, approverId := some approverId })).saved
        (true, "rejected")

def withdraw (reason : String) (now : Time) (keyReads : Bool) : Reply Bool :=
  store.onMandate key keyReads false fun held mandate =>
    if mandate.status ≠ .approved then (.ok false, held)
    else if held.moneyInFlight mandate.paymentId then (.ok false, held)
    else
      ({ held with
          ledger := (held.ledger.cancelPayment mandate.paymentId "ap2_mandate" reason now).2 }.put
        key (CartMandate.signed host { mandate.toMandateFields with status := .rejected })).saved true

def consume (keyReads : Bool) : Reply Bool :=
  store.onMandate key keyReads false fun held mandate =>
    if mandate.status = .approved ∧ mandate.intact host = true then
      (held.put key
        (CartMandate.signed host { mandate.toMandateFields with status := .consumed })).saved true
    else (.ok false, held)

def recordOrder (orderRef : String) (keyReads : Bool) : Reply Bool :=
  store.onMandate key keyReads false fun held mandate =>
    if mandate.status = .consumed ∧ SmartLedger.nonEmpty mandate.orderRef = false ∧
        mandate.intact host = true then
      (held.put key
        (CartMandate.signed host { mandate.toMandateFields with orderRef := some orderRef })).saved
        true
    else (.ok false, held)

def recordOrderSent (now : Time) (keyReads : Bool) : Reply Bool :=
  store.onMandate key keyReads false fun held mandate =>
    if mandate.status = .consumed ∧ mandate.orderSent.getD 0 = 0 ∧ mandate.intact host = true then
      (held.put key
        (CartMandate.signed host { mandate.toMandateFields with orderSent := some now })).saved true
    else (.ok false, held)

/-- `_paid_unordered`: this mandate took the money for the cart, and its order is not placed. -/
def paidUnordered (ledger : PaymentLedger) (mandate : CartMandate) (cartRef : Option String) :
    Bool :=
  mandate.cartRef.isSome && decide (mandate.cartRef = cartRef) &&
    (match mandate.status with
      | .consumed => !SmartLedger.nonEmpty mandate.orderRef
      | .approved => (ledger.getPayment mandate.paymentId).any moneyTaken
      | _ => false)

def mine (userId merchant kind : String) : List MandateId :=
  (store.mandates.rows.filter fun entry =>
    decide (entry.mandate.userId = userId) && decide (entry.mandate.merchant = merchant) &&
      decide (entry.mandate.kind = kind)).map MandateEntry.key

inductive CheckoutRefusal where
  | beingTaken
  | paidUnordered (mandateId : MandateId)
  | inProgress
  deriving DecidableEq

def CheckoutRefusal.message : CheckoutRefusal → String
  | .beingTaken => "a payment for an earlier checkout is being taken right now"
  | .paidUnordered mandateId =>
      s!"this cart is already paid for (mandate {mandateId}) and its order is not placed yet; " ++
        "commerce_checkout with that mandate_id places it with that payment and never charges " ++
        "again (the cart must hold what was paid for), or a person sorts it out"
  | .inProgress => "a payment for an earlier checkout is still in progress"

def holdsUp (cartRef : Option String) (mandate : CartMandate) : Option CheckoutRefusal :=
  if mandate.mandateId ∈ store.settling then some .beingTaken
  else if paidUnordered store.ledger mandate cartRef then some (.paidUnordered mandate.mandateId)
  else if mandate.status.isLive ∧
      store.ledger.statusOf mandate.paymentId = some .processing then some .inProgress
  else none

def voidMandate (now : Time) (state : MandateStore × Nat × Nat) (key : MandateId) :
    MandateStore × Nat × Nat :=
  match state.1.getMandate key with
  | none => state
  | some mandate =>
      if mandate.status.isLive = false ∨
          (state.1.ledger.getPayment mandate.paymentId).any moneyTaken = true then state
      else
        let cancelled := state.1.ledger.cancelPayment mandate.paymentId "ap2_mandate"
          "replaced by a newer checkout" now
        if cancelled.1 || (state.1.ledger.statusOf mandate.paymentId).any
            (· ∈ [PaymentStatus.failed, .cancelled, .refunded]) then
          ({ state.1 with ledger := cancelled.2 }.put key
            (CartMandate.signed host { mandate.toMandateFields with status := .rejected }),
            state.2.1 + 1, state.2.2)
        else (state.1, state.2.1, state.2.2 + 1)

def supersede (userId merchant kind : String) (cartRef : Option String) (now : Time)
    (keyReads : Bool) : Reply (Bool × String) :=
  if store.ready keyReads then
    let keys := store.mine userId merchant kind
    let expired := keys.foldl (fun current key => current.expireIfDue host key now) store.withKey
    match keys.findSome? fun key => (expired.getMandate key).bind (expired.holdsUp cartRef) with
    | some refusal => (.ok (false, refusal.message), expired)
    | none =>
        let voided := keys.foldl (voidMandate host now) (expired, 0, 0)
        let answer :=
          if voided.2.2 > 0 then (false, CheckoutRefusal.inProgress.message)
          else (true, s!"{voided.2.1} earlier checkout(s) withdrawn")
        if voided.2.1 > 0 then voided.1.saved answer else (.ok answer, voided.1)
  else (.error .paymentsPaused, store)

inductive SettleRefusal where
  | notFound
  | alreadySettling
  | otherBeingTaken
  | alreadyPaid (mandateId : MandateId)
  | otherInProgress
  deriving DecidableEq

def SettleRefusal.message : SettleRefusal → String
  | .notFound => "mandate not found"
  | .alreadySettling => "this payment is already being taken"
  | .otherBeingTaken => "another payment for this cart is being taken right now"
  | .alreadyPaid mandateId => s!"this cart is already paid for (mandate {mandateId})"
  | .otherInProgress => "another payment for this cart is still in progress"

def sameCart (one other : CartMandate) : Bool :=
  decide (other.userId = one.userId) && decide (other.merchant = one.merchant) &&
    decide (other.kind = one.kind) && decide (other.cartRef = one.cartRef)

def competes (mandate other : CartMandate) : Option SettleRefusal :=
  if sameCart mandate other = false then none
  else if other.mandateId ∈ store.settling then some .otherBeingTaken
  else if paidUnordered store.ledger other mandate.cartRef then some (.alreadyPaid other.mandateId)
  else if other.status = .approved ∧ store.moneyInFlight other.paymentId then some .otherInProgress
  else none

def settleFault (mandate : CartMandate) : Option SettleRefusal :=
  if key ∈ store.settling then some .alreadySettling
  else if mandate.cartRef = none then none
  else store.mandates.rows.findSome? fun entry =>
    if entry.key = key then none else store.competes mandate entry.mandate

def beginSettle : Option SettleRefusal × MandateStore :=
  match store.getMandate key with
  | none => (some .notFound, store)
  | some mandate =>
      match store.settleFault key mandate with
      | some refusal => (some refusal, store)
      | none => (none, { store with settling := key :: store.settling })

def endSettle : MandateStore :=
  { store with settling := store.settling.filter (· ≠ key) }

end MandateStore

end Hartos.Ap2
