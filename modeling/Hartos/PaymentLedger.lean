import Hartos.SmartLedger

/-!
The payment ledger of the AP2 module: payment requests, the operations that move
them, and the file they are saved to. A save whose write fails is logged and
swallowed, so each operation goes on either way; `saves` says which writes go
through. A payment is charged in three steps: it is reserved under the lock, the
gateway is called without it, and the answer is committed under it again. Card
tokens, which are never saved, and the gateways' own records are left out.
-/
namespace Hartos.Ap2
open KeyedTable

abbrev PaymentId := String

inductive PaymentStatus where
  | pending | authorized
  | processing | approvalRequired
  | completed | failed | cancelled | refunded | expired
  deriving DecidableEq

def PaymentStatus.value : PaymentStatus → String
  | .pending => "pending"
  | .authorized => "authorized"
  | .processing => "processing"
  | .approvalRequired => "approval_required"
  | .completed => "completed"
  | .failed => "failed"
  | .cancelled => "cancelled"
  | .refunded => "refunded"
  | .expired => "expired"

def PaymentStatus.isFinal : PaymentStatus → Bool
  | .completed | .failed | .cancelled | .refunded => true
  | _ => false

inductive PaymentGateway where
  | stripe | paypal | square | braintree | phonepe | mock
  deriving DecidableEq

def redirectGateways : List PaymentGateway := [.phonepe]

structure PaymentMetadata where
  kind : Option String := none
  mandateId : Option String := none
  userId : Option String := none
  merchant : Option String := none
  cartHash : Option String := none
  moneyTaken : Bool := false
  deriving DecidableEq

structure ChainEntry where
  approverId : String
  approvedAt : Time
  action : String
  deriving DecidableEq

/-- `amount` counts hundredths of the currency. -/
structure PaymentRequest where
  paymentId : PaymentId
  amount : Int
  currency : String
  description : String
  requesterAgentId : String
  metadata : PaymentMetadata := {}
  status : PaymentStatus := .pending
  createdAt : Time
  updatedAt : Time
  completedAt : Option Time := none
  gateway : Option PaymentGateway := none
  gatewayTransactionId : Option String := none
  approvalChain : List ChainEntry := []
  errorMessage : Option String := none
  deriving DecidableEq

abbrev PaymentTable := Table PaymentRequest.paymentId

/-- `update_status`; it asks nothing about the status it replaces. -/
def PaymentRequest.updateStatus (payment : PaymentRequest) (newStatus : PaymentStatus)
    (message : Option String) (now : Time) : PaymentRequest :=
  { payment with
    status := newStatus
    updatedAt := now
    completedAt := if newStatus.isFinal then some now else payment.completedAt
    errorMessage := if SmartLedger.nonEmpty message then message else payment.errorMessage }

def PaymentRequest.signOff (payment : PaymentRequest) (approverId action : String) (now : Time) :
    PaymentRequest :=
  { payment with approvalChain := payment.approvalChain ++ [⟨approverId, now, action⟩] }

def moneyTaken (payment : PaymentRequest) : Bool :=
  decide (payment.status = .completed) ||
    (decide (payment.status = .failed) && payment.metadata.moneyTaken)

structure PaymentLedger where
  payments : PaymentTable
  gateways : List PaymentGateway
  file : Option PaymentTable
  saves : Nat → Bool
  writes : Nat

inductive CreateAnswer where
  | raised (error : String)
  | refused (error : Option String)
  | created (transactionId redirectUrl : Option String)
  deriving DecidableEq

inductive CaptureAnswer where
  | raised (error : String)
  | refused (error : Option String)
  | captured
  deriving DecidableEq

/-- What the unlocked part of `process_payment` comes back with. -/
inductive GatewayOutcome where
  | raised (error : String)
  | refused (error : Option String)
  | awaitingPayment (transactionId redirectUrl : Option String)
  | captureFailed (transactionId error : Option String)
  | captured (transactionId : Option String)
  deriving DecidableEq

def callGateway (gateway : Option PaymentGateway) (create : CreateAnswer)
    (capture : CaptureAnswer) : GatewayOutcome :=
  match create with
  | .raised error => .raised error
  | .refused error => .refused error
  | .created transactionId redirectUrl =>
      if gateway.any (· ∈ redirectGateways) then .awaitingPayment transactionId redirectUrl
      else match capture with
        | .raised error => .raised error
        | .refused error => .captureFailed transactionId error
        | .captured => .captured transactionId

def GatewayOutcome.isCaptured : GatewayOutcome → Bool
  | .captured _ => true
  | _ => false

def GatewayOutcome.record (outcome : GatewayOutcome) (now : Time) (payment : PaymentRequest) :
    PaymentRequest :=
  match outcome with
  | .raised error => payment.updateStatus .failed (some error) now
  | .refused error =>
      payment.updateStatus .failed (some (error.getD "Gateway returned failure")) now
  | .awaitingPayment transactionId _ =>
      { payment with gatewayTransactionId := transactionId }.updateStatus .processing
        (some "awaiting payment on the gateway page") now
  | .captureFailed transactionId error =>
      { payment with gatewayTransactionId := transactionId }.updateStatus .failed
        (some (error.getD "Capture failed")) now
  | .captured transactionId =>
      { payment with gatewayTransactionId := transactionId }.updateStatus .completed none now

def strip (text : String) : String :=
  String.ofList (((text.toList.dropWhile isSpace).reverse.dropWhile isSpace).reverse)

/-- `NON_HUMAN_APPROVERS`; none of them is the lower case of anything but ASCII. -/
def nonHumanApprovers : List String :=
  ["", "system", "assistant", "agent", "helper", "executor", "llm"]

def personIdPrefix : String := "user:"

def isPerson (approverId requesterAgentId : String) : Bool :=
  !decide (approverId.toLower ∈ nonHumanApprovers) &&
    (decide (approverId ≠ requesterAgentId) ||
      personIdPrefix.toList.isPrefixOf approverId.toList)

def ownsMandate (metadata : PaymentMetadata) (approverId : String) : Bool :=
  !SmartLedger.nonEmpty metadata.mandateId ||
    decide (approverId = personIdPrefix ++ metadata.userId.getD "")

namespace PaymentLedger
variable (ledger : PaymentLedger) (paymentId : PaymentId)

def getPayment : Option PaymentRequest :=
  ledger.payments.get? paymentId

def statusOf : Option PaymentStatus :=
  (ledger.getPayment paymentId).map PaymentRequest.status

/-- `save_ledger`; a failing write leaves the file as it was and tells nobody. -/
def saveLedger : PaymentLedger :=
  { ledger with
    file := if ledger.saves ledger.writes then some ledger.payments else ledger.file
    writes := ledger.writes + 1 }

def amend (payment : PaymentRequest) : PaymentLedger :=
  { ledger with payments := ledger.payments.set payment }.saveLedger

def loadLedger : PaymentLedger :=
  { ledger with payments := ledger.file.getD (Table.empty PaymentRequest.paymentId) }

def selectGateway (currency : String) : PaymentGateway :=
  let order : List PaymentGateway :=
    if currency.toUpper = "INR" then [.phonepe, .stripe] else [.stripe]
  (order.find? (· ∈ ledger.gateways)).getD .mock

/-- `create_payment_request`; the id is a fresh uuid. -/
def createPaymentRequest (payment : PaymentRequest) (requireApproval : Bool) : PaymentLedger :=
  ledger.amend
    { payment with status := if requireApproval then .approvalRequired else .pending }

def authorizePayment (approver : String) (now : Time) : Bool × PaymentLedger :=
  let approverId := strip approver
  match ledger.getPayment paymentId with
  | none => (false, ledger)
  | some payment =>
      if payment.status ≠ .pending ∧ payment.status ≠ .approvalRequired then (false, ledger)
      else if isPerson approverId payment.requesterAgentId &&
          ownsMandate payment.metadata approverId then
        (true, ledger.amend
          ((payment.signOff approverId "authorized" now).updateStatus .authorized none now))
      else (false, ledger)

def cancelPayment (actorId reason : String) (now : Time) : Bool × PaymentLedger :=
  match ledger.getPayment paymentId with
  | none => (false, ledger)
  | some payment =>
      if payment.status ∈ [PaymentStatus.pending, .approvalRequired, .authorized] then
        (true, ledger.amend
          ((payment.signOff actorId "cancelled" now).updateStatus .cancelled (some reason) now))
      else (false, ledger)

inductive Reservation where
  | notFound
  | settledByOwner
  | notAuthorized (status : PaymentStatus)
  | gatewayNotAvailable
  | reserved
  deriving DecidableEq

def Reservation.error : Reservation → Option String
  | .notFound => some "Payment not found"
  | .settledByOwner =>
      some ("this payment is settled only by the person who approves it; it cannot be processed " ++
        "directly")
  | .notAuthorized status => some s!"Payment not authorized: {status.value}"
  | .gatewayNotAvailable => some "Gateway not available"
  | .reserved => none

def reserve (settler : Bool) (now : Time) : Reservation × PaymentLedger :=
  match ledger.getPayment paymentId with
  | none => (.notFound, ledger)
  | some payment =>
      if SmartLedger.nonEmpty payment.metadata.mandateId && !settler then (.settledByOwner, ledger)
      else if payment.status ≠ .authorized then (.notAuthorized payment.status, ledger)
      else if payment.gateway.any (· ∈ ledger.gateways) then
        (.reserved, ledger.amend (payment.updateStatus .processing none now))
      else
        (.gatewayNotAvailable,
          ledger.amend (payment.updateStatus .failed (some "Gateway not available") now))

def commit (outcome : GatewayOutcome) (now : Time) : PaymentLedger :=
  match ledger.getPayment paymentId with
  | none => ledger
  | some payment => ledger.amend (outcome.record now payment)

def completeOnce (note : String) (now : Time) : Bool × PaymentLedger :=
  match ledger.getPayment paymentId with
  | none => (false, ledger)
  | some payment =>
      if payment.status = .processing ∨ payment.status = .authorized then
        (true, ledger.amend (payment.updateStatus .completed (some note) now))
      else (false, ledger)

end PaymentLedger

end Hartos.Ap2
