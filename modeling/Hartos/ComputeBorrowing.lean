import Hartos.MeteredUsage
import Hartos.StepSystem
import Mathlib.Logic.Function.Basic

/-!
Compute borrowed between nodes. A request is matched with an offer and opens an escrow;
a settlement awards Spark to the operator of the provider, then looks for an escrow to
close. Both run in a database session, whose writes a rollback undoes together.
-/
namespace Hartos.Borrowing
open KeyedTable Metering StepSystem

structure Resources where
  cpuPctFree : ℚ := 0
  ramGbFree : ℚ := 0
  gpuGb : Option ℚ := none
  deriving DecidableEq

structure MinResources where
  minCpuPct : ℚ := 0
  minRamGb : ℚ := 0
  deriving DecidableEq

structure Offer where
  nodeId : String
  resources : Resources
  available : Bool
  deriving DecidableEq

structure ComputeRequest where
  requestId : String
  requester : String
  provider : String
  taskType : String
  resources : Resources
  deriving DecidableEq

inductive EscrowStatus where
  | pending | settled
  deriving DecidableEq

/-- A row of the escrow table; `opened` and `settlements` keep what it was opened with
and how often it was settled. -/
structure ComputeEscrow where
  debtorNodeId : String
  creditorNodeId : String
  requestId : String
  taskType : String
  sparkAmount : Int
  status : EscrowStatus
  createdAt : Time
  expiresAt : Time
  settledAt : Option Time
  opened : Int
  settlements : Nat
  deriving DecidableEq

structure SparkRow where
  userId : String
  amount : Int
  debtorNodeId : String
  creditorNodeId : String
  escrowed : Bool
  deriving DecidableEq

structure Books where
  spark : String → Int
  rows : List SparkRow
  escrows : List ComputeEscrow

structure State where
  offers : Table Offer.nodeId
  requests : Table ComputeRequest.requestId
  committed : Books
  session : Books

inductive Failure where
  | award | update | pendingSum
  deriving DecidableEq

def escrowPeriod : Time := seconds (24 * 3600)

def Offer.fits (least : MinResources) (offer : Offer) : Bool :=
  offer.available && decide (offer.resources.cpuPctFree ≥ least.minCpuPct) &&
    decide (offer.resources.ramGbFree ≥ least.minRamGb)

def ComputeEscrow.between (debtor creditor : String) (escrow : ComputeEscrow) : Bool :=
  decide (escrow.debtorNodeId = debtor) && decide (escrow.creditorNodeId = creditor) &&
    decide (escrow.status = .pending)

namespace Books

def award (books : Books) (row : SparkRow) : Books :=
  { books with
    spark := Function.update books.spark row.userId (books.spark row.userId + row.amount)
    rows := books.rows ++ [row] }

def settleFirst (debtor creditor : String) (amount : Int) (now : Time) :
    List ComputeEscrow → List ComputeEscrow
  | [] => []
  | escrow :: rest =>
      if escrow.between debtor creditor then
        { escrow with
          sparkAmount := amount
          status := .settled
          settledAt := some now
          settlements := escrow.settlements + 1 } :: rest
      else escrow :: settleFirst debtor creditor amount now rest

def remainingDebt (books : Books) (debtor : String) : Int :=
  ((books.escrows.filter fun escrow =>
    decide (escrow.debtorNodeId = debtor) && decide (escrow.status = .pending)).map
      ComputeEscrow.sparkAmount).sum

def pendingBetween (books : Books) (debtor creditor : String) : Bool :=
  books.escrows.any (ComputeEscrow.between debtor creditor)

end Books

inductive Response where
  | offered
  | unmatched
  | matched (requestId provider : String) (resources : Resources)
  | error (message : String)
  | settled (amount : ℚ) (remainingDebt : Int)
  deriving DecidableEq

namespace State

def commit (state : State) : State := { state with committed := state.session }

def rollback (state : State) : State := { state with session := state.committed }

def offerCompute (state : State) (nodeId : String) (resources : Resources) : Response × State :=
  (.offered, { state with offers := state.offers.set ⟨nodeId, resources, true⟩ })

def estimatedSpark (resources : Resources) : Int := max 1 (truncate (resources.gpuGb.getD 1))

/-- `request_compute`; `writes` says whether the escrow could be written. -/
def requestCompute (state : State) (nodeId taskType : String) (least : MinResources) (now : Time)
    (writes : Bool) : Response × State :=
  match state.offers.rows.find? (Offer.fits least) with
  | none => (.unmatched, state)
  | some offer =>
      let requestId := s!"{nodeId}_{offer.nodeId}_{taskType}"
      let matching := { state with
        offers := state.offers.set { offer with available := false }
        requests := state.requests.set
          ⟨requestId, nodeId, offer.nodeId, taskType, offer.resources⟩ }
      let escrow : ComputeEscrow :=
        { debtorNodeId := nodeId
          creditorNodeId := offer.nodeId
          requestId
          taskType
          sparkAmount := estimatedSpark offer.resources
          status := .pending
          createdAt := now
          expiresAt := now + escrowPeriod
          settledAt := none
          opened := estimatedSpark offer.resources
          settlements := 0 }
      (.matched requestId offer.nodeId offer.resources,
        if writes then
          { matching with
            session := { matching.session with
              escrows := matching.session.escrows ++ [escrow] } }.commit
        else matching.rollback)

def settleEscrow (state : State) (debtor creditor : String) (amount : Int) (now : Time) : State :=
  if state.session.pendingBetween debtor creditor then
    { state with session := { state.session with
        escrows := Books.settleFirst debtor creditor amount now state.session.escrows } }.commit
  else state

def settleComputeDebt (operators : String → Option String) (state : State)
    (debtor creditor : String) (sparkAmount : ℚ) (now : Time) (failure : Option Failure) :
    Response × State :=
  match operators creditor with
  | none => (.error "provider_not_found", state)
  | some operator =>
      if failure = some .award then (.error "award failed", state)
      else
        let row : SparkRow := ⟨operator, truncate sparkAmount, debtor, creditor,
          state.session.pendingBetween debtor creditor⟩
        let awarded := { state with session := state.session.award row }
        if failure = some .update then (.settled sparkAmount 0, awarded.rollback)
        else
          let settled := awarded.settleEscrow debtor creditor (truncate sparkAmount) now
          if failure = some .pendingSum then (.settled sparkAmount 0, settled.rollback)
          else (.settled sparkAmount (settled.session.remainingDebt debtor), settled)

def fresh (spark : String → Int) : State :=
  ⟨Table.empty Offer.nodeId, Table.empty ComputeRequest.requestId, ⟨spark, [], []⟩,
    ⟨spark, [], []⟩⟩

end State

inductive Event where
  | offer (nodeId : String) (resources : Resources)
  | request (nodeId taskType : String) (least : MinResources) (now : Time) (writes : Bool)
  | settle (debtor creditor : String) (sparkAmount : ℚ) (now : Time) (failure : Option Failure)
  | commit
  | rollback
  deriving DecidableEq

def step (operators : String → Option String) (state : State) : Event → State
  | .offer nodeId resources => (state.offerCompute nodeId resources).2
  | .request nodeId taskType least now writes =>
      (state.requestCompute nodeId taskType least now writes).2
  | .settle debtor creditor sparkAmount now failure =>
      (State.settleComputeDebt operators state debtor creditor sparkAmount now failure).2
  | .commit => state.commit
  | .rollback => state.rollback

end Hartos.Borrowing
