import Hartos.MeteredUsage
import Hartos.StepSystem

/-!
Metered calls and the runs that settle them. A run selects the pending rows of its
period, then pays or writes off one after the other; what it does is in the database when
its session commits. Another session may select, pay and commit in between.
-/
namespace Hartos.Metering
open KeyedTable StepSystem

structure MeteredCall where
  id : String
  nodeId : String
  modelId : String
  taskSource : String
  tokensIn : Nat
  tokensOut : Nat
  costPer1k : ℚ
  requesterNodeId : Option String
  now : Time
  -- `metered_daily_limit_usd`, when the policy could be read.
  dailyLimit : Option ℚ
  deriving DecidableEq

def MeteredCall.actualUsdCost (call : MeteredCall) : ℚ :=
  (call.tokensIn + call.tokensOut : ℚ) / 1000 * call.costPer1k

structure Payment where
  usageId : String
  operatorId : String
  amount : Int
  deriving DecidableEq

def sparkFor (usdCost : ℚ) : Int := max 1 (truncate (usdCost * sparkPerUsd))

variable (usage : MeteredUsage)

def MeteredUsage.payment (operatorId : String) : Payment :=
  ⟨usage.id, operatorId, sparkFor usage.actualUsdCost⟩

def MeteredUsage.operator? : Option String :=
  usage.operatorId.filter fun operatorId => operatorId ≠ ""

def MeteredUsage.payable : Bool :=
  decide (usage.taskSource ≠ "own") && decide (usage.taskSource ∉ computeLedgerTaskSources)

inductive Outcome where
  | paid (operatorId : String) | writtenOff | raised
  deriving DecidableEq

structure Settling where
  session : Nat
  remaining : List MeteredUsage
  outcomes : List (MeteredUsage × Outcome)
  present : List String

/-- `settled` lists the rows that were there when some run began that has committed
without an error in paying them. -/
structure Meter where
  usage : Table MeteredUsage.id
  payments : List Payment
  runs : Table Settling.session
  settled : List String

namespace Meter
variable (meter : Meter)

def due (cutoff : Time) (usage : MeteredUsage) : Bool :=
  decide (usage.settlementStatus = .pending) && usage.payable && decide (usage.createdAt ≥ cutoff)

def visit (usage : MeteredUsage) (raises : Bool) : Outcome :=
  match usage.operator? with
  | none => .writtenOff
  | some operatorId => if raises then .raised else .paid operatorId

def pay (run : Settling) (raises : Bool) : Meter :=
  match run.remaining with
  | [] => meter
  | usage :: rest =>
      { meter with
        runs := meter.runs.set { run with
          remaining := rest
          outcomes := run.outcomes ++ [(usage, visit usage raises)] } }

def mark (id : String) (status : SettlementStatus) : Meter :=
  match meter.usage.get? id with
  | none => meter
  | some usage => { meter with usage := meter.usage.set { usage with settlementStatus := status } }

def apply (visited : MeteredUsage × Outcome) : Meter :=
  match visited.2 with
  | .paid operatorId =>
      let meter := meter.mark visited.1.id .settled
      { meter with payments := meter.payments ++ [visited.1.payment operatorId] }
  | .writtenOff => meter.mark visited.1.id .writtenOff
  | .raised => meter

def abort (session : Nat) : Meter :=
  { meter with runs := meter.runs.erase session }

def empty : Meter := ⟨Table.empty MeteredUsage.id, [], Table.empty Settling.session, []⟩

end Meter

inductive MeterEvent where
  | record (call : MeteredCall)
  | settle (session : Nat) (now : Time) (periodHours : Nat)
  | pay (session : Nat) (raises : Bool)
  | commit (session : Nat)
  | abort (session : Nat)
  deriving DecidableEq

end Hartos.Metering
