import Hartos.Task
import Mathlib.Data.Rat.Floor

/-!
The usage rows of a node: one for each metered call of a paid API, and one for each
half of a remote compute exchange. Amounts of money are rationals.
-/
namespace Hartos.Metering

inductive SettlementStatus where
  | pending | settled | writtenOff
  -- The statuses of a compute exchange, complete when written.
  | carried | debited | unfunded | credited
  deriving DecidableEq

structure MeteredUsage where
  id : String
  nodeId : String
  operatorId : Option String
  modelId : String
  taskSource : String
  requesterNodeId : Option String := none
  requesterUserId : Option String := none
  tokensIn : Nat
  tokensOut : Nat
  costPer1kTokens : ℚ
  estimatedSparkCost : Int
  actualUsdCost : ℚ
  settlementStatus : SettlementStatus
  createdAt : Time
  deriving DecidableEq

def remoteComputeTaskSource : String := "hive_compute"

def servedComputeTaskSource : String := "hive_compute_served"

def computeLedgerTaskSources : List String := [remoteComputeTaskSource, servedComputeTaskSource]

def sparkPerUsd : Nat := 100

def truncate (number : ℚ) : Int := if 0 ≤ number then ⌊number⌋ else ⌈number⌉

theorem truncate_le (number : ℚ) (nonneg : 0 ≤ number) : (truncate number : ℚ) ≤ number := by
  rw [truncate, if_pos nonneg]
  exact Int.floor_le number

end Hartos.Metering
