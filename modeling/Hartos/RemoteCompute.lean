import Hartos.MeteredUsage
import Hartos.StepSystem
import Hartos.WholeParts
import Mathlib.Data.Finset.Card
import Mathlib.Data.Finset.Dedup
import Mathlib.Logic.Function.Basic

/-!
Remote compute between nodes: the requesting node debits its person, the serving node
credits its operator, and each keeps the fraction of a Spark that has not moved yet as
the difference of two sums over its own rows.
-/
namespace Hartos.Metering
open StepSystem

/-- What the nodes know of each other: the operator a node is listed under, the operator
it takes itself to have, and whose node a link held at a node proves another one to be. -/
structure Network where
  peerOperator : String → String
  thisNodeOperator : String → String
  owned : (holder node user : String) → Bool

def Network.nodeIsUsers (network : Network) (holder userId nodeId operatorId : String) : Bool :=
  (decide (operatorId ≠ "") && decide (operatorId = userId)) ||
    (decide (nodeId ≠ "") && network.owned holder nodeId userId)

structure ComputeExchange where
  requester : String
  requesterNode : String
  servingNode : String
  tokensIn : Nat
  tokensOut : Nat
  rate : ℚ
  modelId : String
  now : Time
  chargeId : String
  creditId : String
  deriving DecidableEq

def ComputeExchange.exact (exchange : ComputeExchange) : ℚ :=
  (exchange.tokensIn + exchange.tokensOut : ℚ) / 1000 * exchange.rate

structure Books where
  usage : List MeteredUsage
  spark : String → Int

namespace Books

def ofPair (taskSource requester operator : String) (row : MeteredUsage) : Bool :=
  decide (row.taskSource = taskSource) && decide (row.requesterUserId = some requester) &&
    decide (row.operatorId = some operator)

def exactSpark (row : MeteredUsage) : ℚ :=
  (row.tokensIn + row.tokensOut : ℚ) * row.costPer1kTokens / 1000

def exactPrior (usage : List MeteredUsage) (taskSource requester operator : String) : ℚ :=
  ((usage.filter (ofPair taskSource requester operator)).map exactSpark).sum

def movedPrior (usage : List MeteredUsage) (taskSource requester operator : String) : Int :=
  ((usage.filter (ofPair taskSource requester operator)).map
    MeteredUsage.estimatedSparkCost).sum

def accrue (books : Books) (taskSource requester operator nodeId requesterNode : String)
    (exchange : ComputeExchange) (id : String) : MeteredUsage × Int :=
  let owed := exactPrior books.usage taskSource requester operator -
    movedPrior books.usage taskSource requester operator +
    (exchange.tokensIn + exchange.tokensOut : ℚ) / 1000 * exchange.rate
  let amount := max 0 ⌊owed⌋
  ({ id
     nodeId
     operatorId := some operator
     modelId := if exchange.modelId = "" then "remote" else exchange.modelId
     taskSource
     requesterNodeId := if requesterNode = "" then none else some requesterNode
     requesterUserId := some requester
     tokensIn := exchange.tokensIn
     tokensOut := exchange.tokensOut
     costPer1kTokens := exchange.rate
     estimatedSparkCost := amount
     actualUsdCost := amount / sparkPerUsd
     settlementStatus := .carried
     createdAt := exchange.now }, amount)

def write (books : Books) (row : MeteredUsage) : Books :=
  { books with usage := books.usage ++ [row] }

def award (books : Books) (userId : String) (amount : Int) : Books :=
  { books with spark := Function.update books.spark userId (books.spark userId + amount) }

def chargeRemoteCompute (network : Network) (books : Books) (exchange : ComputeExchange) :
    Int × Books :=
  if exchange.requester = "" ∨ exchange.servingNode = "" ∨
      exchange.tokensIn + exchange.tokensOut = 0 then (0, books)
  else
    let operator := network.peerOperator exchange.servingNode
    if network.nodeIsUsers exchange.requesterNode exchange.requester exchange.servingNode operator
    then (0, books)
    else if operator = "" then (0, books)
    else
      let (row, amount) := books.accrue remoteComputeTaskSource exchange.requester operator
        exchange.servingNode exchange.requesterNode exchange exchange.chargeId
      if amount ≤ 0 then (0, books.write row)
      else if books.spark exchange.requester ≥ amount then
        (amount, (books.award exchange.requester (-amount)).write
          { row with settlementStatus := .debited })
      else (0, books.write { row with settlementStatus := .unfunded })

def creditServedCompute (network : Network) (books : Books) (exchange : ComputeExchange) :
    Int × Books :=
  if exchange.requester = "" ∨ exchange.tokensIn + exchange.tokensOut = 0 then (0, books)
  else
    let operator := network.thisNodeOperator exchange.servingNode
    if operator = "" then (0, books)
    else if network.nodeIsUsers exchange.servingNode exchange.requester exchange.requesterNode
        operator then (0, books)
    else
      let (row, amount) := books.accrue servedComputeTaskSource exchange.requester operator
        exchange.servingNode exchange.requesterNode exchange exchange.creditId
      if amount ≤ 0 then (0, books.write row)
      else (amount, (books.award operator amount).write { row with settlementStatus := .credited })

end Books

/-- An exchange between a requester and a node of another operator: something was
measured at a rate that is not negative, and both sides name the same operator and take
neither node to be the requester's. -/
structure RemoteExchange (network : Network) extends ComputeExchange where
  asked : requester ≠ ""
  served : servingNode ≠ ""
  measured : tokensIn + tokensOut ≠ 0
  priced : 0 ≤ rate
  known : network.peerOperator servingNode ≠ ""
  agreed : network.thisNodeOperator servingNode = network.peerOperator servingNode
  foreign : network.nodeIsUsers requesterNode requester servingNode
    (network.peerOperator servingNode) = false
  stranger : network.nodeIsUsers servingNode requester requesterNode
    (network.peerOperator servingNode) = false

def RemoteExchange.operator {network : Network} (exchange : RemoteExchange network) : String :=
  network.peerOperator exchange.servingNode

structure Compute where
  home : Books
  nodes : String → Books

inductive ComputeEvent (network : Network) where
  | exchange (exchange : RemoteExchange network)
  | balance (userId : String) (spark : Int)

def Compute.step {network : Network} (state : Compute) : ComputeEvent network → Compute
  | .exchange exchange =>
      { home := (state.home.chargeRemoteCompute network exchange.toComputeExchange).2
        nodes := Function.update state.nodes exchange.servingNode
          ((state.nodes exchange.servingNode).creditServedCompute network
            exchange.toComputeExchange).2 }
  | .balance userId spark =>
      { state with
        home := { state.home with spark := Function.update state.home.spark userId spark } }

def Compute.empty (spark : String → Int) : Compute :=
  ⟨⟨[], spark⟩, fun _ => ⟨[], fun _ => 0⟩⟩

end Hartos.Metering
