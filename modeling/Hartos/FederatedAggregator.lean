import Hartos.FederatedDeltas
import Hartos.MeteredUsage
import Mathlib.Data.Finset.Insert
import Mathlib.Data.Finset.Card

/-!
The aggregator of a node: the deltas it holds for its peers, how one arrives over either
transport, and what `hive_census` and `aggregate` read off them. A float is the rational it
stands for; what floats do where they round comes from outside.
-/
namespace Hartos.Federation
open KeyedTable

structure FederatedAggregator where
  peerDeltas : Table Delta.nodeId
  localDelta : Option Delta
  epoch : Nat
  genuineInstalls : Finset String

namespace FederatedAggregator
variable (aggregator : FederatedAggregator)

def recordGenuineInstall (nodeId : String) : FederatedAggregator :=
  { aggregator with genuineInstalls := insert nodeId aggregator.genuineInstalls }

def store : Verdict → FederatedAggregator
  | .accepted delta =>
      recordGenuineInstall
        { aggregator with peerDeltas := aggregator.peerDeltas.set delta } delta.nodeId
  | .ended _ => aggregator

def receivePeerDelta (gate : Gate) (now : ℚ) (payload : Payload) : FederatedAggregator × Verdict :=
  let verdict := gate.examine now payload
  (aggregator.store verdict, verdict)

end FederatedAggregator

def Verdict.answer : Verdict → Except String (Bool × String)
  | .ended (.raised error) => .error error
  | .ended (.refused reason) => .ok (false, reason)
  | .ended (.revoked _) => .ok (true, "revocation accepted")
  | .accepted _ => .ok (true, "accepted")

structure HttpAnswer where
  status : Nat
  success : Bool
  reason : String
  deriving DecidableEq

def httpAnswer : Except String (Bool × String) → HttpAnswer
  | .ok (accepted, reason) => ⟨200, accepted, reason⟩
  | .error error => ⟨500, false, error⟩

def emptyObject : Delta := {}

def Payload.orEmpty : Payload → Payload
  | .value false => .object emptyObject
  | payload => payload

def peerFederationDelta (aggregator : FederatedAggregator) (gate : Gate) (now : ℚ)
    (payload : Payload) : FederatedAggregator × HttpAnswer :=
  let (next, verdict) := aggregator.receivePeerDelta gate now payload.orEmpty
  (next, httpAnswer verdict.answer)

def handleLearningDelta (aggregator : FederatedAggregator) (gate : Gate) (now : ℚ) :
    Payload → FederatedAggregator × Option (Bool × String)
  | .value _ => (aggregator, none)
  | .object delta =>
      let (next, verdict) := aggregator.receivePeerDelta gate now (.object delta)
      (next, verdict.answer.toOption)

structure Python where
  float : String → Option ℚ
  int : String → Option Int
  log1p : ℚ → ℚ
  add : ℚ → ℚ → ℚ
  mul : ℚ → ℚ → ℚ
  div : ℚ → ℚ → ℚ
  -- The built-in `sum`, which rounds on its way through the list.
  sum : List ℚ → ℚ

variable (python : Python)

def Python.floatOr (default : ℚ) : Value → Option ℚ
  | .number value => some (if value = 0 then default else value)
  | .flag value => some (if value then 1 else default)
  | .text content => if content = "" then some default else python.float content
  | .null => some default

def Python.intOr : Value → Option Int
  | .number value => some (Metering.truncate value)
  | .flag value => some (if value then 1 else 0)
  | .text content => if content = "" then some 0 else python.int content
  | .null => some 0

def Value.number? : Value → Option ℚ
  | .number value => some value
  | .flag value => some (if value then 1 else 0)
  | .text _ => none
  | .null => none

/-- `round(number, 1)`: to tenths, halves to the even one. -/
def roundTenth (number : ℚ) : ℚ :=
  let below := ⌊number * 10⌋
  let rest := number * 10 - below
  let tenths := if rest < 1 / 2 then below else if 1 / 2 < rest then below + 1
    else if below % 2 = 0 then below else below + 1
  tenths / 10

structure NodeEntry where
  nodeId : String
  ageSeconds : ℚ
  stale : Bool
  isLocal : Bool
  intelligenceIndex : Value
  growthRate : Value
  numAgents : Value
  exponential : Value
  deriving DecidableEq

def nodeEntry (now : ℚ) (nodeId : String) (delta : Delta) (isLocal : Bool) : NodeEntry :=
  let hive := delta.hivemindState
  let age := now - delta.timestamp
  { nodeId, isLocal
    ageSeconds := roundTenth age
    stale := decide (deltaMaxAgeSeconds < age)
    intelligenceIndex := hive.get "intelligence_index"
    growthRate := hive.get "growth_rate"
    numAgents := hive.getD "num_agents" (hive.get "agent_count")
    exponential := hive.get "exponential" }

structure Tally where
  perNode : Table NodeEntry.nodeId
  indexSum : ℚ
  growthSum : ℚ
  agentsSum : Int
  withIntelligence : Nat
  stale : Nat

def Tally.start : Tally := ⟨Table.empty NodeEntry.nodeId, 0, 0, 0, 0, 0⟩

structure Share where
  index : ℚ
  growth : ℚ
  agents : Int

/-- What a delta adds to the sums, unless it is stale or reports no index. -/
def share (now : ℚ) (delta : Delta) : Option (Option Share) :=
  let hive := delta.hivemindState
  if hive.has "intelligence_index" ∧ ¬ deltaMaxAgeSeconds < now - delta.timestamp then do
    let index ← python.floatOr 0 (hive.get "intelligence_index")
    let growth ← python.floatOr 1 (hive.get "growth_rate")
    let agents ← python.intOr (hive.get "num_agents")
    return some ⟨index, growth, agents⟩
  else some none

def Tally.count (tally : Tally) : Option Share → Tally
  | none => tally
  | some share =>
      { tally with
        indexSum := python.add tally.indexSum share.index
        growthSum := python.add tally.growthSum share.growth
        agentsSum := tally.agentsSum + share.agents
        withIntelligence := tally.withIntelligence + 1 }

def Tally.read (now : ℚ) (tally : Tally) (nodeId : String) (delta : Delta) (isLocal : Bool) :
    Option Tally :=
  let entry := nodeEntry now nodeId delta isLocal
  (share python now delta).map fun share =>
    { tally.count python share with
      perNode := tally.perNode.set entry
      stale := tally.stale + if entry.stale then 1 else 0 }

structure Census where
  nodesReporting : Nat
  totalInstalls : Nat
  nodesWithIntelligence : Nat
  nodesStale : Nat
  windowSeconds : ℚ
  observedAt : ℚ
  meanIntelligenceIndex : Option ℚ
  meanGrowthRate : Option ℚ
  totalAgents : Option Int
  perNode : Table NodeEntry.nodeId

/-- The same dictionary: `per_node` by its keys, whatever order they were written in. -/
structure Census.Same (left right : Census) : Prop where
  perNode : ∀ nodeId, left.perNode.get? nodeId = right.perNode.get? nodeId
  figures : { left with perNode := right.perNode } = right

/-- The same but for the two means, which both have or neither has. -/
structure Census.SameCounts (left right : Census) : Prop where
  perNode : ∀ nodeId, left.perNode.get? nodeId = right.perNode.get? nodeId
  figures : { left with
    perNode := right.perNode
    meanIntelligenceIndex := right.meanIntelligenceIndex
    meanGrowthRate := right.meanGrowthRate } = right
  index : left.meanIntelligenceIndex.isSome = right.meanIntelligenceIndex.isSome
  growth : left.meanGrowthRate.isSome = right.meanGrowthRate.isSome

def censusOf (installs : Nat) (now : ℚ) (tally : Tally) : Census :=
  let reported {Figure : Type} (figure : Figure) : Option Figure :=
    if tally.withIntelligence = 0 then none else some figure
  { nodesReporting := tally.perNode.rows.length
    totalInstalls := installs
    nodesWithIntelligence := tally.withIntelligence
    nodesStale := tally.stale
    windowSeconds := deltaMaxAgeSeconds
    observedAt := now
    meanIntelligenceIndex := reported (python.div tally.indexSum tally.withIntelligence)
    meanGrowthRate := reported (python.div tally.growthSum tally.withIntelligence)
    totalAgents := reported tally.agentsSum
    perNode := tally.perNode }

namespace FederatedAggregator
variable (aggregator : FederatedAggregator)

def totalGenuineInstalls : Nat := aggregator.genuineInstalls.card

def readPeers (python : Python) (now : ℚ) : Option Tally :=
  aggregator.peerDeltas.rows.foldlM
    (fun tally delta => tally.read python now delta.nodeId delta false) Tally.start

def readAll (python : Python) (now : ℚ) : Option Tally :=
  (aggregator.readPeers python now).bind fun tally =>
    match aggregator.localDelta with
    | none => some tally
    -- A delta extracted here always has a `node_id`, so the name `self` is never used.
    | some delta => tally.read python now delta.nodeId delta true

def hiveCensus (python : Python) (now : ℚ) : Option Census :=
  (aggregator.readAll python now).map (censusOf python aggregator.totalGenuineInstalls now)

end FederatedAggregator

def weigh (python : Python) (delta : Delta) : Option ℚ := do
  let recorded ← (delta.experienceStats.getD "total_recorded" (.number 0)).number?
  let throughput ← (delta.qualityMetrics.getD "goal_throughput" (.number 0)).number?
  return max 1 (python.log1p (max 0 (python.add recorded throughput)))

structure Average where
  name : String
  value : ℚ
  deriving DecidableEq

/-- The blocks that have a number under `name`, as number and weight. -/
def numbersUnder (blocks : List (Block × ℚ)) (name : String) : List (ℚ × ℚ) :=
  blocks.filterMap fun (block, weight) => ((block.get name).number?).map (·, weight)

def averageOf (python : Python) (blocks : List (Block × ℚ)) (name : String) : Option Average :=
  let numbers := numbersUnder blocks name
  if numbers = [] then none
  else some ⟨name, python.div (python.sum (numbers.map fun (value, weight) => python.mul value weight))
    (max (1 / 10 ^ 10) (python.sum (numbers.map Prod.snd)))⟩

def weightedAvgDict (python : Python) (blocks : List (Block × ℚ)) : Table Average.name :=
  ((blocks.flatMap fun pair => pair.1.keys).filterMap (averageOf python blocks)).foldl Table.set
    (Table.empty Average.name)

structure Aggregated where
  epoch : Nat
  peerCount : Nat
  timestamp : ℚ
  experienceStats : Table Average.name
  raltStats : Table Average.name
  hivemindState : Table Average.name
  qualityMetrics : Table Average.name

def SameAverages (left right : Table Average.name) : Prop :=
  ∀ name, left.get? name = right.get? name

def SameNames (left right : Table Average.name) : Prop :=
  ∀ name, (left.get? name).isSome = (right.get? name).isSome

structure Aggregated.Alike (related : Table Average.name → Table Average.name → Prop)
    (left right : Aggregated) : Prop where
  epoch : left.epoch = right.epoch
  peerCount : left.peerCount = right.peerCount
  timestamp : left.timestamp = right.timestamp
  experienceStats : related left.experienceStats right.experienceStats
  raltStats : related left.raltStats right.raltStats
  hivemindState : related left.hivemindState right.hivemindState
  qualityMetrics : related left.qualityMetrics right.qualityMetrics

namespace FederatedAggregator

def allDeltas (aggregator : FederatedAggregator) : List Delta :=
  aggregator.peerDeltas.rows ++ aggregator.localDelta.toList

/-- `aggregate()`: `none` when a weight raises, `some none` when there is no delta. -/
def aggregate (aggregator : FederatedAggregator) (python : Python) (now : ℚ) :
    Option (Option Aggregated) :=
  let deltas := aggregator.allDeltas
  if deltas = [] then some none
  else do
    let weights ← deltas.mapM (weigh python)
    let blocks (of : Delta → Block) := (deltas.map of).zip weights
    return some
      { epoch := aggregator.epoch + 1
        peerCount := deltas.length
        timestamp := now
        experienceStats := weightedAvgDict python (blocks Delta.experienceStats)
        raltStats := weightedAvgDict python (blocks Delta.raltStats)
        hivemindState := weightedAvgDict python (blocks Delta.hivemindState)
        qualityMetrics := weightedAvgDict python (blocks Delta.qualityMetrics) }

end FederatedAggregator
end Hartos.Federation
