import Hartos.FederatedAggregator
import Hartos.StepSystem

/-!
The embedding and the resonance channel of an aggregator. A tick copies the pending deltas
under the lock, aggregates the copy without it, and takes the lock again to clear the
table; other calls come in between.
-/
namespace Hartos.Federation
open KeyedTable StepSystem

structure Arrival (Content : Type) where
  nodeId : String
  serial : Nat
  content : Content
  deriving DecidableEq

structure Channel (Content Result : Type) where
  aggregate : List Content → Option Result
  imports : Bool

/-- A compressed embedding delta; `Body` is what only `trimmed_mean_aggregate` reads. -/
structure EmbeddingDelta (Body : Type) where
  contributionScore : Option Value
  body : Body
  deriving DecidableEq

def embeddingWeight {Body : Type} (delta : EmbeddingDelta Body) : ℚ :=
  max (1 / 100) ((delta.contributionScore.bind Value.number?).getD 1)

def aggregateEmbeddings {Body Result : Type}
    (trimmedMean : List (EmbeddingDelta Body) → List ℚ → Option Result)
    (deltas : List (EmbeddingDelta Body)) : Option Result :=
  trimmedMean deltas (deltas.map embeddingWeight)

def embeddingChannel {Body Result : Type}
    (trimmedMean : List (EmbeddingDelta Body) → List ℚ → Option Result) :
    Channel (EmbeddingDelta Body) Result :=
  ⟨aggregateEmbeddings trimmedMean, false⟩

structure ResonanceDelta where
  userCount : Option Value
  avgTuning : Option (List ℚ)
  totalInteractions : Option Value
  deriving DecidableEq

structure Resonance where
  avgTuning : List ℚ
  peerCount : Nat
  totalUsers : ℚ
  totalInteractions : ℚ

def resonanceWeight (delta : ResonanceDelta) : Option ℚ :=
  ((delta.userCount.getD (.number 1)).number?).map (max 1)

def countOf (count : Option Value) : Option ℚ := (count.getD (.number 0)).number?

def aggregateResonance (deltas : List ResonanceDelta) : Option Resonance := do
  let weights ← deltas.mapM resonanceWeight
  let users ← deltas.mapM fun delta => countOf delta.userCount
  let interactions ← deltas.mapM fun delta => countOf delta.totalInteractions
  let dims := ((deltas.head?.bind ResonanceDelta.avgTuning).getD []).length
  if dims = 0 then none
  else
    let tunings := deltas.map fun delta => delta.avgTuning.getD (List.replicate dims (1 / 2))
    let share (dim : Nat) : ℚ := ((tunings.zip weights).map fun (tuning, weight) =>
      (tuning[dim]?).getD 0 * weight / weights.sum).sum
    return ⟨(List.range dims).map share, deltas.length, users.sum, interactions.sum⟩

def resonanceChannel : Channel ResonanceDelta Resonance := ⟨aggregateResonance, true⟩

inductive Stage (Content : Type) where
  | copied (deltas : List (Arrival Content))
  | importing (deltas : List (Arrival Content))
  | clearing (deltas : List (Arrival Content))
  deriving DecidableEq

structure Tick (Content : Type) where
  thread : Nat
  stage : Stage Content
  deriving DecidableEq

structure Pending (Content Result : Type) where
  deltas : Table (@Arrival.nodeId Content)
  epoch : Nat
  last : Option Result
  ticks : Table (@Tick.thread Content)
  received : List (Arrival Content)
  used : List (Arrival Content)
  replaced : List (Arrival Content)

inductive ChannelEvent (Content : Type) where
  | receive (nodeId : String) (content : Content)
  | copy (thread : Nat)
  | aggregate (thread : Nat)
  | importResult (thread : Nat) (raised : Bool)
  | clear (thread : Nat)

namespace Pending
variable {Content Result : Type} (channel : Channel Content Result)
variable (state : Pending Content Result)

def opened : Pending Content Result :=
  ⟨Table.empty _, 0, none, Table.empty _, [], [], []⟩

def receive (nodeId : String) (content : Content) : Pending Content Result :=
  if nodeId = "" then state
  else
    let arrival := ⟨nodeId, state.received.length, content⟩
    { state with
      deltas := state.deltas.set arrival
      received := arrival :: state.received
      replaced := (state.deltas.get? nodeId).toList ++ state.replaced }

def stageOf (thread : Nat) : Option (Stage Content) := (state.ticks.get? thread).map Tick.stage

def enter (thread : Nat) (stage : Stage Content) : Pending Content Result :=
  { state with ticks := state.ticks.set ⟨thread, stage⟩ }

def leave (thread : Nat) : Pending Content Result :=
  { state with ticks := state.ticks.erase thread }

def copy (thread : Nat) : Pending Content Result :=
  match state.stageOf thread with
  | some _ => state
  | none => if state.deltas.rows = [] then state else state.enter thread (.copied state.deltas.rows)

def aggregate (thread : Nat) : Pending Content Result :=
  match state.stageOf thread with
  | some (.copied deltas) =>
      match channel.aggregate (deltas.map Arrival.content) with
      | none => state.leave thread
      | some result =>
          let counted := { state with
            epoch := state.epoch + 1, last := some result, used := deltas ++ state.used }
          counted.enter thread (if channel.imports then .importing deltas else .clearing deltas)
  | _ => state

def importResult (thread : Nat) (raised : Bool) : Pending Content Result :=
  match state.stageOf thread with
  | some (.importing deltas) =>
      if raised then state.leave thread else state.enter thread (.clearing deltas)
  | _ => state

def clear (thread : Nat) : Pending Content Result :=
  match state.stageOf thread with
  | some (.clearing _) => { state with deltas := Table.empty _ }.leave thread
  | _ => state

def step : ChannelEvent Content → Pending Content Result
  | .receive nodeId content => state.receive nodeId content
  | .copy thread => state.copy thread
  | .aggregate thread => state.aggregate channel thread
  | .importResult thread raised => state.importResult thread raised
  | .clear thread => state.clear thread

end Pending
end Hartos.Federation
