import Hartos.FederatedAggregator
import Hartos.FoldOrder
import Hartos.NewestRows
import Mathlib.Algebra.BigOperators.Group.List.Basic
import Mathlib.Tactic.Ring

/-!
The census and the average of two aggregators that hold the same deltas, stored in whatever
order: what they count agrees, and so do their means where floats add up alike in any order.
-/
namespace Hartos.Federation
open KeyedTable

namespace Tally

def view (tally : Tally) : (String → Option NodeEntry) × Int × Nat × Nat :=
  (tally.perNode.get?, tally.agentsSum, tally.withIntelligence, tally.stale)

theorem view_eq_iff (left right : Tally) : left.view = right.view ↔
    (∀ nodeId, left.perNode.get? nodeId = right.perNode.get? nodeId) ∧
      left.agentsSum = right.agentsSum ∧ left.withIntelligence = right.withIntelligence ∧
      left.stale = right.stale := by
  simp [view, funext_iff]

variable (python : Python) (now : ℚ)

theorem read_respects (left right : Tally) (nodeId : String) (delta : Delta) (isLocal : Bool)
    (same : left.view = right.view) :
    (left.read python now nodeId delta isLocal).map view =
      (right.read python now nodeId delta isLocal).map view := by
  obtain ⟨entries, agents, counted, stale⟩ := (view_eq_iff left right).mp same
  unfold read
  cases share python now delta with
  | none => rfl
  | some shared =>
    simp only [Option.map_some, Option.some.injEq, view_eq_iff, Table.get?_set]
    refine ⟨fun wanted => ?_, ?_, ?_, by rw [stale]⟩
    · rw [entries]
    · cases shared <;> simp [count, agents]
    · cases shared <;> simp [count, counted]

def readPeer (tally : Tally) (delta : Delta) : Option Tally :=
  tally.read python now delta.nodeId delta false

theorem count_commutes (tally : Tally) (first second : Option Share) :
    ((tally.count python first).count python second).agentsSum =
        ((tally.count python second).count python first).agentsSum ∧
      ((tally.count python first).count python second).withIntelligence =
        ((tally.count python second).count python first).withIntelligence := by
  cases first with
  | none => exact ⟨rfl, rfl⟩
  | some left =>
    cases second with
    | none => exact ⟨rfl, rfl⟩
    | some right => exact ⟨add_right_comm _ _ _, rfl⟩

theorem readPeer_commutes : FoldOrder.Commutes (readPeer python now) view
    fun first second => first.nodeId ≠ second.nodeId := by
  intro tally first second apart
  unfold readPeer read
  cases share python now first with
  | none => cases share python now second <;> rfl
  | some left => cases share python now second with
    | none => rfl
    | some right =>
      obtain ⟨agents, counted⟩ := count_commutes python tally left right
      simp only [Option.map_some, Option.bind_some, Option.some.injEq, view_eq_iff, Table.get?_set]
      refine ⟨fun wanted => ?_, ?_, ?_, by ring⟩
      · by_cases here : (nodeEntry now first.nodeId first false).nodeId = wanted
        · have other : (nodeEntry now second.nodeId second false).nodeId ≠ wanted :=
            fun there => apart (here.trans there.symm)
          rw [if_pos here, if_neg other, if_pos here]
        · rw [if_neg here, if_neg here]
      · cases left <;> cases right <;> exact agents
      · cases left <;> cases right <;> exact counted

/-- The floats that a tally adds up, in the order in which they are read. -/
theorem read_sums {tally next : Tally} {nodeId : String} {delta : Delta} {isLocal : Bool}
    (read : tally.read python now nodeId delta isLocal = some next) :
    ∃ shared, share python now delta = some shared ∧
      next.indexSum = (shared.toList.map Share.index).foldl python.add tally.indexSum ∧
      next.growthSum = (shared.toList.map Share.growth).foldl python.add tally.growthSum := by
  unfold Tally.read at read
  cases found : share python now delta with
  | none =>
    rw [found] at read
    cases read
  | some shared =>
    rw [found] at read
    cases Option.some.inj read
    refine ⟨shared, rfl, ?_⟩
    cases shared with
    | none => exact ⟨rfl, rfl⟩
    | some share => exact ⟨rfl, rfl⟩

end Tally

theorem rel_of_view {State View Answer : Type*} {view : State → View}
    {related : Answer → Answer → Prop} (answer : State → Answer)
    (agree : ∀ left right, view left = view right → related (answer left) (answer right))
    (left right : Option State) (same : left.map view = right.map view) :
    Option.Rel related (left.map answer) (right.map answer) := by
  cases left with
  | none => cases right with
    | none => exact .none
    | some => simp at same
  | some state => cases right with
    | none => simp at same
    | some other => exact .some (agree state other (Option.some.inj same))

def shares (python : Python) (now : ℚ) (deltas : List Delta) : List Share :=
  deltas.filterMap fun delta => (share python now delta).join

theorem censusOf_counts (python : Python) (installs : Nat) (now : ℚ) (left right : Tally)
    (same : left.view = right.view) :
    Census.SameCounts (censusOf python installs now left) (censusOf python installs now right) := by
  obtain ⟨entries, agents, counted, stale⟩ := (Tally.view_eq_iff left right).mp same
  have reporting := (Table.rows_perm_of_get? entries).length_eq
  refine ⟨entries, ?_, ?_, ?_⟩
  · simp only [censusOf, reporting, agents, counted, stale]
  · simp only [censusOf, counted]
    split <;> rfl
  · simp only [censusOf, counted]
    split <;> rfl

theorem censusOf_same (python : Python) (installs : Nat) (now : ℚ) (left right : Tally)
    (same : left.view = right.view) (index : left.indexSum = right.indexSum)
    (growth : left.growthSum = right.growthSum) :
    Census.Same (censusOf python installs now left) (censusOf python installs now right) := by
  obtain ⟨entries, agents, counted, stale⟩ := (Tally.view_eq_iff left right).mp same
  have reporting := (Table.rows_perm_of_get? entries).length_eq
  constructor
  · exact entries
  · simp only [censusOf, reporting, index, growth, agents, counted, stale]

/-- However the numbers are ordered, they add up to the same. -/
def OrderFree (sum : List ℚ → ℚ) (numbers : List ℚ) : Prop :=
  ∀ order, order.Perm numbers → sum order = sum numbers

theorem OrderFree.eq {sum : List ℚ → ℚ} {first second : List ℚ} (free : OrderFree sum second)
    (order : first.Perm second) : sum first = sum second :=
  free first order

def Python.total (python : Python) (numbers : List ℚ) : ℚ := numbers.foldl python.add 0

namespace FederatedAggregator
variable {left right : FederatedAggregator} (python : Python) (now : ℚ)

theorem readPeers_view (order : left.peerDeltas.rows.Perm right.peerDeltas.rows) :
    (left.readPeers python now).map Tally.view = (right.readPeers python now).map Tally.view := by
  have respects : FoldOrder.Respects (Tally.readPeer python now) Tally.view :=
    fun first second delta => Tally.read_respects python now first second delta.nodeId delta false
  have apart : left.peerDeltas.rows.Pairwise fun first second => first.nodeId ≠ second.nodeId :=
    List.pairwise_map.mp left.peerDeltas.unique
  exact FoldOrder.foldlM_perm respects (Tally.readPeer_commutes python now)
    ⟨fun _ _ => Ne.symm⟩ order apart Tally.start

theorem readAll_view (order : left.peerDeltas.rows.Perm right.peerDeltas.rows)
    (own : left.localDelta = right.localDelta) :
    (left.readAll python now).map Tally.view = (right.readAll python now).map Tally.view := by
  have peers := readPeers_view python now order
  unfold readAll
  rw [own]
  cases right.localDelta with
  | none => simpa using peers
  | some delta =>
    have respects : FoldOrder.Respects (fun tally delta =>
        Tally.read python now tally delta.nodeId delta true) Tally.view :=
      fun first second delta => Tally.read_respects python now first second delta.nodeId delta true
    exact FoldOrder.respects_bind respects _ _ delta peers

theorem foldlM_sums (deltas : List Delta) {tally next : Tally}
    (read : deltas.foldlM (Tally.readPeer python now) tally = some next) :
    next.indexSum = ((shares python now deltas).map Share.index).foldl python.add tally.indexSum ∧
      next.growthSum =
        ((shares python now deltas).map Share.growth).foldl python.add tally.growthSum := by
  induction deltas generalizing tally with
  | nil =>
    cases Option.some.inj read
    exact ⟨rfl, rfl⟩
  | cons delta rest ih =>
    obtain ⟨middle, first, others⟩ := Option.bind_eq_some_iff.mp read
    obtain ⟨shared, found, index, growth⟩ := Tally.read_sums python now first
    obtain ⟨restIndex, restGrowth⟩ := ih others
    rw [shares, List.filterMap_cons, found, restIndex, restGrowth, index, growth]
    cases shared with
    | none => exact ⟨rfl, rfl⟩
    | some share => exact ⟨rfl, rfl⟩

theorem readAll_sums {tally : Tally} {aggregator : FederatedAggregator}
    (read : aggregator.readAll python now = some tally) :
    tally.indexSum = python.total ((shares python now aggregator.allDeltas).map Share.index) ∧
      tally.growthSum = python.total ((shares python now aggregator.allDeltas).map Share.growth) := by
  obtain ⟨peers, readPeers, last⟩ := Option.bind_eq_some_iff.mp read
  obtain ⟨index, growth⟩ := foldlM_sums python now aggregator.peerDeltas.rows readPeers
  rw [allDeltas, shares, List.filterMap_append, List.map_append, List.map_append, Python.total,
    Python.total, List.foldl_append, List.foldl_append]
  change _ = List.foldl python.add (List.foldl python.add Tally.start.indexSum
      ((shares python now aggregator.peerDeltas.rows).map Share.index)) _ ∧
    _ = List.foldl python.add (List.foldl python.add Tally.start.growthSum
      ((shares python now aggregator.peerDeltas.rows).map Share.growth)) _
  rw [← index, ← growth]
  cases own : aggregator.localDelta with
  | none =>
    rw [own] at last
    cases Option.some.inj last
    exact ⟨rfl, rfl⟩
  | some delta =>
    rw [own] at last
    obtain ⟨shared, found, sums⟩ := Tally.read_sums python now last
    rw [Option.toList_some, List.filterMap_cons, found]
    cases shared with
    | none => exact sums
    | some share => exact sums

theorem allDeltas_perm (order : left.peerDeltas.rows.Perm right.peerDeltas.rows)
    (own : left.localDelta = right.localDelta) : left.allDeltas.Perm right.allDeltas := by
  unfold allDeltas
  rw [own]
  exact order.append_right _

theorem hiveCensus_counts (order : left.peerDeltas.rows.Perm right.peerDeltas.rows)
    (own : left.localDelta = right.localDelta)
    (installs : left.genuineInstalls = right.genuineInstalls) :
    Option.Rel Census.SameCounts (left.hiveCensus python now) (right.hiveCensus python now) := by
  unfold hiveCensus totalGenuineInstalls
  rw [installs]
  exact rel_of_view _ (censusOf_counts python _ now) _ _ (readAll_view python now order own)

theorem hiveCensus_same (order : left.peerDeltas.rows.Perm right.peerDeltas.rows)
    (own : left.localDelta = right.localDelta)
    (installs : left.genuineInstalls = right.genuineInstalls)
    (index : OrderFree python.total ((shares python now right.allDeltas).map Share.index))
    (growth : OrderFree python.total ((shares python now right.allDeltas).map Share.growth)) :
    Option.Rel Census.Same (left.hiveCensus python now) (right.hiveCensus python now) := by
  have views := readAll_view python now order own
  have added := (allDeltas_perm order own).filterMap fun delta => (share python now delta).join
  unfold hiveCensus totalGenuineInstalls
  rw [installs]
  cases one : left.readAll python now with
  | none =>
    cases other : right.readAll python now with
    | none => exact .none
    | some tally => simp [one, other] at views
  | some tally =>
    cases other : right.readAll python now with
    | none => simp [one, other] at views
    | some tally' =>
      rw [one, other] at views
      have sums := readAll_sums python now one
      have sums' := readAll_sums python now other
      apply Option.Rel.some
      apply censusOf_same python _ now _ _ (Option.some.inj views)
      · rw [sums.1, sums'.1]
        exact index.eq (added.map _)
      · rw [sums.2, sums'.2]
        exact growth.eq (added.map _)

end FederatedAggregator

variable (python : Python) (blocks : List (Block × ℚ)) (name : String)
  {left right : List (Block × ℚ)}

theorem numbersUnder_perm (order : left.Perm right) (name : String) :
    (numbersUnder left name).Perm (numbersUnder right name) :=
  order.filterMap _

theorem numbersUnder_nil (order : left.Perm right) (name : String) :
    numbersUnder left name = [] ↔ numbersUnder right name = [] := by
  rw [← List.length_eq_zero_iff, (numbersUnder_perm order name).length_eq,
    List.length_eq_zero_iff]

def products (numbers : List (ℚ × ℚ)) : List ℚ :=
  numbers.map fun (value, weight) => python.mul value weight

/-- The numbers under a name, times their weights, and the weights, add up alike in any order. -/
structure AveragesFree : Prop where
  products : OrderFree python.sum (products python (numbersUnder blocks name))
  weights : OrderFree python.sum ((numbersUnder blocks name).map Prod.snd)

theorem averageOf_perm (order : left.Perm right) (free : AveragesFree python right name) :
    averageOf python left name = averageOf python right name := by
  have numbers := numbersUnder_perm order name
  have weighed := free.products.eq (numbers.map fun (value, weight) => python.mul value weight)
  unfold products at weighed
  unfold averageOf
  simp only [numbersUnder_nil order name, weighed, free.weights.eq (numbers.map Prod.snd)]

theorem averageOf_isSome (order : left.Perm right) :
    (averageOf python left name).isSome = (averageOf python right name).isSome := by
  have empty := numbersUnder_nil order name
  unfold averageOf
  by_cases nothing : numbersUnder right name = []
  · simp only [if_pos nothing, if_pos (empty.mpr nothing)]
  · simp only [if_neg nothing, if_neg (nothing ∘ empty.mp), Option.isSome_some]

theorem averageOf_name (average : Average) (found : averageOf python blocks name = some average) :
    average.name = name := by
  unfold averageOf at found
  dsimp only at found
  split at found
  · cases found
  · cases found
    rfl

theorem averageOf_absent (absent : ∀ pair ∈ blocks, name ∉ pair.1.keys) :
    averageOf python blocks name = none := by
  have nothing : numbersUnder blocks name = [] := by
    apply List.filterMap_eq_nil_iff.mpr
    intro pair member
    have missing := (Table.get?_none pair.1 name).mpr (absent pair member)
    simp [Block.get, Block.getD, missing, Value.number?]
  simp [averageOf, nothing]

/-- Averages written one after the other: each name has the last one under it. -/
theorem foldl_set_get? (average : String → Option Average)
    (named : ∀ name found, average name = some found → found.name = name)
    (names : List String) (table : Table Average.name) (wanted : String)
    (before : table.get? wanted = none ∨ table.get? wanted = average wanted) :
    ((names.filterMap average).foldl Table.set table).get? wanted =
      if wanted ∈ names then average wanted else table.get? wanted := by
  induction names generalizing table with
  | nil => simp
  | cons name rest ih =>
    cases found : average name with
    | none =>
      rw [List.filterMap_cons_none found, ih table before]
      by_cases same : wanted = name
      · subst same
        rcases before with missing | kept <;> simp [*]
      · simp [same]
    | some row =>
      have rowName := named name row found
      rw [List.filterMap_cons_some found, List.foldl_cons]
      have after : (table.set row).get? wanted =
          if name = wanted then some row else table.get? wanted := by
        rw [Table.get?_set, rowName]
      by_cases same : name = wanted
      · subst same
        rw [if_pos rfl] at after
        rw [ih (table.set row) (.inr (after.trans found.symm)), after]
        simp [found]
      · rw [if_neg same] at after
        rw [ih (table.set row) (by rwa [after]), after]
        simp [Ne.symm same]

theorem weightedAvgDict_get? :
    (weightedAvgDict python blocks).get? name = averageOf python blocks name := by
  unfold weightedAvgDict
  rw [foldl_set_get? (averageOf python blocks) (averageOf_name python blocks) _ _ name (.inl rfl)]
  split
  · rfl
  next absent =>
    symm
    apply averageOf_absent
    intro pair member here
    exact absent (List.mem_flatMap.mpr ⟨pair, member, here⟩)

theorem weightedAvgDict_same (order : left.Perm right)
    (free : ∀ name, AveragesFree python right name) :
    SameAverages (weightedAvgDict python left) (weightedAvgDict python right) := by
  intro name
  rw [weightedAvgDict_get?, weightedAvgDict_get?, averageOf_perm python name order (free name)]

theorem weightedAvgDict_names (order : left.Perm right) :
    SameNames (weightedAvgDict python left) (weightedAvgDict python right) := by
  intro name
  rw [weightedAvgDict_get?, weightedAvgDict_get?, averageOf_isSome python name order]

namespace FederatedAggregator
variable {left right : FederatedAggregator} (python : Python) (now : ℚ)

theorem mapM_weigh (deltas : List Delta) : deltas.mapM (weigh python) =
    if ∀ delta ∈ deltas, (weigh python delta).isSome then
      some (deltas.map fun delta => (weigh python delta).getD 0)
    else none := by
  induction deltas with
  | nil => rfl
  | cons delta rest ih =>
    rw [List.mapM_cons, ih]
    cases found : weigh python delta with
    | none => simp [found]
    | some weight =>
      simp only [List.forall_mem_cons, found, Option.isSome_some, true_and]
      split <;> simp [found]

def weighed (deltas : List Delta) (block : Delta → Block) : List (Block × ℚ) :=
  deltas.map fun delta => (block delta, (weigh python delta).getD 0)

theorem aggregate_alike {related : Table Average.name → Table Average.name → Prop}
    (order : left.peerDeltas.rows.Perm right.peerDeltas.rows)
    (own : left.localDelta = right.localDelta) (epoch : left.epoch = right.epoch)
    (averages : ∀ block, block ∈ [Delta.experienceStats, Delta.raltStats, Delta.hivemindState,
      Delta.qualityMetrics] → related
        (weightedAvgDict python (weighed python left.allDeltas block))
        (weightedAvgDict python (weighed python right.allDeltas block))) :
    Option.Rel (Option.Rel (Aggregated.Alike related)) (left.aggregate python now)
      (right.aggregate python now) := by
  have deltas := allDeltas_perm order own
  have empty : left.allDeltas = [] ↔ right.allDeltas = [] := by
    rw [← List.length_eq_zero_iff, deltas.length_eq, List.length_eq_zero_iff]
  have readable : (∀ delta ∈ left.allDeltas, (weigh python delta).isSome) ↔
      ∀ delta ∈ right.allDeltas, (weigh python delta).isSome := by
    simp only [deltas.mem_iff]
  have paired (deltas : List Delta) (block : Delta → Block) :
      (deltas.map block).zip (deltas.map fun delta => (weigh python delta).getD 0) =
        weighed python deltas block :=
    List.zip_map' ..
  unfold aggregate
  simp only [mapM_weigh, empty, readable]
  split
  · exact .some .none
  · split
    · simp only [Option.bind_eq_bind, Option.bind_some, paired]
      exact .some (.some ⟨by rw [epoch], deltas.length_eq, rfl, averages _ (by simp),
        averages _ (by simp), averages _ (by simp), averages _ (by simp)⟩)
    · exact .none

/-- Every sum that a census or an average takes of these deltas comes out the same in any order. -/
structure SumsFree (python : Python) (now : ℚ) (deltas : List Delta) : Prop where
  index : OrderFree python.total ((shares python now deltas).map Share.index)
  growth : OrderFree python.total ((shares python now deltas).map Share.growth)
  averages : ∀ block, block ∈ [Delta.experienceStats, Delta.raltStats, Delta.hivemindState,
    Delta.qualityMetrics] → ∀ name, AveragesFree python (weighed python deltas block) name

theorem aggregate_same (order : left.peerDeltas.rows.Perm right.peerDeltas.rows)
    (own : left.localDelta = right.localDelta) (epoch : left.epoch = right.epoch)
    (free : SumsFree python now right.allDeltas) :
    Option.Rel (Option.Rel (Aggregated.Alike SameAverages)) (left.aggregate python now)
      (right.aggregate python now) := by
  apply aggregate_alike python now order own epoch
  intro block listed
  exact weightedAvgDict_same python ((allDeltas_perm order own).map _) (free.averages block listed)

theorem aggregate_counts (order : left.peerDeltas.rows.Perm right.peerDeltas.rows)
    (own : left.localDelta = right.localDelta) (epoch : left.epoch = right.epoch) :
    Option.Rel (Option.Rel (Aggregated.Alike SameNames)) (left.aggregate python now)
      (right.aggregate python now) := by
  apply aggregate_alike python now order own epoch
  intro block _
  exact weightedAvgDict_names python ((allDeltas_perm order own).map _)

end FederatedAggregator
end Hartos.Federation
