import Hartos.RemoteCompute

/-!
The two books of remote compute. On each side the Spark moved for a pair is the whole
part of what its exchanges come to, paid or not, so the two sides differ by what the
serving nodes' fractions add up to.
-/
namespace Hartos.Metering
open StepSystem Books

def owed (exchanges : List ComputeExchange) : ℚ := (exchanges.map ComputeExchange.exact).sum

def servedBy (node : String) (exchanges : List ComputeExchange) : List ComputeExchange :=
  exchanges.filter fun exchange => decide (exchange.servingNode = node)

def ComputeEvent.between {network : Network} (requester operator : String) :
    ComputeEvent network → Option ComputeExchange
  | .exchange one =>
      if one.requester = requester ∧ one.operator = operator then some one.toComputeExchange
      else none
  | .balance _ _ => none

structure Carries (usage : List MeteredUsage) (taskSource requester operator : String)
    (exchanges : List ComputeExchange) : Prop where
  exact : exactPrior usage taskSource requester operator = owed exchanges
  moved : movedPrior usage taskSource requester operator = ⌊owed exchanges⌋
  whole : ∀ row ∈ usage, ofPair taskSource requester operator row = true →
    0 ≤ row.estimatedSparkCost

section Rows
variable {usage : List MeteredUsage} {taskSource requester operator : String}
  {exchanges : List ComputeExchange}

theorem Carries.empty : Carries [] taskSource requester operator [] := by
  refine ⟨rfl, ?_, ?_⟩
  · simp [movedPrior, owed]
  · intro row member
    cases member

variable {books : Books} (row : MeteredUsage) (exchange : ComputeExchange)

theorem exactPrior_append :
    exactPrior (usage ++ [row]) taskSource requester operator =
      exactPrior usage taskSource requester operator +
        if ofPair taskSource requester operator row then exactSpark row else 0 := by
  unfold exactPrior
  cases mine : ofPair taskSource requester operator row <;> simp [mine]

theorem movedPrior_append :
    movedPrior (usage ++ [row]) taskSource requester operator =
      movedPrior usage taskSource requester operator +
        if ofPair taskSource requester operator row then row.estimatedSparkCost else 0 := by
  unfold movedPrior
  cases mine : ofPair taskSource requester operator row <;> simp [mine]

theorem owed_append : owed (exchanges ++ [exchange]) = owed exchanges + exchange.exact := by
  unfold owed
  rw [List.map_append, List.sum_append, List.map_singleton, List.sum_singleton]

theorem Carries.other (carries : Carries usage taskSource requester operator exchanges)
    (row : MeteredUsage) (foreign : ofPair taskSource requester operator row = false) :
    Carries (usage ++ [row]) taskSource requester operator exchanges := by
  refine ⟨?_, ?_, fun wanted member mine => ?_⟩
  · rw [exactPrior_append, foreign, carries.exact]
    simp
  · rw [movedPrior_append, foreign, carries.moved]
    simp
  · rcases List.mem_append.mp member with old | new
    · exact carries.whole wanted old mine
    · rw [List.mem_singleton.mp new, foreign] at mine
      cases mine

theorem exact_nonneg (priced : 0 ≤ exchange.rate) : 0 ≤ exchange.exact := by
  unfold ComputeExchange.exact
  positivity

-- What `_accrue` finds due is the whole part of the new sum, less that of the old one.
theorem accrue_due (carries : Carries books.usage taskSource requester operator exchanges)
    (exchange : ComputeExchange) (priced : 0 ≤ exchange.rate) (node requesterNode id : String) :
    (books.accrue taskSource requester operator node requesterNode exchange id).1.estimatedSparkCost
      = ⌊owed exchanges + exchange.exact⌋ - ⌊owed exchanges⌋ := by
  change max 0 ⌊exactPrior books.usage taskSource requester operator -
    (movedPrior books.usage taskSource requester operator : ℚ) + exchange.exact⌋ = _
  rw [carries.exact, carries.moved,
    max_eq_right (WholeParts.floor_rest_nonneg _ _ (exact_nonneg exchange priced)),
    WholeParts.floor_rest]

-- The row of one exchange, whatever status it is given.
theorem Carries.accrued (carries : Carries books.usage taskSource requester operator exchanges)
    (exchange : ComputeExchange) (priced : 0 ≤ exchange.rate) (node requesterNode id : String)
    (status : SettlementStatus) :
    Carries (books.usage ++
      [{ (books.accrue taskSource requester operator node requesterNode exchange id).1 with
        settlementStatus := status }]) taskSource requester operator (exchanges ++ [exchange]) := by
  have mine : ofPair taskSource requester operator
      { (books.accrue taskSource requester operator node requesterNode exchange id).1 with
        settlementStatus := status } = true := by
    simp [ofPair, accrue]
  have due := accrue_due carries exchange priced node requesterNode id
  refine ⟨?_, ?_, fun wanted member ours => ?_⟩
  · rw [exactPrior_append, mine, if_pos rfl, carries.exact, owed_append]
    congr 1
    change (exchange.tokensIn + exchange.tokensOut : ℚ) * exchange.rate / 1000 =
      (exchange.tokensIn + exchange.tokensOut : ℚ) / 1000 * exchange.rate
    ring
  · rw [movedPrior_append, mine, if_pos rfl, carries.moved, owed_append]
    rw [due]
    ring
  · rcases List.mem_append.mp member with old | new
    · exact carries.whole wanted old ours
    · rw [List.mem_singleton.mp new]
      exact le_max_left 0 _

end Rows

section Halves
variable {network : Network} (books : Books) (exchange : RemoteExchange network)

theorem charge_usage : ∃ status,
    (books.chargeRemoteCompute network exchange.toComputeExchange).2.usage = books.usage ++
      [{ (books.accrue remoteComputeTaskSource exchange.requester exchange.operator
          exchange.servingNode exchange.requesterNode exchange.toComputeExchange
          exchange.chargeId).1 with settlementStatus := status }] := by
  have asked : ¬(exchange.requester = "" ∨ exchange.servingNode = "" ∨
      exchange.tokensIn + exchange.tokensOut = 0) := by
    rintro (unnamed | nowhere | nothing)
    · exact exchange.asked unnamed
    · exact exchange.served nowhere
    · exact exchange.measured nothing
  have known : ¬network.peerOperator exchange.servingNode = "" := exchange.known
  unfold chargeRemoteCompute RemoteExchange.operator
  rw [if_neg asked]
  dsimp only
  rw [exchange.foreign, if_neg Bool.false_ne_true, if_neg known]
  split
  · exact ⟨.carried, rfl⟩
  · split
    · exact ⟨.debited, rfl⟩
    · exact ⟨.unfunded, rfl⟩

theorem credit_usage : ∃ status,
    (books.creditServedCompute network exchange.toComputeExchange).2.usage = books.usage ++
      [{ (books.accrue servedComputeTaskSource exchange.requester exchange.operator
          exchange.servingNode exchange.requesterNode exchange.toComputeExchange
          exchange.creditId).1 with settlementStatus := status }] := by
  have asked : ¬(exchange.requester = "" ∨ exchange.tokensIn + exchange.tokensOut = 0) := by
    rintro (unnamed | nothing)
    · exact exchange.asked unnamed
    · exact exchange.measured nothing
  have known : ¬network.peerOperator exchange.servingNode = "" := exchange.known
  unfold creditServedCompute RemoteExchange.operator
  rw [if_neg asked]
  dsimp only
  rw [exchange.agreed, if_neg known, exchange.stranger, if_neg Bool.false_ne_true]
  split
  · exact ⟨.carried, rfl⟩
  · exact ⟨.credited, rfl⟩

end Halves

structure Compute.Balanced (state : Compute) (requester operator : String)
    (exchanges : List ComputeExchange) : Prop where
  home : Carries state.home.usage remoteComputeTaskSource requester operator exchanges
  nodes : ∀ node, Carries (state.nodes node).usage servedComputeTaskSource requester operator
    (servedBy node exchanges)

section Runs
variable {network : Network} {state : Compute} {requester operator : String}
  {exchanges : List ComputeExchange}

theorem servedBy_append (node : String) (exchange : ComputeExchange) :
    servedBy node (exchanges ++ [exchange]) =
      servedBy node exchanges ++ if exchange.servingNode = node then [exchange] else [] := by
  unfold servedBy
  by_cases here : exchange.servingNode = node <;> simp [here]

/-- One exchange is written down on both sides, for its own pair only. -/
theorem Compute.Balanced.exchanged (balanced : state.Balanced requester operator exchanges)
    (exchange : RemoteExchange network) :
    (state.step (.exchange exchange)).Balanced requester operator
      (exchanges ++ if exchange.requester = requester ∧ exchange.operator = operator then
        [exchange.toComputeExchange] else []) := by
  obtain ⟨homeStatus, homeUsage⟩ := charge_usage state.home exchange
  obtain ⟨nodeStatus, nodeUsage⟩ := credit_usage (state.nodes exchange.servingNode) exchange
  by_cases pair : exchange.requester = requester ∧ exchange.operator = operator
  · obtain ⟨rfl, rfl⟩ := pair
    rw [if_pos ⟨rfl, rfl⟩]
    constructor
    · change Carries (state.home.chargeRemoteCompute network _).2.usage _ _ _ _
      rw [homeUsage]
      exact balanced.home.accrued exchange.toComputeExchange exchange.priced _ _ _ homeStatus
    · intro node
      rw [servedBy_append]
      change Carries (Function.update state.nodes exchange.servingNode _ node).usage _ _ _ _
      by_cases here : node = exchange.servingNode
      · rw [here, Function.update_self, if_pos rfl, nodeUsage]
        exact (balanced.nodes exchange.servingNode).accrued exchange.toComputeExchange
          exchange.priced _ _ _ nodeStatus
      · rw [Function.update_of_ne here, if_neg (Ne.symm here), List.append_nil]
        exact balanced.nodes node
  · rw [if_neg pair, List.append_nil]
    have foreign (books : Books) (taskSource node requesterNode id : String)
        (status : SettlementStatus) : ofPair taskSource requester operator
          { (books.accrue taskSource exchange.requester exchange.operator node requesterNode
            exchange.toComputeExchange id).1 with settlementStatus := status } = false := by
      simpa [ofPair, accrue] using pair
    constructor
    · change Carries (state.home.chargeRemoteCompute network _).2.usage _ _ _ _
      rw [homeUsage]
      exact balanced.home.other _ (foreign ..)
    · intro node
      change Carries (Function.update state.nodes exchange.servingNode _ node).usage _ _ _ _
      by_cases here : node = exchange.servingNode
      · rw [here, Function.update_self, nodeUsage]
        exact (balanced.nodes exchange.servingNode).other _ (foreign ..)
      · rw [Function.update_of_ne here]
        exact balanced.nodes node

end Runs

def twoNodes : Network where
  peerOperator _ := "op"
  thisNodeOperator _ := "op"
  owned _ _ _ := false

end Hartos.Metering
