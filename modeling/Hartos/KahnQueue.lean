import Mathlib.Data.Fintype.EquivFin
import Mathlib.Data.List.Nodup
import Mathlib.Data.List.Perm.Subperm
import Mathlib.Logic.Function.Basic
import Mathlib.Logic.Relation
import Mathlib.Order.WellFounded

/-!
Kahn's algorithm with a queue and in-degrees. A node enters the queue when the last
of its prerequisites is taken out of it; one with a prerequisite that is not a node
never does. What is sorted is what can be: the nodes built up from nodes alone.
-/
namespace KahnQueue

universe u
variable {Node : Type u} [DecidableEq Node]

def relax : List Node → (Node → Int) → List Node → (Node → Int) × List Node
  | [], degree, queue => (degree, queue)
  | dependent :: rest, degree, queue =>
      let lowered := Function.update degree dependent (degree dependent - 1)
      relax rest lowered (if lowered dependent = 0 then queue ++ [dependent] else queue)

def drain (adj : Node → List Node) : Nat → (Node → Int) → List Node → List Node →
    Option (List Node)
  | _, _, [], sorted => some sorted
  | 0, _, _ :: _, _ => none
  | fuel + 1, degree, node :: queue, sorted =>
      let relaxed := relax (adj node) degree queue
      drain adj fuel relaxed.1 relaxed.2 (sorted ++ [node])

def sort (adj prereqs : Node → List Node) (nodes : List Node) : Option (List Node) :=
  let degree : Node → Int := fun node => (prereqs node).length
  drain adj nodes.length degree (nodes.filter fun node => degree node = 0) []

inductive Sortable (prereqs : Node → List Node) (nodes : List Node) : Node → Prop where
  | built (node : Node) (member : node ∈ nodes)
      (below : ∀ earlier ∈ prereqs node, Sortable prereqs nodes earlier) :
      Sortable prereqs nodes node

def Ordered (prereqs : Node → List Node) (sorted : List Node) : Prop :=
  ∀ before node after, sorted = before ++ node :: after →
    ∀ earlier ∈ prereqs node, earlier ∈ before

structure Graph (adj prereqs : Node → List Node) (nodes : List Node) : Prop where
  once : nodes.Nodup
  distinct : ∀ node, (prereqs node).Nodup
  dependents : ∀ node, (adj node).Nodup
  edges : ∀ node later, later ∈ adj node ↔ later ∈ nodes ∧ node ∈ prereqs later

structure Inv (prereqs : Node → List Node) (nodes : List Node) (degree : Node → Int)
    (queue sorted : List Node) : Prop where
  unique : (sorted ++ queue).Nodup
  degree : ∀ node ∈ nodes, degree node = ((prereqs node).filter (· ∉ sorted)).length
  ready : ∀ node, node ∈ sorted ++ queue ↔
    node ∈ nodes ∧ ∀ earlier ∈ prereqs node, earlier ∈ sorted
  ordered : Ordered prereqs sorted

theorem relax_eq (dependents : List Node) (once : dependents.Nodup) (degree : Node → Int)
    (queue : List Node) :
    relax dependents degree queue =
      (fun node => if node ∈ dependents then degree node - 1 else degree node,
        queue ++ dependents.filter fun node => degree node - 1 = 0) := by
  induction dependents generalizing degree queue with
  | nil => simp [relax]
  | cons first rest ih =>
    obtain ⟨fresh, later⟩ := List.nodup_cons.mp once
    rw [relax, ih later]
    have kept (node : Node) (member : node ∈ rest) :
        Function.update degree first (degree first - 1) node = degree node := by
      have differ : node ≠ first := fun same => fresh (same ▸ member)
      simp [differ]
    apply Prod.ext
    · funext node
      by_cases member : node ∈ rest
      · simp [member, kept node member]
      · by_cases same : node = first <;> simp [member, same, fresh]
    · have tail : (rest.filter fun node =>
          Function.update degree first (degree first - 1) node - 1 = 0) =
          rest.filter fun node => degree node - 1 = 0 :=
        List.filter_congr fun node member => by rw [kept node member]
      rw [tail, List.filter_cons]
      by_cases zero : degree first - 1 = 0 <;> simp [zero]

variable (prereqs sorted : List Node)

theorem waiting_length (node : Node) (distinct : prereqs.Nodup) (fresh : node ∉ sorted) :
    ((prereqs.filter (· ∉ sorted ++ [node])).length : Int) =
      if node ∈ prereqs then ((prereqs.filter (· ∉ sorted)).length : Int) - 1
      else ((prereqs.filter (· ∉ sorted)).length : Int) := by
  have erased : prereqs.filter (· ∉ sorted ++ [node]) =
      (prereqs.filter (· ∉ sorted)).erase node := by
    rw [(distinct.filter _).erase_eq_filter, List.filter_filter]
    apply List.filter_congr
    intro other _
    rw [Bool.eq_iff_iff]
    simp [and_comm]
  rw [erased]
  by_cases member : node ∈ prereqs
  · have inside : node ∈ prereqs.filter (· ∉ sorted) := by simp [member, fresh]
    have positive := List.length_pos_of_mem inside
    rw [if_pos member, List.length_erase_of_mem inside]
    omega
  · have outside : node ∉ prereqs.filter (· ∉ sorted) := by simp [member]
    rw [if_neg member, List.erase_of_not_mem outside]

theorem waiting_zero :
    ((prereqs.filter (· ∉ sorted)).length : Int) = 0 ↔ ∀ earlier ∈ prereqs, earlier ∈ sorted := by
  simp [List.filter_eq_nil_iff]

section Runs
variable {adj prereqs : Node → List Node} {nodes : List Node}

theorem inv_start (graph : Graph adj prereqs nodes) :
    Inv prereqs nodes (fun node => (prereqs node).length)
      (nodes.filter fun node => ((prereqs node).length : Int) = 0) [] := by
  constructor
  · simpa using graph.once.filter _
  · simp
  · simp [List.eq_nil_iff_forall_not_mem]
  · intro before node after split
    simp at split

theorem inv_step (graph : Graph adj prereqs nodes) (degree : Node → Int) (node : Node)
    (queue sorted : List Node) (inv : Inv prereqs nodes degree (node :: queue) sorted) :
    Inv prereqs nodes (relax (adj node) degree queue).1 (relax (adj node) degree queue).2
      (sorted ++ [node]) := by
  rw [relax_eq (adj node) (graph.dependents node)]
  have split : (sorted ++ [node]) ++ queue = sorted ++ node :: queue := by simp
  have fresh : node ∉ sorted := by
    intro inside
    exact (List.nodup_append.mp inv.unique).2.2 node inside node List.mem_cons_self rfl
  have lowered (other : Node) (member : other ∈ nodes) :
      (if other ∈ adj node then degree other - 1 else degree other) =
        ((prereqs other).filter (· ∉ sorted ++ [node])).length := by
    rw [waiting_length _ sorted node (graph.distinct other) fresh, inv.degree other member]
    simp only [graph.edges node other, member, true_and]
  -- The nodes that join the queue: dependents whose count falls to zero.
  have joins (other : Node) : (other ∈ adj node ∧ degree other - 1 = 0) ↔
      other ∈ adj node ∧ ∀ earlier ∈ prereqs other, earlier ∈ sorted ++ [node] := by
    apply and_congr_right
    intro edge
    rw [← waiting_zero, ← lowered other ((graph.edges node other).mp edge).1, if_pos edge]
  have waits (other : Node) (edge : other ∈ adj node) : other ∉ sorted ++ node :: queue := by
    intro inside
    exact fresh (((inv.ready other).mp inside).2 node ((graph.edges node other).mp edge).2)
  constructor
  · rw [← List.append_assoc, split]
    refine List.nodup_append.mpr ⟨inv.unique, (graph.dependents node).filter _, ?_⟩
    rintro other inside _ joined rfl
    exact waits other (List.mem_of_mem_filter joined) inside
  · exact lowered
  · intro other
    rw [← List.append_assoc, split, List.mem_append, List.mem_filter, decide_eq_true_iff, joins,
      inv.ready other]
    constructor
    · rintro (⟨member, below⟩ | ⟨edge, below⟩)
      · exact ⟨member, fun earlier needed => List.mem_append_left _ (below earlier needed)⟩
      · exact ⟨((graph.edges node other).mp edge).1, below⟩
    · rintro ⟨member, below⟩
      by_cases needed : node ∈ prereqs other
      · exact .inr ⟨(graph.edges node other).mpr ⟨member, needed⟩, below⟩
      · apply Or.inl
        apply And.intro member
        intro earlier wanted
        rcases List.mem_append.mp (below earlier wanted) with done | last
        · exact done
        · exact absurd (List.mem_singleton.mp last ▸ wanted) needed
  · intro before other after whole
    rcases List.eq_nil_or_concat after with rfl | ⟨rest, last, rfl⟩
    · have parts := List.append_inj' whole rfl
      have same : node = other := (List.cons.inj parts.2).1
      rw [← parts.1, ← same]
      exact ((inv.ready node).mp (List.mem_append_right _ List.mem_cons_self)).2
    · rw [List.concat_eq_append, ← List.cons_append, ← List.append_assoc] at whole
      have parts := List.append_inj' whole rfl
      exact inv.ordered before other rest parts.1

theorem drain_inv (graph : Graph adj prereqs nodes) (fuel : Nat) (degree : Node → Int)
    (queue sorted : List Node) (inv : Inv prereqs nodes degree queue sorted)
    (enough : nodes.length ≤ fuel + sorted.length) :
    ∃ degree' result, drain adj fuel degree queue sorted = some result ∧
      Inv prereqs nodes degree' [] result := by
  have within : sorted ++ queue ⊆ nodes := fun node member => ((inv.ready node).mp member).1
  have room := (inv.unique.subperm within).length_le
  rw [List.length_append] at room
  induction fuel generalizing degree queue sorted with
  | zero =>
    have none : queue = [] := List.eq_nil_of_length_eq_zero (by omega)
    subst none
    exact ⟨degree, sorted, by rw [drain], inv⟩
  | succ fuel ih =>
    cases queue with
    | nil => exact ⟨degree, sorted, by rw [drain], inv⟩
    | cons node queue =>
      have stepped := inv_step graph degree node queue sorted inv
      have within' : (sorted ++ [node]) ++ (relax (adj node) degree queue).2 ⊆ nodes :=
        fun other member => ((stepped.ready other).mp member).1
      have room' := (stepped.unique.subperm within').length_le
      rw [List.length_append] at room'
      exact ih _ _ (sorted ++ [node]) stepped (by simp; omega) within' room'

omit [DecidableEq Node] in
-- What comes early in the order is sortable before what comes late.
theorem ordered_sortable (result : List Node) (members : ∀ node ∈ result, node ∈ nodes)
    (ordered : Ordered prereqs result) (node : Node) (inside : node ∈ result) :
    Sortable prereqs nodes node := by
  obtain ⟨before, after, split⟩ := List.append_of_mem inside
  induction sized : before.length using Nat.strong_induction_on generalizing node before after with
  | _ size ih =>
    apply Sortable.built node (members node inside)
    intro earlier needed
    have placed := ordered before node after split earlier needed
    obtain ⟨first, rest, parts⟩ := List.append_of_mem placed
    have whole : result = first ++ earlier :: (rest ++ node :: after) := by simp [split, parts]
    have shorter : first.length < size := by
      rw [← sized, parts, List.length_append, List.length_cons]
      omega
    have present : earlier ∈ result := by rw [whole]; simp
    exact ih first.length shorter earlier present first _ whole rfl

/-- The sort ends, takes the sortable nodes, each once, and each after all that it
needs. -/
theorem sort_spec (graph : Graph adj prereqs nodes) :
    ∃ result, sort adj prereqs nodes = some result ∧ result.Nodup ∧ Ordered prereqs result ∧
      ∀ node, node ∈ result ↔ Sortable prereqs nodes node := by
  obtain ⟨degree, result, drained, inv⟩ :=
    drain_inv graph nodes.length _ _ [] (inv_start graph) (by simp)
  have ready := inv.ready
  have unique := inv.unique
  rw [List.append_nil] at ready unique
  refine ⟨result, drained, unique, inv.ordered, fun node => ⟨?_, ?_⟩⟩
  · exact ordered_sortable result (fun other member => ((ready other).mp member).1) inv.ordered node
  · intro sortable
    induction sortable with
    | built node member below ih => exact (ready node).mpr ⟨member, ih⟩

omit [DecidableEq Node] in
theorem Sortable.member {node : Node} (sortable : Sortable prereqs nodes node) : node ∈ nodes := by
  cases sortable with
  | built _ member _ => exact member

/-- Without cycles, a node can be sorted when all that it needs, directly or not, are
nodes. -/
theorem sortable_of_below (graph : Graph adj prereqs nodes)
    (acyclic : ∀ node, ¬ Relation.TransGen (fun earlier later => later ∈ adj earlier) node node)
    (node : Node) (member : node ∈ nodes)
    (known : ∀ earlier,
      Relation.TransGen (fun first second => first ∈ prereqs second) earlier node →
        earlier ∈ nodes) : Sortable prereqs nodes node := by
  let before : {node // node ∈ nodes} → {node // node ∈ nodes} → Prop := fun first second =>
    Relation.TransGen (fun earlier later => later ∈ adj earlier) first.1 second.1
  have irrefl : Std.Irrefl before := ⟨fun node => acyclic node.1⟩
  have founded : WellFounded before := Finite.wellFounded_of_trans_of_irrefl before
  suffices all : ∀ node : {node // node ∈ nodes},
      (∀ earlier, Relation.TransGen (fun first second => first ∈ prereqs second) earlier node.1 →
        earlier ∈ nodes) → Sortable prereqs nodes node.1 from all ⟨node, member⟩ known
  intro node
  induction node using founded.induction with
  | _ node ih =>
    intro known
    apply Sortable.built node.1 node.2
    intro earlier needed
    have inside := known earlier (.single needed)
    apply ih ⟨earlier, inside⟩ (.single ((graph.edges earlier node.1).mpr ⟨node.2, needed⟩))
    exact fun first path => known first (path.tail needed)

omit [DecidableEq Node] in
theorem Sortable.needs_member {node : Node} (sortable : Sortable prereqs nodes node)
    (earlier : Node)
    (path : Relation.TransGen (fun first second => first ∈ prereqs second) earlier node) :
    earlier ∈ nodes := by
  induction sortable with
  | built node _ below ih =>
    cases path with
    | single needed => exact (below earlier needed).member
    | tail path needed => exact ih _ needed path

end Runs

end KahnQueue
