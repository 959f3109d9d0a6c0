import Mathlib.Algebra.BigOperators.Group.List.Basic
import Mathlib.Algebra.Order.Group.Defs
import Mathlib.Data.List.Chain
import Mathlib.Data.List.MinMax
import Mathlib.Logic.Function.Basic

/-!
Longest distances over nodes in a topological order, with the predecessor that gave
each. The distance of a node is the cost of the nodes before it on a path, its own cost
not counted. Nodes outside the order are reached, but nothing is passed on from them.
-/
namespace LongestPath

universe u v
variable {Node : Type u} [DecidableEq Node] {Cost : Type v} [AddCommGroup Cost] [LinearOrder Cost]

structure Labels (Node : Type u) (Cost : Type v) where
  distance : Node → Cost
  parent : Node → Option Node

def Labels.offer (labels : Labels Node Cost) (node : Node) (reached : Cost) (dependent : Node) :
    Labels Node Cost :=
  if labels.distance dependent < reached then
    ⟨Function.update labels.distance dependent reached,
      Function.update labels.parent dependent (some node)⟩
  else labels

variable (adj : Node → List Node) (cost : Node → Cost)

def visit (labels : Labels Node Cost) (node : Node) : Labels Node Cost :=
  (adj node).foldl
    (fun labels dependent => labels.offer node (labels.distance node + cost node) dependent) labels

def label (sorted : List Node) : Labels Node Cost :=
  sorted.foldl (visit adj cost) ⟨fun _ => 0, fun _ => none⟩

def climb (parent : Node → Option Node) : Nat → Node → Option (List Node)
  | 0, _ => none
  | fuel + 1, node =>
      match parent node with
      | none => some [node]
      | some earlier => (climb parent fuel earlier).map (· ++ [node])

def Forward (sorted : List Node) : Prop :=
  ∀ before node after, sorted = before ++ node :: after →
    ∀ earlier ∈ before ++ [node], earlier ∉ adj node

def IsPath (path : List Node) : Prop :=
  path.IsChain fun earlier later => later ∈ adj earlier

structure Inv (adj : Node → List Node) (cost : Node → Cost) (done : List Node)
    (labels : Labels Node Cost) : Prop where
  based : ∀ node, labels.distance node = 0 ∧ labels.parent node = none ∨
    ∃ earlier ∈ done, labels.parent node = some earlier ∧ node ∈ adj earlier ∧
      labels.distance node = labels.distance earlier + cost earlier
  passed : ∀ earlier ∈ done, ∀ node ∈ adj earlier,
    labels.distance earlier + cost earlier ≤ labels.distance node
  nonneg : ∀ node, 0 ≤ labels.distance node

theorem offers_eq (dependents : List Node) (node : Node) (cost : Cost) (self : node ∉ dependents)
    (labels : Labels Node Cost) :
    dependents.foldl
        (fun labels dependent => labels.offer node (labels.distance node + cost) dependent) labels =
      ⟨fun other => if other ∈ dependents then
          max (labels.distance other) (labels.distance node + cost) else labels.distance other,
        fun other => if other ∈ dependents ∧ labels.distance other < labels.distance node + cost
          then some node else labels.parent other⟩ := by
  induction dependents generalizing labels with
  | nil => simp
  | cons first rest ih =>
    have apart : node ≠ first := fun same => self (same ▸ List.mem_cons_self)
    have later : node ∉ rest := fun inside => self (List.mem_cons_of_mem first inside)
    rw [List.foldl_cons, ih later]
    unfold Labels.offer
    by_cases better : labels.distance first < labels.distance node + cost
    · rw [if_pos better]
      congr 1
      · funext other
        by_cases same : other = first
        · subst same
          by_cases inside : other ∈ rest <;> simp [inside, apart, better.le]
        · simp [same, apart]
      · funext other
        by_cases same : other = first
        · subst same
          by_cases inside : other ∈ rest <;> simp [inside, apart, better]
        · simp [same, apart]
    · rw [if_neg better]
      congr 1
      · funext other
        by_cases same : other = first
        · subst same
          by_cases inside : other ∈ rest <;> simp [inside, not_lt.mp better]
        · simp [same]
      · funext other
        by_cases same : other = first
        · subst same
          by_cases inside : other ∈ rest <;> simp [inside, better]
        · simp [same]

theorem visit_eq (node : Node) (self : node ∉ adj node) (labels : Labels Node Cost) :
    visit adj cost labels node =
      ⟨fun other => if other ∈ adj node then
          max (labels.distance other) (labels.distance node + cost node)
          else labels.distance other,
        fun other => if other ∈ adj node ∧
          labels.distance other < labels.distance node + cost node
          then some node else labels.parent other⟩ :=
  offers_eq (adj node) node (cost node) self labels

section Runs
variable {adj : Node → List Node} {cost : Node → Cost} {sorted : List Node}

omit [DecidableEq Node] in
theorem inv_start : Inv adj cost [] ⟨fun _ => 0, fun _ => none⟩ := by
  constructor
  · exact fun node => .inl ⟨rfl, rfl⟩
  · exact fun earlier none => absurd none List.not_mem_nil
  · exact fun node => le_refl 0

-- A visit settles the node: its own distance and those of the nodes before it stay.
theorem inv_step (done : List Node) (node : Node) (labels : Labels Node Cost)
    (forward : ∀ earlier ∈ done ++ [node], earlier ∉ adj node) (inv : Inv adj cost done labels) :
    Inv adj cost (done ++ [node]) (visit adj cost labels node) := by
  have self := forward node (by simp)
  rw [visit_eq adj cost node self]
  have settled (earlier : Node) (member : earlier ∈ done ++ [node]) :
      (if earlier ∈ adj node then
        max (labels.distance earlier) (labels.distance node + cost node)
        else labels.distance earlier) = labels.distance earlier :=
    if_neg (forward earlier member)
  have grows (other : Node) : labels.distance other ≤ (if other ∈ adj node then
      max (labels.distance other) (labels.distance node + cost node)
      else labels.distance other) := by
    split
    · exact le_max_left _ _
    · exact le_refl _
  constructor
  · intro other
    by_cases raised : other ∈ adj node ∧ labels.distance other < labels.distance node + cost node
    · refine .inr ⟨node, by simp, if_pos raised, raised.1, ?_⟩
      dsimp only
      rw [if_pos raised.1, settled node (by simp), max_eq_right raised.2.le]
    · have same : (if other ∈ adj node then
          max (labels.distance other) (labels.distance node + cost node)
          else labels.distance other) = labels.distance other := by
        split
        · next edge => exact max_eq_left (not_lt.mp fun better => raised ⟨edge, better⟩)
        · rfl
      dsimp only
      rw [same, if_neg raised]
      rcases inv.based other with bottom | ⟨earlier, member, via, edge, sum⟩
      · exact .inl bottom
      · have member' : earlier ∈ done ++ [node] := List.mem_append_left _ member
        refine .inr ⟨earlier, member', via, edge, ?_⟩
        rw [settled earlier member', sum]
  · intro earlier member other edge
    dsimp only
    rw [settled earlier member]
    rcases List.mem_append.mp member with before | last
    · exact (inv.passed earlier before other edge).trans (grows other)
    · rw [List.mem_singleton] at last
      subst last
      rw [if_pos edge]
      exact le_max_right _ _
  · intro other
    exact (inv.nonneg other).trans (grows other)

theorem label_inv (forward : Forward adj sorted) : Inv adj cost sorted (label adj cost sorted) := by
  suffices run : ∀ rest done labels, sorted = done ++ rest → Inv adj cost done labels →
      Inv adj cost sorted (rest.foldl (visit adj cost) labels) from
    run sorted [] _ rfl inv_start
  intro rest
  induction rest with
  | nil =>
    intro done labels whole inv
    rw [whole, List.append_nil]
    exact inv
  | cons node rest ih =>
    intro done labels whole inv
    apply ih (done ++ [node]) _ (by simp [whole])
    exact inv_step done node labels (forward done node rest whole) inv

omit [AddCommGroup Cost] [LinearOrder Cost] [DecidableEq Node] in
theorem climb_mono (parent : Node → Option Node) (fuel more : Nat) (enough : fuel ≤ more)
    (node : Node) (path : List Node) (found : climb parent fuel node = some path) :
    climb parent more node = some path := by
  induction fuel generalizing more node path with
  | zero => cases found
  | succ fuel ih =>
    cases more with
    | zero => omega
    | succ more =>
      rw [climb] at found ⊢
      cases via : parent node with
      | none => simpa [via] using found
      | some earlier =>
        simp only [via, Option.map_eq_some_iff] at found ⊢
        obtain ⟨front, climbed, whole⟩ := found
        exact ⟨front, ih more (by omega) earlier front climbed, whole⟩

structure Leads (adj : Node → List Node) (cost : Node → Cost) (sorted : List Node)
    (labels : Labels Node Cost) (front : List Node) (node : Node) : Prop where
  path : IsPath adj (front ++ [node])
  inside : ∀ earlier ∈ front, earlier ∈ sorted
  sum : (front.map cost).sum = labels.distance node

omit [LinearOrder Cost] [DecidableEq Node] in
theorem Leads.extend {labels : Labels Node Cost} {front : List Node} {earlier node : Node}
    (leads : Leads adj cost sorted labels front earlier) (member : earlier ∈ sorted)
    (edge : node ∈ adj earlier)
    (sum : labels.distance node = labels.distance earlier + cost earlier) :
    Leads adj cost sorted labels (front ++ [earlier]) node := by
  constructor
  · apply leads.path.append (List.isChain_singleton node)
    simpa using edge
  · intro other inside
    rcases List.mem_append.mp inside with before | last
    · exact leads.inside other before
    · exact List.mem_singleton.mp last ▸ member
  · rw [List.map_append, List.sum_append, leads.sum, sum]
    simp

theorem climb_settled (forward : Forward adj sorted) (labels : Labels Node Cost)
    (inv : Inv adj cost sorted labels) (before : List Node) (node : Node) (after : List Node)
    (whole : sorted = before ++ node :: after) :
    ∃ front, climb labels.parent (before.length + 1) node = some (front ++ [node]) ∧
      Leads adj cost sorted labels front node := by
  induction sized : before.length using Nat.strong_induction_on generalizing node before after with
  | _ size ih =>
    rcases inv.based node with ⟨zero, root⟩ | ⟨earlier, member, via, edge, sum⟩
    · exact ⟨[], by simp [climb, root], List.isChain_singleton node, by simp, by simp [zero]⟩
    · have placed : earlier ∈ before := by
        by_contra late
        have behind : earlier ∈ node :: after := by
          rw [whole] at member
          exact (List.mem_append.mp member).resolve_left late
        obtain ⟨first, rest, parts⟩ := List.append_of_mem behind
        have whole' : sorted = (before ++ first) ++ earlier :: rest := by simp [whole, parts]
        apply forward _ earlier rest whole' node _ edge
        cases first with
        | nil => simp only [List.nil_append, List.cons.injEq] at parts; simp [parts.1]
        | cons head tail =>
          simp only [List.cons_append, List.cons.injEq] at parts
          simp [parts.1]
      obtain ⟨first, rest, parts⟩ := List.append_of_mem placed
      have shorter : first.length < size := by
        rw [← sized, parts, List.length_append, List.length_cons]
        omega
      have whole' : sorted = first ++ earlier :: (rest ++ node :: after) := by
        simp [whole, parts]
      obtain ⟨front, climbed, leads⟩ := ih first.length shorter first earlier _ whole' rfl
      have climbed' := climb_mono _ _ size (by omega) _ _ climbed
      exact ⟨front ++ [earlier], by simp [climb, via, climbed'],
        leads.extend member edge sum⟩

/-- From any node, the predecessors lead back along a path that costs its distance. -/
theorem climb_any (forward : Forward adj sorted) (labels : Labels Node Cost)
    (inv : Inv adj cost sorted labels) (node : Node) :
    ∃ front, climb labels.parent (sorted.length + 1) node = some (front ++ [node]) ∧
      Leads adj cost sorted labels front node := by
  rcases inv.based node with ⟨zero, root⟩ | ⟨earlier, member, via, edge, sum⟩
  · exact ⟨[], by simp [climb, root], List.isChain_singleton node, by simp, by simp [zero]⟩
  · obtain ⟨before, after, whole⟩ := List.append_of_mem member
    obtain ⟨front, climbed, leads⟩ := climb_settled forward labels inv before earlier after whole
    have room : before.length + 1 ≤ sorted.length := by
      rw [whole, List.length_append, List.length_cons]
      omega
    have climbed' := climb_mono _ _ _ room _ _ climbed
    exact ⟨front ++ [earlier], by simp [climb, via, climbed'], leads.extend member edge sum⟩

omit [DecidableEq Node] in
/-- No path whose nodes but the last are sorted costs more than the distance. -/
theorem distance_ge [IsOrderedAddMonoid Cost] (labels : Labels Node Cost)
    (inv : Inv adj cost sorted labels) (front : List Node) (node : Node)
    (path : IsPath adj (front ++ [node])) (inside : ∀ earlier ∈ front, earlier ∈ sorted) :
    (front.map cost).sum ≤ labels.distance node := by
  induction front using List.reverseRecOn generalizing node with
  | nil => simpa using inv.nonneg node
  | append_singleton front earlier ih =>
    have parts : IsPath adj (front ++ earlier :: node :: []) := by simpa using path
    obtain ⟨first, edge, _⟩ := List.isChain_append_cons_cons.mp parts
    have below := ih earlier first fun other member => inside other (by simp [member])
    calc ((front ++ [earlier]).map cost).sum = (front.map cost).sum + cost earlier := by simp
      _ ≤ labels.distance earlier + cost earlier := by gcongr
      _ ≤ labels.distance node := inv.passed earlier (inside earlier (by simp)) node edge

end Runs

end LongestPath
