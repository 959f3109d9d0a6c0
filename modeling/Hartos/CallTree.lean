import Mathlib.Logic.Relation

/-!
The calls of an unguarded recursion over a graph. A call visits its node and then
calls itself on each successor, whether or not that was visited before; fuel is the
depth it may reach. It comes to an end exactly where no cycle can be reached, and
its effect is that of the visits in order.
-/
namespace CallTree

universe u v
variable {Node : Type u} {State : Type v}

section Order
variable (next : Node → List Node)

/-- The calls in the order they are made; `none` is a recursion that went too deep. -/
def calls : Nat → Node → Option (List Node)
  | 0, _ => none
  | fuel + 1, node => ((next node).mapM (calls fuel)).map fun below => node :: below.flatten

def Follows (later earlier : Node) : Prop := later ∈ next earlier

end Order

variable (visit : State → Node → State) (kept : State → Prop) {Item Image : Type*}
  (f : Item → Option Image) (items : List Item)

theorem mapM_some (images : List Image) (mapped : items.mapM f = some images) :
    (∀ item ∈ items, ∃ image ∈ images, f item = some image) ∧
      (∀ image ∈ images, ∃ item ∈ items, f item = some image) := by
  induction items generalizing images with
  | nil =>
    have empty : [] = images := Option.some.inj mapped
    subst empty
    simp
  | cons item rest ih =>
    rw [List.mapM_cons] at mapped
    obtain ⟨image, first, later⟩ := Option.bind_eq_some_iff.mp mapped
    obtain ⟨others, tail, whole⟩ := Option.bind_eq_some_iff.mp later
    have split : image :: others = images := Option.some.inj whole
    subst split
    obtain ⟨there, back⟩ := ih others tail
    constructor
    · intro wanted member
      rcases List.mem_cons.mp member with rfl | inside
      · exact ⟨image, List.mem_cons_self, first⟩
      · obtain ⟨found, among, shown⟩ := there wanted inside
        exact ⟨found, List.mem_cons_of_mem _ among, shown⟩
    · intro wanted member
      rcases List.mem_cons.mp member with rfl | inside
      · exact ⟨item, List.mem_cons_self, first⟩
      · obtain ⟨found, among, shown⟩ := back wanted inside
        exact ⟨found, List.mem_cons_of_mem _ among, shown⟩

theorem mapM_exists (each : ∀ item ∈ items, ∃ image, f item = some image) :
    ∃ images, items.mapM f = some images := by
  induction items with
  | nil => exact ⟨[], rfl⟩
  | cons item rest ih =>
    obtain ⟨image, first⟩ := each item List.mem_cons_self
    obtain ⟨images, tail⟩ := ih fun other member => each other (List.mem_cons_of_mem _ member)
    exact ⟨image :: images, by rw [List.mapM_cons, first, tail]; rfl⟩

theorem mapM_mono (f g : Item → Option Image) (items : List Item) (images : List Image)
    (stays : ∀ item ∈ items, ∀ image, f item = some image → g item = some image)
    (mapped : items.mapM f = some images) : items.mapM g = some images := by
  induction items generalizing images with
  | nil => exact mapped
  | cons item rest ih =>
    rw [List.mapM_cons] at mapped
    obtain ⟨image, first, later⟩ := Option.bind_eq_some_iff.mp mapped
    obtain ⟨others, tail, whole⟩ := Option.bind_eq_some_iff.mp later
    have below := ih others (fun other member => stays other (List.mem_cons_of_mem _ member)) tail
    rw [List.mapM_cons, stays item List.mem_cons_self image first, below]
    exact whole

section Order
variable (next : Node → List Node)
variable (fuel : Nat) (node : Node) (order : List Node)

theorem calls_split (ended : calls next (fuel + 1) node = some order) :
    ∃ below : List (List Node), order = node :: below.flatten ∧
      (∀ later ∈ next node, ∃ part ∈ below, calls next fuel later = some part) ∧
      (∀ part ∈ below, ∃ later ∈ next node, calls next fuel later = some part) := by
  obtain ⟨below, mapped, whole⟩ := Option.map_eq_some_iff.mp ended
  exact ⟨below, whole.symm, mapM_some _ _ _ mapped⟩

theorem calls_mono (ended : calls next fuel node = some order) :
    calls next (fuel + 1) node = some order := by
  induction fuel generalizing node order with
  | zero => simp [calls] at ended
  | succ fuel ih =>
    obtain ⟨below, mapped, whole⟩ := Option.map_eq_some_iff.mp ended
    have deeper := mapM_mono (calls next fuel) (calls next (fuel + 1)) (next node) below
      (fun later _ => ih later) mapped
    rw [calls, deeper, Option.map_some, whole]

theorem calls_le (fuel more : Nat) (node : Node) (order : List Node)
    (ended : calls next fuel node = some order) : calls next (fuel + more) node = some order := by
  induction more with
  | zero => exact ended
  | succ more ih => exact calls_mono next (fuel + more) node order ih

theorem calls_unique (fuel other : Nat) (node : Node) (order order' : List Node)
    (ended : calls next fuel node = some order) (again : calls next other node = some order') :
    order = order' := by
  have deep := calls_le next fuel other node order ended
  have deep' := calls_le next other fuel node order' again
  rw [Nat.add_comm] at deep'
  exact Option.some.inj (deep.symm.trans deep')

-- A depth that is enough for each of finitely many nodes.
theorem calls_together (nodes : List Node)
    (each : ∀ node ∈ nodes, ∃ fuel order, calls next fuel node = some order) :
    ∃ fuel, ∀ node ∈ nodes, ∃ order, calls next fuel node = some order := by
  induction nodes with
  | nil => exact ⟨0, by simp⟩
  | cons node rest ih =>
    obtain ⟨fuel, order, first⟩ := each node List.mem_cons_self
    obtain ⟨other, tail⟩ := ih fun later member => each later (List.mem_cons_of_mem _ member)
    apply Exists.intro (fuel + other)
    intro wanted member
    rcases List.mem_cons.mp member with rfl | inside
    · exact ⟨order, calls_le next fuel other _ order first⟩
    · obtain ⟨found, shown⟩ := tail wanted inside
      rw [Nat.add_comm]
      exact ⟨found, calls_le next other fuel wanted found shown⟩

/-- The recursion ends exactly where no cycle and no endless path can be reached. -/
theorem calls_end_iff :
    (∃ fuel order, calls next fuel node = some order) ↔ Acc (Follows next) node := by
  constructor
  · rintro ⟨fuel, order, ended⟩
    induction fuel generalizing node order with
    | zero => simp [calls] at ended
    | succ fuel ih =>
      obtain ⟨below, -, there, -⟩ := calls_split next fuel node order ended
      constructor
      intro later link
      obtain ⟨part, -, called⟩ := there later link
      exact ih later part called
  · intro grounded
    induction grounded with
    | intro node _ ih =>
      obtain ⟨fuel, enough⟩ := calls_together next (next node) ih
      obtain ⟨below, mapped⟩ := mapM_exists (calls next fuel) (next node) enough
      exact ⟨fuel + 1, node :: below.flatten, by rw [calls, mapped, Option.map_some]⟩

theorem calls_head (ended : calls next fuel node = some order) : ∃ rest, order = node :: rest := by
  cases fuel with
  | zero => simp [calls] at ended
  | succ fuel =>
    obtain ⟨below, whole, -⟩ := calls_split next fuel node order ended
    exact ⟨below.flatten, whole⟩

end Order

theorem foldl_kept (keeps : ∀ state node, kept state → kept (visit state node)) (order : List Node)
    (state : State) (start : kept state) : kept (order.foldl visit state) := by
  induction order generalizing state with
  | nil => exact start
  | cons node rest ih => exact ih _ (keeps state node start)

/-- Steps that each come to the visits of a part come to the visits of all parts. -/
theorem foldlM_parts (keeps : ∀ state node, kept state → kept (visit state node))
    (step : State → Node → Option State) (parts : Node → Option (List Node)) (nodes : List Node)
    (each : ∀ node ∈ nodes, ∀ state, kept state →
      step state node = (parts node).map fun order => order.foldl visit state) (state : State)
    (start : kept state) :
    nodes.foldlM step state =
      (nodes.mapM parts).map fun below => below.flatten.foldl visit state := by
  induction nodes generalizing state with
  | nil => rfl
  | cons node rest ih =>
    rw [List.foldlM_cons, List.mapM_cons, each node List.mem_cons_self state start]
    cases parts node with
    | none => rfl
    | some order =>
      have later := ih (fun other member => each other (List.mem_cons_of_mem _ member))
        (order.foldl visit state) (foldl_kept visit kept keeps order state start)
      simp only [Option.map_some, Option.bind_eq_bind, Option.bind_some, later]
      cases rest.mapM parts <;> simp

end CallTree
