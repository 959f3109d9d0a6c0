import Mathlib.Data.List.Chain
import Mathlib.Data.List.Nodup
import Mathlib.Data.List.Perm.Subperm
import Mathlib.Logic.Function.Basic
import Mathlib.Logic.Relation
import Mathlib.Order.WellFounded

/-!
Depth-first search in three colours, as it is written by hand: gray is on the path,
black is done, and the path is kept as parent links. An edge to a gray node closes a
cycle, which the links spell backwards. With a call for every node the search comes
to an end; it finds a closed walk, or every node is well founded.
-/
namespace ColourSearch

universe u
variable {Node : Type u} [DecidableEq Node]

inductive Color where
  | white | gray | black
  deriving DecidableEq

structure State (Node : Type u) where
  color : Node → Color
  parent : Node → Option Node

namespace State

def paint (state : State Node) (node : Node) (color : Color) : State Node :=
  { state with color := Function.update state.color node color }

def link (state : State Node) (child node : Node) : State Node :=
  { state with parent := Function.update state.parent child (some node) }

def start : State Node := ⟨fun _ => .white, fun _ => none⟩

end State

inductive Result (Node : Type u) where
  | done (state : State Node)
  | cycle (nodes : List Node)

/-- The nodes from `current` up the parent links, as far as `stop`. -/
def climb (parent : Node → Option Node) (stop : Node) : Nat → Node → Option (List Node)
  | 0, _ => none
  | fuel + 1, current =>
      if current = stop then some []
      else (parent current).bind fun next => (climb parent stop fuel next).map (current :: ·)

def cycleAt (parent : Node → Option Node) (fuel : Nat) (node neighbor : Node) :
    Option (List Node) :=
  (climb parent neighbor fuel node).map fun middle => (neighbor :: (middle ++ [neighbor])).reverse

def scan (visit : State Node → Node → Option (Result Node)) (fuel : Nat) (node : Node) :
    List Node → State Node → Option (Result Node)
  | [], state => some (.done state)
  | neighbor :: rest, state =>
      match state.color neighbor with
      | .white =>
          match visit (state.link neighbor node) neighbor with
          | some (.done after) => scan visit fuel node rest after
          | other => other
      | .gray => (cycleAt state.parent fuel node neighbor).map .cycle
      | .black => scan visit fuel node rest state

def visit (adj : Node → List Node) (climbs : Nat) :
    Nat → State Node → Node → Option (Result Node)
  | 0, _, _ => none
  | depth + 1, state, node =>
      match scan (visit adj climbs depth) climbs node (adj node) (state.paint node .gray) with
      | some (.done after) => some (.done (after.paint node .black))
      | other => other

def sweep (visit : State Node → Node → Option (Result Node)) :
    List Node → State Node → Option (Result Node)
  | [], state => some (.done state)
  | node :: rest, state =>
      if state.color node = .white then
        match visit state node with
        | some (.done after) => sweep visit rest after
        | other => other
      else sweep visit rest state

def ClosedWalk (adj : Node → List Node) (walk : List Node) : Prop :=
  ∃ node middle, walk = node :: (middle ++ [node]) ∧
    walk.IsChain fun earlier later => later ∈ adj earlier

structure Inv (adj : Node → List Node) (nodes : List Node) (state : State Node)
    (stack : List Node) : Prop where
  gray : ∀ node, state.color node = .gray ↔ node ∈ stack
  unique : stack.Nodup
  within : stack ⊆ nodes
  chain : stack.IsChain fun child node => state.parent child = some node ∧ child ∈ adj node
  grounded : ∀ node, state.color node = .black → Acc (fun later node => later ∈ adj node) node

structure Later (before after : State Node) : Prop where
  color : ∀ node, before.color node ≠ .white → after.color node = before.color node
  parent : ∀ node, before.color node ≠ .white → after.parent node = before.parent node

def Good (adj : Node → List Node) (nodes : List Node) (before : State Node)
    (stack finished : List Node) : Result Node → Prop
  | .cycle walk => ClosedWalk adj walk
  | .done after => Inv adj nodes after stack ∧ Later before after ∧
      ∀ node ∈ finished, after.color node = .black

def whites (nodes : List Node) (state : State Node) : Nat :=
  (nodes.filter fun node => state.color node = .white).length
variable {Item : Type*} (relation : Item → Item → Prop) (adj : Node → List Node) (nodes : List Node)
  (state : State Node)

omit [DecidableEq Node] in
theorem Later.refl : Later state state := ⟨fun _ _ => rfl, fun _ _ => rfl⟩

omit [DecidableEq Node] in
theorem Later.trans {first second third : State Node} (one : Later first second)
    (two : Later second third) : Later first third := by
  constructor
  · intro node known
    rw [two.color node (by rw [one.color node known]; exact known), one.color node known]
  · intro node known
    rw [two.parent node (by rw [one.color node known]; exact known), one.parent node known]

omit [DecidableEq Node] in
theorem Later.whites_le {before after : State Node} (later : Later before after)
    (nodes : List Node) : whites nodes after ≤ whites nodes before := by
  apply (List.monotone_filter_right nodes _).length_le
  intro node white
  by_contra known
  have kept := later.color node (by simpa using known)
  rw [← kept] at known
  exact known (by simpa using white)

theorem whites_paint (node : Node) (color : Color) (member : node ∈ nodes)
    (white : state.color node = .white) (other : color ≠ .white) :
    whites nodes (state.paint node color) < whites nodes state := by
  have left : (nodes.filter fun x => (state.paint node color).color x = .white) =
      (nodes.filter fun x => state.color x = .white).filter (· ≠ node) := by
    rw [List.filter_filter]
    apply List.filter_congr
    intro x _
    by_cases same : x = node
    · simp [State.paint, same, other]
    · simp [State.paint, same]
  rw [whites, left, whites]
  exact List.length_filter_lt_length_iff_exists.mpr ⟨node, by simp [member, white], by simp⟩

theorem later_link (child node : Node) (white : state.color child = .white) :
    Later state (state.link child node) := by
  constructor
  · intro other _
    rfl
  · intro other known
    have differ : other ≠ child := by
      rintro rfl
      exact known white
    simp [State.link, differ]

theorem climb_chain (parent : Node → Option Node) (stop : Node) (above below : List Node)
    (fuel : Nat) (current : Node) (fresh : stop ∉ above)
    (chain : (above ++ stop :: below).IsChain fun child node => parent child = some node)
    (head : (above ++ stop :: below).head? = some current) (enough : above.length < fuel) :
    climb parent stop fuel current = some above := by
  induction above generalizing fuel current with
  | nil =>
    obtain ⟨fuel, rfl⟩ := Nat.exists_eq_add_one.mpr enough
    have same : stop = current := Option.some.inj head
    rw [climb, if_pos same.symm]
  | cons first rest ih =>
    obtain ⟨fuel, rfl⟩ := Nat.exists_eq_add_one.mpr (Nat.zero_lt_of_lt enough)
    have same : first = current := Option.some.inj head
    subst same
    have differ : first ≠ stop := fun same => fresh (same ▸ List.mem_cons_self)
    obtain ⟨next, heads⟩ : ∃ next, (rest ++ stop :: below).head? = some next := by
      cases rest <;> exact ⟨_, rfl⟩
    have link : parent first = some next := (List.isChain_cons.mp chain).1 next heads
    have onward := ih fuel next (fun inside => fresh (List.mem_cons_of_mem _ inside))
      (List.isChain_cons.mp chain).2 heads (by simpa using enough)
    rw [climb, if_neg differ, link, Option.bind_some, onward, Option.map_some]

theorem cycleAt_closed (node neighbor : Node) (below : List Node) (fuel : Nat)
    (inv : Inv adj nodes state (node :: below)) (member : neighbor ∈ node :: below)
    (edge : neighbor ∈ adj node) (enough : (node :: below).length ≤ fuel) :
    ∃ walk, cycleAt state.parent fuel node neighbor = some walk ∧ ClosedWalk adj walk := by
  obtain ⟨above, rest, split, fresh⟩ := List.eq_append_cons_of_mem member
  have chain := inv.chain
  rw [split] at chain
  have short : above.length < fuel := by
    have lengths := congrArg List.length split
    simp only [List.length_cons, List.length_append] at lengths enough
    omega
  have head : (above ++ neighbor :: rest).head? = some node := by rw [← split, List.head?_cons]
  have climbed := climb_chain state.parent neighbor above rest fuel node fresh
    (chain.imp fun _ _ link => link.1) head short
  refine ⟨(neighbor :: (above ++ [neighbor])).reverse, by rw [cycleAt, climbed, Option.map_some],
    neighbor, above.reverse, by simp, ?_⟩
  -- The path from the neighbour down to `node`, then the edge that closes it.
  have path : (above ++ [neighbor]).IsChain fun child node => child ∈ adj node := by
    have whole : ((above ++ [neighbor]) ++ rest).IsChain fun child node => child ∈ adj node := by
      simpa using chain.imp fun _ _ link => link.2
    exact whole.left_of_append
  have down : (above ++ [neighbor]).reverse.IsChain fun node child => child ∈ adj node :=
    List.isChain_reverse.mpr path
  have closing : (above ++ [neighbor]).reverse.getLast? = some node := by
    rw [List.getLast?_reverse]
    cases above <;> simpa using head
  rw [List.reverse_cons]
  refine down.append (List.isChain_singleton neighbor) ?_
  intro last isLast next isNext
  rw [closing] at isLast
  cases isLast
  cases isNext
  exact edge

section

variable {adj : Node → List Node} {nodes : List Node} (state : State Node)

theorem inv_link (child node : Node) (stack : List Node) (inv : Inv adj nodes state stack)
    (white : state.color child = .white) : Inv adj nodes (state.link child node) stack := by
  constructor
  · exact inv.gray
  · exact inv.unique
  · exact inv.within
  · apply inv.chain.imp_of_mem_imp
    intro other next onPath _ linked
    have gray := (inv.gray other).mpr onPath
    have known : state.color other ≠ .white := by rw [gray]; decide
    rw [(later_link state child node white).parent other known]
    exact linked
  · exact inv.grounded

variable (node : Node) (stack : List Node)

/-- Going down to a white node lengthens the path by it. -/
theorem inv_enter (inv : Inv adj nodes state stack) (white : state.color node = .white)
    (member : node ∈ nodes)
    (linked : ∀ top ∈ stack.head?, state.parent node = some top ∧ node ∈ adj top) :
    Inv adj nodes (state.paint node .gray) (node :: stack) := by
  have fresh : node ∉ stack := by
    intro onPath
    rw [(inv.gray node).mpr onPath] at white
    cases white
  constructor
  · intro other
    by_cases same : other = node
    · simp [State.paint, same]
    · simp [State.paint, same, inv.gray other]
  · exact List.nodup_cons.mpr ⟨fresh, inv.unique⟩
  · exact List.cons_subset.mpr ⟨member, inv.within⟩
  · exact List.isChain_cons.mpr ⟨linked, inv.chain⟩
  · intro other black
    by_cases same : other = node
    · simp [State.paint, same] at black
    · exact inv.grounded other (by simpa [State.paint, same] using black)

/-- A node all of whose successors are done is done, and off the path. -/
theorem inv_leave (inv : Inv adj nodes state (node :: stack))
    (finished : ∀ later ∈ adj node, state.color later = .black) :
    Inv adj nodes (state.paint node .black) stack := by
  have fresh := (List.nodup_cons.mp inv.unique).1
  constructor
  · intro other
    by_cases same : other = node
    · simp [State.paint, same, fresh]
    · simp [State.paint, same, inv.gray other]
  · exact (List.nodup_cons.mp inv.unique).2
  · exact (List.cons_subset.mp inv.within).2
  · exact (List.isChain_cons.mp inv.chain).2
  · intro other black
    by_cases same : other = node
    · exact same ▸ Acc.intro node fun later edge => inv.grounded later (finished later edge)
    · exact inv.grounded other (by simpa [State.paint, same] using black)

end

theorem scan_good (visit : State Node → Node → Option (Result Node)) (fuel depth : Nat)
    (visits : ∀ state stack node, Inv adj nodes state stack → state.color node = .white →
      node ∈ nodes → (∀ top ∈ stack.head?, state.parent node = some top ∧ node ∈ adj top) →
      whites nodes state ≤ depth →
      ∃ result, visit state node = some result ∧ Good adj nodes state stack [node] result)
    (enough : nodes.length ≤ fuel) (node : Node) (below neighbors : List Node)
    (edges : ∀ neighbor ∈ neighbors, neighbor ∈ adj node ∧ neighbor ∈ nodes) (state : State Node)
    (inv : Inv adj nodes state (node :: below)) (room : whites nodes state ≤ depth) :
    ∃ result, scan visit fuel node neighbors state = some result ∧
      Good adj nodes state (node :: below) neighbors result := by
  induction neighbors generalizing state with
  | nil => exact ⟨.done state, rfl, inv, Later.refl state, by simp⟩
  | cons neighbor rest ih =>
    obtain ⟨edge, member⟩ := edges neighbor List.mem_cons_self
    have others := fun other inside => edges other (List.mem_cons_of_mem neighbor inside)
    -- The rest of the loop, from a state in which this neighbour is black.
    have onward (after : State Node) (later : Later state after)
        (kept : Inv adj nodes after (node :: below)) (black : after.color neighbor = .black) :
        ∃ result, scan visit fuel node rest after = some result ∧
          Good adj nodes state (node :: below) (neighbor :: rest) result := by
      obtain ⟨result, scanned, good⟩ :=
        ih others after kept ((later.whites_le nodes).trans room)
      apply Exists.intro result
      apply And.intro scanned
      cases result with
      | cycle walk => exact good
      | done last =>
        obtain ⟨ends, grown, blacks⟩ := good
        apply And.intro ends
        apply And.intro (later.trans grown)
        intro other inside
        rcases List.mem_cons.mp inside with rfl | among
        · rw [grown.color _ (by rw [black]; decide), black]
        · exact blacks other among
    cases painted : state.color neighbor with
    | white =>
      have linked := later_link state neighbor node painted
      have start := inv_link state neighbor node (node :: below) inv painted
      obtain ⟨result, visited, good⟩ := visits (state.link neighbor node) (node :: below)
        neighbor start painted member (by simp [State.link, edge])
        ((linked.whites_le nodes).trans room)
      cases result with
      | cycle walk => exact ⟨.cycle walk, by simp [scan, painted, visited], good⟩
      | done after =>
        obtain ⟨kept, grown, black⟩ := good
        obtain ⟨result, scanned, good⟩ := onward after (linked.trans grown) kept
          (black neighbor List.mem_cons_self)
        exact ⟨result, by simp [scan, painted, visited, scanned], good⟩
    | gray =>
      have onPath := (inv.gray neighbor).mp painted
      have short := (inv.unique.subperm inv.within).length_le.trans enough
      obtain ⟨walk, found, closed⟩ :=
        cycleAt_closed adj nodes state node neighbor below fuel inv onPath edge short
      exact ⟨.cycle walk, by simp [scan, painted, found], closed⟩
    | black =>
      obtain ⟨result, scanned, good⟩ := onward state (Later.refl state) inv painted
      exact ⟨result, by simp [scan, painted, scanned], good⟩

theorem visit_good (inside : ∀ node later, later ∈ adj node → later ∈ nodes) (climbs depth : Nat)
    (enough : nodes.length ≤ climbs) (state : State Node) (stack : List Node) (node : Node)
    (inv : Inv adj nodes state stack) (white : state.color node = .white) (member : node ∈ nodes)
    (linked : ∀ top ∈ stack.head?, state.parent node = some top ∧ node ∈ adj top)
    (room : whites nodes state ≤ depth) :
    ∃ result, visit adj climbs depth state node = some result ∧
      Good adj nodes state stack [node] result := by
  induction depth generalizing state stack node with
  | zero =>
    have some := whites_paint nodes state node .black member white (by decide)
    omega
  | succ depth ih =>
    have entered := inv_enter state node stack inv white member linked
    have fewer := whites_paint nodes state node .gray member white (by decide)
    obtain ⟨result, scanned, good⟩ := scan_good adj nodes (visit adj climbs depth) climbs depth
      ih enough node stack (adj node) (fun later edge => ⟨edge, inside node later edge⟩)
      (state.paint node .gray) entered (by omega)
    cases result with
    | cycle walk => exact ⟨.cycle walk, by simp [visit, scanned], good⟩
    | done after =>
      obtain ⟨kept, grown, blacks⟩ := good
      refine ⟨.done (after.paint node .black), by simp [visit, scanned],
        inv_leave after node stack kept blacks, ?_, by simp [State.paint]⟩
      constructor
      · intro other known
        have differ : other ≠ node := fun same => known (same ▸ white)
        have through := grown.color other (by simpa [State.paint, differ] using known)
        simpa [State.paint, differ] using through
      · intro other known
        have differ : other ≠ node := fun same => known (same ▸ white)
        exact grown.parent other (by simpa [State.paint, differ] using known)

theorem sweep_good (inside : ∀ node later, later ∈ adj node → later ∈ nodes) (climbs depth : Nat)
    (enough : nodes.length ≤ climbs) (rest : List Node) (among : rest ⊆ nodes) (state : State Node)
    (inv : Inv adj nodes state []) (room : whites nodes state ≤ depth) :
    ∃ result, sweep (visit adj climbs depth) rest state = some result ∧
      Good adj nodes state [] rest result := by
  induction rest generalizing state with
  | nil => exact ⟨.done state, rfl, inv, Later.refl state, by simp⟩
  | cons node rest ih =>
    obtain ⟨member, others⟩ := List.cons_subset.mp among
    have onward (after : State Node) (later : Later state after) (kept : Inv adj nodes after [])
        (black : after.color node = .black) :
        ∃ result, sweep (visit adj climbs depth) rest after = some result ∧
          Good adj nodes state [] (node :: rest) result := by
      obtain ⟨result, swept, good⟩ := ih others after kept ((later.whites_le nodes).trans room)
      apply Exists.intro result
      apply And.intro swept
      cases result with
      | cycle walk => exact good
      | done last =>
        obtain ⟨ends, grown, blacks⟩ := good
        apply And.intro ends
        apply And.intro (later.trans grown)
        intro other listed
        rcases List.mem_cons.mp listed with rfl | later'
        · rw [grown.color _ (by rw [black]; decide), black]
        · exact blacks other later'
    by_cases white : state.color node = .white
    · obtain ⟨result, visited, good⟩ := visit_good adj nodes inside climbs depth enough state []
        node inv white member (by simp) room
      cases result with
      | cycle walk => exact ⟨.cycle walk, by simp [sweep, white, visited], good⟩
      | done after =>
        obtain ⟨kept, grown, black⟩ := good
        obtain ⟨result, swept, good⟩ := onward after grown kept (black node List.mem_cons_self)
        exact ⟨result, by simp [sweep, white, visited, swept], good⟩
    · have black : state.color node = .black := by
        cases painted : state.color node with
        | white => exact absurd painted white
        | gray => exact absurd ((inv.gray node).mp painted) List.not_mem_nil
        | black => rfl
      obtain ⟨result, swept, good⟩ := onward state (Later.refl state) inv black
      exact ⟨result, by simp [sweep, white, swept], good⟩

def findCycle (adj : Node → List Node) (nodes : List Node) : Option (Option (List Node)) :=
  match sweep (visit adj nodes.length nodes.length) nodes State.start with
  | some (.done _) => some none
  | some (.cycle walk) => some (some walk)
  | none => none

def Acyclic (adj : Node → List Node) : Prop :=
  ∀ node, ¬ Relation.TransGen (fun earlier later => later ∈ adj earlier) node node

theorem chain_path (middle : List Item) (first last : Item)
    (chain : (first :: (middle ++ [last])).IsChain relation) :
    Relation.TransGen relation first last := by
  induction middle generalizing first with
  | nil => exact .single ((List.isChain_cons.mp chain).1 last rfl)
  | cons next rest ih =>
    have parts := List.isChain_cons.mp chain
    exact .head (parts.1 next rfl) (ih next parts.2)

theorem chain_before (first : Item) (rest : List Item) (chain : (first :: rest).IsChain relation)
    (item : Item) (member : item ∈ rest) : ∃ before, relation before item := by
  induction rest generalizing first with
  | nil => cases member
  | cons next rest ih =>
    have parts := List.isChain_cons.mp chain
    rcases List.mem_cons.mp member with rfl | later
    · exact ⟨first, parts.1 item rfl⟩
    · exact ih next parts.2 later

omit [DecidableEq Node] in
theorem ClosedWalk.entered {adj : Node → List Node} {walk : List Node}
    (closed : ClosedWalk adj walk) (node : Node) (member : node ∈ walk) :
    ∃ before, node ∈ adj before := by
  obtain ⟨start, middle, rfl, chain⟩ := closed
  apply chain_before (fun earlier later => later ∈ adj earlier) start (middle ++ [start]) chain
  rcases List.mem_cons.mp member with rfl | inside
  · simp
  · exact inside

omit [DecidableEq Node] in
theorem ClosedWalk.cyclic {adj : Node → List Node} {walk : List Node}
    (closed : ClosedWalk adj walk) : ¬ Acyclic adj := by
  obtain ⟨node, middle, rfl, chain⟩ := closed
  intro acyclic
  exact acyclic node (chain_path _ middle node node chain)

theorem grounded_irreflexive {relation : Item → Item → Prop} {item : Item}
    (grounded : Acc relation item) : ¬ relation item item := by
  induction grounded with
  | intro item _ ih =>
    intro self
    exact ih item self self

omit [DecidableEq Node] in
theorem grounded_acyclic (inside : ∀ node later, later ∈ adj node → later ∈ nodes)
    (grounded : ∀ node ∈ nodes, Acc (fun later node => later ∈ adj node) node) : Acyclic adj := by
  intro node cycle
  have member : node ∈ nodes := by
    obtain ⟨before, _, edge⟩ := Relation.TransGen.tail'_iff.mp cycle
    exact inside before node edge
  exact grounded_irreflexive (grounded node member).transGen (Relation.transGen_swap.mpr cycle)

theorem findCycle_spec (inside : ∀ node later, later ∈ adj node → later ∈ nodes) :
    (findCycle adj nodes = some none ∧ Acyclic adj) ∨
      ∃ walk, findCycle adj nodes = some (some walk) ∧ ClosedWalk adj walk := by
  have start : Inv adj nodes State.start [] :=
    ⟨by simp [State.start], List.nodup_nil, List.nil_subset _, List.isChain_nil,
      by simp [State.start]⟩
  have room : whites nodes State.start ≤ nodes.length := List.length_filter_le _ nodes
  obtain ⟨result, swept, good⟩ := sweep_good adj nodes inside nodes.length nodes.length le_rfl
    nodes (List.Subset.refl _) State.start start room
  cases result with
  | cycle walk => exact .inr ⟨walk, by simp [findCycle, swept], good⟩
  | done after =>
    obtain ⟨ends, -, blacks⟩ := good
    exact .inl ⟨by simp [findCycle, swept],
      grounded_acyclic adj nodes inside fun node member =>
        ends.grounded node (blacks node member)⟩

/-- The search says "no cycle" exactly when there is none. -/
theorem findCycle_none_iff (inside : ∀ node later, later ∈ adj node → later ∈ nodes) :
    findCycle adj nodes = some none ↔ Acyclic adj := by
  rcases findCycle_spec adj nodes inside with ⟨clear, acyclic⟩ | ⟨walk, found, closed⟩
  · exact ⟨fun _ => acyclic, fun _ => clear⟩
  · constructor
    · intro clear
      rw [found] at clear
      cases clear
    · intro acyclic
      exact absurd acyclic closed.cyclic

theorem findCycle_walk (nodes walk : List Node)
    (inside : ∀ node later, later ∈ adj node → later ∈ nodes)
    (found : findCycle adj nodes = some (some walk)) : ClosedWalk adj walk := by
  rcases findCycle_spec adj nodes inside with ⟨clear, -⟩ | ⟨other, found', closed⟩
  · rw [clear] at found
    cases found
  · rw [found] at found'
    cases found'
    exact closed

end ColourSearch
