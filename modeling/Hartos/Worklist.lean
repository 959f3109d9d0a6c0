import Mathlib.Data.List.Nodup

/-!
A first-in first-out worklist. `visit` may change the state it is given and
names the keys to look at next; a key is visited once. `fuel` bounds the pops,
and the leftover queue says whether the walk came to its end.
-/
namespace Worklist

universe u v

section Known
variable {Key : Type u} {visited queue : List Key} {key other : Key}

theorem still_known (old : key ∈ visited)
    (known : other ∈ visited ∨ other ∈ key :: queue) : other ∈ visited ∨ other ∈ queue := by
  rcases known with done | waiting
  · exact Or.inl done
  · rcases List.mem_cons.mp waiting with same | later
    · exact Or.inl (same ▸ old)
    · exact Or.inr later

-- A key known or waiting stays so when the first queued key is visited.
theorem known_after_visit (more : List Key)
    (known : other ∈ visited ∨ other ∈ key :: queue) :
    other ∈ key :: visited ∨ other ∈ queue ++ more := by
  rcases known with done | waiting
  · exact Or.inl (List.mem_cons_of_mem key done)
  · rcases List.mem_cons.mp waiting with same | later
    · exact Or.inl (same ▸ List.mem_cons_self)
    · exact Or.inr (List.mem_append_left more later)

end Known

variable {Key : Type u} {State : Type v} [DecidableEq Key]

structure Outcome (Key : Type u) (State : Type v) where
  queue : List Key
  visited : List Key
  state : State

def walk (visit : State → Key → State × List Key) :
    Nat → List Key → List Key → State → Outcome Key State
  | 0, queue, visited, state => ⟨queue, visited, state⟩
  | _ + 1, [], visited, state => ⟨[], visited, state⟩
  | fuel + 1, key :: queue, visited, state =>
      if key ∈ visited then walk visit fuel queue visited state
      else
        let next := visit state key
        walk visit fuel (queue ++ next.2.filter (· ∉ key :: visited)) (key :: visited) next.1

/-- The rule for loops over a worklist: if every queued key is admitted, and a
visit to an admitted key keeps the invariant and queues admitted keys only,
then the invariant holds at the end and only admitted keys were visited. -/
theorem walk_invariant (visit : State → Key → State × List Key)
    (inv : State → Prop) (admitted : Key → Prop)
    (visits : ∀ state key, inv state → admitted key →
      inv (visit state key).1 ∧ ∀ next ∈ (visit state key).2, admitted next)
    (fuel : Nat) (queue visited : List Key) (state : State) (start : inv state)
    (queued : ∀ key ∈ queue, admitted key) (seen : ∀ key ∈ visited, admitted key) :
    inv (walk visit fuel queue visited state).state ∧
      ∀ key ∈ (walk visit fuel queue visited state).visited, admitted key := by
  induction fuel generalizing queue visited state with
  | zero => exact ⟨start, seen⟩
  | succ fuel ih =>
    cases queue with
    | nil => exact ⟨start, seen⟩
    | cons key queue =>
      have head := queued key List.mem_cons_self
      have tail : ∀ other ∈ queue, admitted other :=
        fun other member => queued other (List.mem_cons_of_mem key member)
      by_cases old : key ∈ visited
      · simpa [walk, old] using ih queue visited state start tail seen
      · have visited' := visits state key start head
        simp only [walk, old, ↓reduceIte]
        refine ih _ _ _ visited'.1 ?_ ?_
        · intro other member
          rcases List.mem_append.mp member with before | new
          · exact tail other before
          · exact visited'.2 other (List.mem_filter.mp new).1
        · intro other member
          rcases List.mem_cons.mp member with same | before
          · exact same ▸ head
          · exact seen other before

section Termination
variable (weight : Key → Nat)

def budget (visited : List Key) : List Key → Nat
  | [] => 0
  | node :: rest => (if node ∈ visited then 0 else weight node) + budget visited rest

variable (visited nodes : List Key) (key : Key)

theorem budget_shrinks : budget weight (key :: visited) nodes ≤ budget weight visited nodes := by
  induction nodes with
  | nil => exact Nat.le_refl 0
  | cons first rest ih =>
    simp only [budget, List.mem_cons]
    by_cases same : first = key <;> by_cases old : first ∈ visited <;>
      simp only [same, old, true_or, or_true, or_self, ↓reduceIte] <;> omega

theorem budget_visit (fresh : key ∉ visited) (known : key ∈ nodes) :
    budget weight (key :: visited) nodes + weight key ≤ budget weight visited nodes := by
  induction nodes with
  | nil => simp at known
  | cons first rest ih =>
    simp only [budget, List.mem_cons]
    by_cases same : first = key
    · subst first
      have tail := budget_shrinks weight visited rest key
      simp only [fresh, true_or, ↓reduceIte]
      omega
    · have later : key ∈ rest := by
        rcases List.mem_cons.mp known with here | there
        · exact absurd here.symm same
        · exact there
      have tail := ih later
      by_cases old : first ∈ visited <;>
        simp only [same, old, or_true, or_self, ↓reduceIte] <;> omega

/-- A walk whose visits queue at most `weight` keys, and nothing for keys
outside `nodes`, empties its queue within this fuel. -/
theorem walk_completes (visit : State → Key → State × List Key) (inv : State → Prop)
    (visits : ∀ state key, inv state →
      inv (visit state key).1 ∧ (visit state key).2.length ≤ weight key)
    (nodes : List Key) (outside : ∀ key, key ∉ nodes → weight key = 0)
    (fuel : Nat) (queue visited : List Key) (state : State) (start : inv state)
    (enough : queue.length + budget weight visited nodes ≤ fuel) :
    (walk visit fuel queue visited state).queue = [] := by
  induction fuel generalizing queue visited state with
  -- Each pop spends one unit; a first visit moves the weight of its key from the
  -- budget into the queue.
  | zero => exact List.eq_nil_of_length_eq_zero (by simp only [walk]; omega)
  | succ fuel ih =>
      cases queue with
      | nil => rfl
      | cons key queue =>
        simp only [List.length_cons] at enough
        by_cases old : key ∈ visited
        · simpa [walk, old] using ih queue visited state start (by omega)
        · have next := visits state key start
          have added := List.length_filter_le (· ∉ key :: visited) (visit state key).2
          simp only [walk, old, ↓reduceIte]
          apply ih _ _ _ next.1
          rw [List.length_append]
          by_cases known : key ∈ nodes
          · have spent := budget_visit weight visited nodes key old known
            omega
          -- A key outside `nodes` queues nothing.
          · have idle := outside key known
            have less := budget_shrinks weight visited nodes key
            omega

end Termination

section Visits

def visits (visit : State → Key → State × List Key) :
    Nat → List Key → List Key → State → List (State × Key)
  | 0, _, _, _ => []
  | _ + 1, [], _, _ => []
  | fuel + 1, key :: queue, visited, state =>
      if key ∈ visited then visits visit fuel queue visited state
      else
        let next := visit state key
        (state, key) ::
          visits visit fuel (queue ++ next.2.filter (· ∉ key :: visited)) (key :: visited) next.1

variable (visit : State → Key → State × List Key)

/-- The rule for loops whose invariant speaks of the queue and of the keys seen:
it holds at the end, and wherever a visit starts. -/
theorem walk_rule (inv : List Key → List Key → State → Prop)
    (drop : ∀ key queue visited state, key ∈ visited → inv (key :: queue) visited state →
      inv queue visited state)
    (step : ∀ key queue visited state, key ∉ visited → inv (key :: queue) visited state →
      inv (queue ++ (visit state key).2.filter (· ∉ key :: visited)) (key :: visited)
        (visit state key).1)
    (fuel : Nat) (queue visited : List Key) (state : State) (start : inv queue visited state) :
    inv (walk visit fuel queue visited state).queue (walk visit fuel queue visited state).visited
        (walk visit fuel queue visited state).state ∧
      ∀ entry ∈ visits visit fuel queue visited state,
        ∃ later seen, entry.2 ∉ seen ∧ inv (entry.2 :: later) seen entry.1 := by
  induction fuel generalizing queue visited state with
  | zero => exact ⟨start, by simp [visits]⟩
  | succ fuel ih =>
    cases queue with
    | nil => exact ⟨start, by simp [visits]⟩
    | cons key queue =>
      by_cases old : key ∈ visited
      · simpa [walk, visits, old] using
          ih queue visited state (drop key queue visited state old start)
      · have rest := ih _ _ _ (step key queue visited state old start)
        simp only [walk, visits, old, ↓reduceIte]
        refine ⟨rest.1, ?_⟩
        intro entry member
        rcases List.mem_cons.mp member with first | later
        · subst first
          exact ⟨queue, visited, old, start⟩
        · exact rest.2 entry later

variable (fuel : Nat) (queue visited : List Key) (state : State)

-- No key is visited twice, and none that was seen before.
theorem visits_nodup :
    ((visits visit fuel queue visited state).map Prod.snd).Nodup ∧
      ∀ key ∈ (visits visit fuel queue visited state).map Prod.snd, key ∉ visited := by
  induction fuel generalizing queue visited state with
  | zero => simp [visits]
  | succ fuel ih =>
    cases queue with
    | nil => simp [visits]
    | cons first queue =>
      by_cases old : first ∈ visited
      · simpa [visits, old] using ih queue visited state
      · have rest := ih (queue ++ (visit state first).2.filter (· ∉ first :: visited))
          (first :: visited) (visit state first).1
        simp only [visits, old, ↓reduceIte, List.map_cons, List.nodup_cons]
        refine ⟨⟨?_, rest.1⟩, ?_⟩
        · intro again
          exact rest.2 first again List.mem_cons_self
        · intro key member
          rcases List.mem_cons.mp member with same | later
          · exact same ▸ old
          · exact fun seen => rest.2 key later (List.mem_cons_of_mem first seen)

theorem mem_visited (key : Key) :
    key ∈ (walk visit fuel queue visited state).visited ↔
      key ∈ visited ∨ key ∈ (visits visit fuel queue visited state).map Prod.snd := by
  induction fuel generalizing queue visited state with
  | zero => simp [walk, visits]
  | succ fuel ih =>
    cases queue with
    | nil => simp [walk, visits]
    | cons first queue =>
      by_cases old : first ∈ visited
      · simpa [walk, visits, old] using ih queue visited state
      · simp only [walk, visits, old, ↓reduceIte, ih, List.map_cons, List.mem_cons]
        tauto

end Visits

section Closure

/-- A walk that changes no state: it collects what `next` reaches. -/
def collect (next : Key → List Key) (fuel : Nat) (seeds : List Key) : Outcome Key Unit :=
  walk (fun _ key => ((), next key)) fuel seeds [] ()

variable (next : Key → List Key)

/-- A walk loses no key, and every key it visited has its targets visited or
waiting. -/
theorem walk_covers (fuel : Nat) (queue visited : List Key)
    (closed : ∀ key ∈ visited, ∀ target ∈ next key, target ∈ visited ∨ target ∈ queue) :
    let after := walk (fun (_ : Unit) key => ((), next key)) fuel queue visited ()
    (∀ key, key ∈ visited ∨ key ∈ queue → key ∈ after.visited ∨ key ∈ after.queue) ∧
      ∀ key ∈ after.visited, ∀ target ∈ next key, target ∈ after.visited ∨ target ∈ after.queue := by
  induction fuel generalizing queue visited with
  | zero => exact ⟨fun _ member => member, closed⟩
  | succ fuel ih =>
    cases queue with
    | nil => exact ⟨fun _ member => member, closed⟩
    | cons key queue =>
      by_cases old : key ∈ visited
      · have step := ih queue visited fun source member target edge =>
          still_known old (closed source member target edge)
        simp only [walk, old, ↓reduceIte]
        exact ⟨fun other member => step.1 other (still_known old member), step.2⟩
      · have fresh : ∀ target ∈ next key,
            target ∈ key :: visited ∨
              target ∈ queue ++ (next key).filter (· ∉ key :: visited) := by
          intro target edge
          by_cases done : target ∈ key :: visited
          · exact Or.inl done
          · exact Or.inr (List.mem_append_right _
              (List.mem_filter.mpr ⟨edge, by simpa using done⟩))
        have step := ih (queue ++ (next key).filter (· ∉ key :: visited)) (key :: visited) (by
          intro source member target edge
          rcases List.mem_cons.mp member with same | before
          · exact fresh target (same ▸ edge)
          · exact known_after_visit _ (closed source before target edge))
        simp only [walk, old, ↓reduceIte]
        exact ⟨fun other member => step.1 other (known_after_visit _ member), step.2⟩

-- A collection that emptied its queue holds its seeds and is closed.
theorem collect_closed (fuel : Nat) (seeds : List Key)
    (done : (collect next fuel seeds).queue = []) :
    (∀ key ∈ seeds, key ∈ (collect next fuel seeds).visited) ∧
      ∀ key ∈ (collect next fuel seeds).visited, ∀ target ∈ next key,
        target ∈ (collect next fuel seeds).visited := by
  have covers := walk_covers next fuel seeds [] (by simp)
  simp only [collect] at done ⊢
  simp only [done, List.not_mem_nil, or_false] at covers
  exact ⟨fun key member => covers.1 key (Or.inr member), covers.2⟩

end Closure

end Worklist
