import Mathlib.Data.List.Nodup
import Mathlib.Data.List.Perm.Basic
import Mathlib.Data.Fintype.EquivFin
import Mathlib.Logic.Relation
import Mathlib.Order.WellFounded
import Mathlib.Data.Fintype.Card
import Mathlib.Order.RelClasses

/-!
Kahn's algorithm by level: every round takes the nodes whose dependencies are all placed, or,
where a cycle leaves none, whatever remains.
-/
namespace KahnLevels

universe u
variable {Node : Type u} [DecidableEq Node] (deps : Node → List Node)

def ready (placed remaining : List Node) : List Node :=
  remaining.filter fun node => (deps node).all (· ∈ placed)

def wave (placed remaining : List Node) : List Node :=
  if ready deps placed remaining = [] then remaining else ready deps placed remaining

def levels : Nat → List Node → List Node → List (List Node)
  | 0, _, _ => []
  | fuel + 1, placed, remaining =>
      if remaining = [] then []
      else
        let next := wave deps placed remaining
        next :: levels fuel (placed ++ next) (remaining.filter (· ∉ next))

def Needs (node earlier : Node) : Prop := earlier ∈ deps node

def Acyclic : Prop := ∀ node, ¬ Relation.TransGen (Needs deps) node node

omit [DecidableEq Node] in
theorem acyclic_of_rank (rank : Node → Nat)
    (lower : ∀ node, ∀ earlier ∈ deps node, rank earlier < rank node) : Acyclic deps := by
  have descends : ∀ first last, Relation.TransGen (Needs deps) first last →
      rank last < rank first := by
    intro first last path
    induction path with
    | single edge => exact lower _ _ edge
    | tail _ edge ih => exact (lower _ _ edge).trans ih
  exact fun node cycle => lt_irrefl _ (descends node node cycle)

section Rounds
variable {deps} {placed remaining : List Node}

theorem wave_subset : wave deps placed remaining ⊆ remaining := by
  unfold wave
  split_ifs
  · exact List.Subset.refl _
  · exact fun _ member => List.mem_of_mem_filter member

theorem wave_eq_ready (some : ready deps placed remaining ≠ []) :
    wave deps placed remaining = ready deps placed remaining := if_neg some

-- A wave keeps the order and the number of what it takes.
theorem filter_wave :
    remaining.filter (· ∈ wave deps placed remaining) = wave deps placed remaining := by
  unfold wave
  split_ifs with none
  · simp
  · refine List.filter_congr fun node member => ?_
    rw [Bool.eq_iff_iff]
    simp [ready, member]

theorem wave_ne_nil (some : remaining ≠ []) : wave deps placed remaining ≠ [] := by
  unfold wave
  split_ifs with none
  · exact some
  · exact none

theorem rest_length_lt (some : remaining ≠ []) :
    (remaining.filter (· ∉ wave deps placed remaining)).length < remaining.length := by
  obtain ⟨node, taken⟩ := List.exists_mem_of_ne_nil _ (@wave_ne_nil _ _ deps placed _ some)
  refine List.length_filter_lt_length_iff_exists.mpr ⟨node, wave_subset taken, ?_⟩
  simpa using taken

theorem ready_ne_nil (acyclic : Acyclic deps) (some : remaining ≠ [])
    (known : ∀ node ∈ remaining, ∀ earlier ∈ deps node, earlier ∈ placed ∨ earlier ∈ remaining) :
    ready deps placed remaining ≠ [] := by
  let before : {node // node ∈ remaining} → {node // node ∈ remaining} → Prop :=
    fun first second => Relation.TransGen (Needs deps) second.1 first.1
  have irrefl : Std.Irrefl before := ⟨fun node => acyclic node.1⟩
  have founded : WellFounded before := Finite.wellFounded_of_trans_of_irrefl before
  obtain ⟨node, member⟩ := List.exists_mem_of_ne_nil _ some
  obtain ⟨least, _, minimal⟩ := founded.has_min Set.univ ⟨⟨node, member⟩, trivial⟩
  refine List.ne_nil_of_mem (List.mem_filter.mpr ⟨least.2, ?_⟩)
  rw [List.all_eq_true]
  intro earlier needed
  rcases known least.1 least.2 earlier needed with done | left
  · simpa using done
  · exact absurd (Relation.TransGen.single needed) (minimal ⟨earlier, left⟩ trivial)

end Rounds

/-- With fuel for every node, each is in one level, once. -/
theorem levels_perm (fuel : Nat) (placed : List Node) {remaining : List Node}
    (enough : remaining.length ≤ fuel) (once : remaining.Nodup) :
    (levels deps fuel placed remaining).flatten.Perm remaining := by
  induction fuel generalizing placed remaining with
  | zero =>
    obtain rfl := List.eq_nil_of_length_eq_zero (Nat.le_zero.mp enough)
    exact List.Perm.nil
  | succ fuel ih =>
    simp only [levels]
    split_ifs with none
    · rw [none]
      exact List.Perm.nil
    · have fewer := @rest_length_lt _ _ deps placed _ none
      have rest : (levels deps fuel (placed ++ wave deps placed remaining)
          (remaining.filter (· ∉ wave deps placed remaining))).flatten.Perm
          (remaining.filter (· ∉ wave deps placed remaining)) :=
        ih _ (by omega) (once.filter _)
      refine (rest.append_left (wave deps placed remaining)).trans ?_
      have parts := List.filter_append_perm (· ∈ wave deps placed remaining) remaining
      rw [filter_wave] at parts
      simpa using parts

-- Every dependency of a node lies in an earlier level.
theorem levels_ordered (acyclic : Acyclic deps) (fuel : Nat) {placed remaining : List Node}
    (known : ∀ node ∈ remaining, ∀ earlier ∈ deps node, earlier ∈ placed ∨ earlier ∈ remaining)
    {before after : List (List Node)} {level : List Node}
    (split : levels deps fuel placed remaining = before ++ level :: after) :
    ∀ node ∈ level, ∀ earlier ∈ deps node, earlier ∈ placed ∨ earlier ∈ before.flatten := by
  induction fuel generalizing placed remaining before with
  | zero => simp [levels] at split
  | succ fuel ih =>
    simp only [levels] at split
    split_ifs at split with none
    · simp at split
    · have taken := wave_eq_ready (ready_ne_nil acyclic none known)
      cases before with
      | nil =>
        obtain ⟨same, _⟩ := List.cons.inj split
        intro node member earlier needed
        rw [← same, taken] at member
        have placed' := List.all_eq_true.mp (List.mem_filter.mp member).2 earlier needed
        exact .inl (by simpa using placed')
      | cons first before =>
        obtain ⟨same, later⟩ := List.cons.inj split
        intro node member earlier needed
        have left := ih (fun node member earlier needed => ?_) later node member earlier needed
        · rw [← same, List.flatten_cons]
          simp only [List.mem_append] at left ⊢
          tauto
        · have inside := List.mem_of_mem_filter member
          rcases known node inside earlier needed with done | remains
          · exact .inl (List.mem_append_left _ done)
          · by_cases next : earlier ∈ wave deps placed remaining
            · exact .inl (List.mem_append_right _ next)
            · exact .inr (List.mem_filter.mpr ⟨remains, by simpa using next⟩)

end KahnLevels
