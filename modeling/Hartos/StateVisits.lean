import Mathlib.Algebra.BigOperators.Group.Finset.Basic
import Mathlib.Algebra.BigOperators.Group.Finset.Piecewise
import Mathlib.Algebra.Group.Action.Defs
import Mathlib.Algebra.Order.BigOperators.Group.Finset
import Mathlib.Data.Fintype.Basic

/-!
A sequence of states, observed one after the other. An entry is an observation
that differs from the one before it, the first one included; a streak is how often
the present state was observed in a row. Bounds on the entries into a state and on
its streaks bound how often it is observed, and a sequence with finitely many
entries comes to rest.
-/
namespace StateVisits
open Finset
variable {State : Type*} [DecidableEq State] (observed : Nat → State)

def enters : Nat → Bool
  | 0 => true
  | n + 1 => decide (observed (n + 1) ≠ observed n)

/-- Entries into a state in the first `n` observations. -/
def entries (state : State) : Nat → Nat
  | 0 => 0
  | n + 1 => entries state n + if observed n = state ∧ enters observed n then 1 else 0

def visits (state : State) : Nat → Nat
  | 0 => 0
  | n + 1 => visits state n + if observed n = state then 1 else 0

def streak : Nat → Nat
  | 0 => 1
  | n + 1 => if enters observed (n + 1) then 1 else streak n + 1

theorem streak_pos (n : Nat) : 0 < streak observed n := by
  cases n with
  | zero => exact Nat.one_pos
  | succ n =>
    rw [streak]
    split
    · exact Nat.one_pos
    · exact Nat.succ_pos _

theorem observed_of_not_enters (n : Nat) (same : enters observed (n + 1) = false) :
    observed (n + 1) = observed n := by
  simpa [enters] using same

variable (state : State) (cap n : Nat)

-- Along a streak, each observation is counted against the streak.
theorem visits_entering (here : observed n = state) (entering : enters observed n = true)
    (before : visits observed state n ≤ entries observed state n * cap) :
    visits observed state (n + 1) + cap ≤
      entries observed state (n + 1) * cap + streak observed n := by
  have fresh : streak observed n = 1 := by
    cases n with
    | zero => rfl
    | succ n => rw [streak, if_pos entering]
  rw [visits, entries, if_pos here, if_pos ⟨here, entering⟩, fresh, Nat.add_mul, Nat.one_mul]
  omega

theorem visits_staying (here : observed (n + 1) = state) (staying : enters observed (n + 1) = false)
    (before : visits observed state (n + 1) + cap ≤
      entries observed state (n + 1) * cap + streak observed n) :
    visits observed state (n + 2) + cap ≤
      entries observed state (n + 2) * cap + streak observed (n + 1) := by
  have longer : streak observed (n + 1) = streak observed n + 1 := by
    rw [streak, staying]
    rfl
  have counted : visits observed state (n + 2) = visits observed state (n + 1) + 1 := by
    rw [visits, if_pos here]
  have entered : entries observed state (n + 2) = entries observed state (n + 1) := by
    rw [entries, staying]
    simp
  rw [entered]
  omega

-- A state whose streaks are capped is observed at most `cap` times for each entry.
theorem visits_le (short : ∀ m < n, observed m = state → streak observed m ≤ cap) :
    visits observed state n ≤ entries observed state n * cap := by
  suffices both : ∀ m ≤ n, visits observed state m ≤ entries observed state m * cap ∧
      (observed m = state → visits observed state (m + 1) + cap ≤
        entries observed state (m + 1) * cap + streak observed m) from (both n (Nat.le_refl n)).1
  intro m within
  induction m with
  | zero =>
    refine ⟨Nat.zero_le _, fun here => ?_⟩
    exact visits_entering observed state cap 0 here rfl (Nat.zero_le _)
  | succ m ih =>
    obtain ⟨before, along⟩ := ih (Nat.le_of_succ_le within)
    have counted : visits observed state (m + 1) ≤ entries observed state (m + 1) * cap := by
      by_cases here : observed m = state
      · have capped := short m within here
        have streaked := along here
        omega
      · rw [visits, entries, if_neg here, if_neg (fun both => here both.1)]
        exact before
    refine ⟨counted, fun here => ?_⟩
    cases moving : enters observed (m + 1) with
    | true => exact visits_entering observed state cap (m + 1) here moving counted
    | false =>
      have came := (observed_of_not_enters observed m moving).symm.trans here
      exact visits_staying observed state cap m here moving (along came)

theorem entries_mono {first second : Nat} (before : first ≤ second) :
    entries observed state first ≤ entries observed state second := by
  induction before with
  | refl => exact Nat.le_refl _
  | step _ ih => exact le_trans ih (Nat.le_add_right _ _)

theorem streak_at_rest (rest : Nat) (still : ∀ n, rest ≤ n → observed n = observed rest)
    (length : Nat) : length < streak observed (rest + length) := by
  induction length with
  | zero => exact streak_pos observed rest
  | succ length ih =>
    have same : observed (rest + length + 1) = observed (rest + length) :=
      (still _ (by omega)).trans (still _ (by omega)).symm
    have staying : enters observed (rest + length + 1) = false := by simp [enters, same]
    rw [← Nat.add_assoc, streak, staying]
    simpa using ih

section Finite
variable [Fintype State]

/-- A sequence that enters some state again and again enters one of the states often. -/
theorem sum_entries_unbounded (restless : ∀ n, ∃ m, n ≤ m ∧ enters observed m = true)
    (bound : Nat) : ∃ n, bound ≤ ∑ state, entries observed state n := by
  induction bound with
  | zero => exact ⟨0, Nat.zero_le _⟩
  | succ bound ih =>
    obtain ⟨n, reached⟩ := ih
    obtain ⟨m, later, entering⟩ := restless n
    refine ⟨m + 1, ?_⟩
    have kept : ∑ state, entries observed state n ≤ ∑ state, entries observed state m :=
      sum_le_sum fun state _ => entries_mono observed state later
    have one : ∑ state, entries observed state (m + 1) =
        ∑ state, entries observed state m + 1 := by
      simp [entries, entering, sum_add_distrib, sum_ite_eq]
    omega

/-- With the entries into every state bounded, the sequence comes to rest in one state. -/
theorem comes_to_rest (limit : Nat) (few : ∀ state n, entries observed state n ≤ limit) :
    ∃ rest, ∀ n, rest ≤ n → observed n = observed rest := by
  by_contra never
  have restless : ∀ n, ∃ m, n ≤ m ∧ enters observed m = true := by
    intro n
    by_contra still
    apply never
    refine ⟨n, fun m later => ?_⟩
    induction later with
    | refl => rfl
    | @step m before ih =>
      have staying : enters observed (m + 1) = false := by
        apply Bool.eq_false_iff.mpr
        intro entering
        exact still ⟨m + 1, Nat.le_succ_of_le before, entering⟩
      exact (observed_of_not_enters observed m staying).trans ih
  obtain ⟨n, many⟩ := sum_entries_unbounded observed restless (Fintype.card State * limit + 1)
  have bounded : ∑ state, entries observed state n ≤ ∑ _state : State, limit :=
    sum_le_sum fun state _ => few state n
  rw [sum_const, card_univ, smul_eq_mul] at bounded
  omega

-- How many of the first `n` observations are of states with a property.
theorem countP_eq_sum_visits (wanted : State → Bool) (n : Nat) :
    (List.range n).countP (fun m => wanted (observed m)) =
      ∑ state ∈ univ.filter (fun state => wanted state), visits observed state n := by
  induction n with
  | zero => simp [visits]
  | succ n ih =>
    rw [List.range_succ, List.countP_append, ih]
    simp only [visits, sum_add_distrib, sum_ite_eq, mem_filter, mem_univ, true_and]
    cases chosen : wanted (observed n) <;> simp [chosen]

end Finite

end StateVisits
