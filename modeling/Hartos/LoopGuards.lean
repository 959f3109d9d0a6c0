import Hartos.KeyedGroups
import Hartos.LifecycleHooks
import Hartos.StateVisits
import Mathlib.Algebra.BigOperators.Ring.Finset

/-!
The two guards of the loop that works on one action after the other: the stall guard
counts how often in a row an action was seen in one state, the cycle guard how often it
came into each. Each is given back what it answered before.
-/
namespace Hartos.Lifecycle
open KeyedGroups StateVisits

instance : Fintype ActionState where
  elems :=
    { .assigned, .inProgress, .statusVerificationRequested, .completed, .pending, .error,
      .fallbackRequested, .fallbackReceived, .recipeRequested, .recipeReceived, .terminated,
      .executingMotion, .sensorConfirm, .previewPending, .previewApproved, .gaveUp }
  complete := by intro state; cases state <;> decide

def stallGuardMaxIters : Nat := 30

def stallGuardInprogressIters : Nat := 120

def cycleGuardMaxRevisits : Nat := 6

def isStallState (state : ActionState) : Bool :=
  decide (state ∈ [ActionState.recipeRequested, .fallbackRequested])

def isTerminalActionState (state : ActionState) : Bool :=
  decide (state ∈ [ActionState.completed, .terminated, .error, .gaveUp])

def stallCap (state : ActionState) : Nat :=
  if isStallState state then stallGuardMaxIters else stallGuardInprogressIters

structure StallStep where
  stuckKey : Option (Int × ActionState)
  iters : Nat
  shouldBreak : Bool
  deriving DecidableEq

def stallGuardStep (prevStuckKey : Option (Int × ActionState)) (prevIters : Nat) (actionId : Int)
    (state : ActionState) (recipeExists : Bool) : StallStep :=
  if recipeExists || isTerminalActionState state then ⟨none, 0, false⟩
  else
    let key := some (actionId, state)
    let iters := if prevStuckKey = key then prevIters + 1 else 1
    ⟨key, iters, decide (iters > stallCap state)⟩

structure CycleStep where
  key : Option (Int × ActionState)
  entries : Dict ActionState Nat
  shouldBreak : Bool

def mostEntries (entries : Dict ActionState Nat) : Nat := entries.values.foldl max 0

def cycleGuardStep (prevKey : Option (Int × ActionState)) (prevEntries : Dict ActionState Nat)
    (actionId : Int) (state : ActionState) (recipeExists : Bool) : CycleStep :=
  if recipeExists then ⟨none, Dict.empty, false⟩
  else if prevKey.map Prod.fst ≠ some actionId then
    ⟨some (actionId, state), Dict.empty.set (state, 1), false⟩
  else
    let entries :=
      if some state ≠ prevKey.map Prod.snd then prevEntries.setDefault state 0 (· + 1)
      else prevEntries
    ⟨some (actionId, state), entries, decide (mostEntries entries > cycleGuardMaxRevisits)⟩

variable (actionId : Int) (observed : Nat → ActionState)

def stallRun : Nat → StallStep
  | 0 => stallGuardStep none 0 actionId (observed 0) false
  | n + 1 =>
      let before := stallRun n
      stallGuardStep before.stuckKey before.iters actionId (observed (n + 1)) false

def cycleRun : Nat → CycleStep
  | 0 => cycleGuardStep none Dict.empty actionId (observed 0) false
  | n + 1 =>
      let before := cycleRun n
      cycleGuardStep before.key before.entries actionId (observed (n + 1)) false

def breaks (n : Nat) : Prop :=
  (stallRun actionId observed n).shouldBreak = true ∨
    (cycleRun actionId observed n).shouldBreak = true

/-- How many of the first `n` observations are of states an action can still leave. -/
def workingObservations (n : Nat) : Nat :=
  (List.range n).countP fun m => !isTerminalActionState (observed m)

def guardBudget : Nat :=
  cycleGuardMaxRevisits *
    ∑ state ∈ Finset.univ.filter (fun state => !isTerminalActionState state), stallCap state

variable (key : Option (Int × ActionState)) (iters : Nat) (state : ActionState) (n : Nat)

theorem stallGuardStep_terminal (terminal : isTerminalActionState state = true) :
    stallGuardStep key iters actionId state false = ⟨none, 0, false⟩ := by
  rw [stallGuardStep, Bool.false_or, if_pos terminal]

theorem stallGuardStep_working (working : isTerminalActionState state = false) :
    stallGuardStep key iters actionId state false =
      let counted := if key = some (actionId, state) then iters + 1 else 1
      ⟨some (actionId, state), counted, decide (counted > stallCap state)⟩ := by
  rw [stallGuardStep, Bool.false_or, if_neg (by simp [working])]

example : guardBudget = 7560 := by decide +kernel

-- The stall guard counts the streak of a state that is not terminal.
theorem stallRun_eq :
    stallRun actionId observed n =
      if isTerminalActionState (observed n) then ⟨none, 0, false⟩
      else
        ⟨some (actionId, observed n), streak observed n,
          decide (streak observed n > stallCap (observed n))⟩ := by
  induction n with
  | zero =>
    cases ending : isTerminalActionState (observed 0) with
    | true => rw [stallRun, stallGuardStep_terminal _ _ _ _ ending]; rfl
    | false => rw [stallRun, stallGuardStep_working _ _ _ _ ending]; rfl
  | succ n ih =>
    cases ending : isTerminalActionState (observed (n + 1)) with
    | true => rw [stallRun, stallGuardStep_terminal _ _ _ _ ending]; rfl
    | false =>
      rw [stallRun, stallGuardStep_working _ _ _ _ ending, ih]
      by_cases same : observed (n + 1) = observed n
      · have going : isTerminalActionState (observed n) = false := same ▸ ending
        have longer : streak observed (n + 1) = streak observed n + 1 := by
          rw [streak, if_neg (by simp [enters, same])]
        simp [going, same, longer]
      · have fresh : streak observed (n + 1) = 1 := by
          rw [streak, if_pos (by simp [enters, same])]
        have other : observed n ≠ observed (n + 1) := Ne.symm same
        cases isTerminalActionState (observed n) <;> simp [other, fresh]

theorem cycleGuardStep_staying (prevEntries : Dict ActionState Nat) (before state : ActionState) :
    cycleGuardStep (some (actionId, before)) prevEntries actionId state false =
      let entries := if state ≠ before then prevEntries.setDefault state 0 (· + 1) else prevEntries
      ⟨some (actionId, state), entries, decide (mostEntries entries > cycleGuardMaxRevisits)⟩ := by
  simp [cycleGuardStep]

theorem cycleRun_eq :
    (cycleRun actionId observed n).key = some (actionId, observed n) ∧
      ∀ state, (cycleRun actionId observed n).entries.value? state =
        if entries observed state (n + 1) = 0 then none
        else some (entries observed state (n + 1)) := by
  induction n with
  | zero =>
    refine ⟨rfl, fun state => ?_⟩
    change Dict.value? (Dict.empty.set (observed 0, 1)) state = _
    rw [Dict.value?_set, entries, enters]
    by_cases here : observed 0 = state <;> simp [entries, here, Dict.value?_empty]
  | succ n ih =>
    obtain ⟨key, counted⟩ := ih
    rw [cycleRun, key, cycleGuardStep_staying]
    refine ⟨rfl, fun state => ?_⟩
    by_cases same : observed (n + 1) = observed n
    · have entered : entries observed state (n + 2) = entries observed state (n + 1) := by
        rw [entries, if_neg (by simp [enters, same])]
        rfl
      simp [same, counted, entered]
    · have entered : entries observed state (n + 2) =
          entries observed state (n + 1) + if observed (n + 1) = state then 1 else 0 := by
        simp [entries, enters, same]
      simp only [ne_eq, same, not_false_eq_true, ↓reduceIte]
      rw [Dict.value?_setDefault, counted, entered]
      by_cases here : observed (n + 1) = state
      · by_cases first : entries observed state (n + 1) = 0 <;> simp [here, first]
      · simp [here]

theorem le_foldl_max (values : List Nat) (start value : Nat) :
    value < values.foldl max start ↔ value < start ∨ ∃ other ∈ values, value < other := by
  induction values generalizing start with
  | nil => simp
  | cons first rest ih => simp [ih, or_assoc]

-- The cycle guard breaks where a state has been entered too often.
theorem cycle_breaks_iff :
    (cycleRun actionId observed n).shouldBreak = true ↔
      ∃ state, cycleGuardMaxRevisits < entries observed state (n + 1) := by
  have most : cycleGuardMaxRevisits < mostEntries (cycleRun actionId observed n).entries ↔
      ∃ state, cycleGuardMaxRevisits < entries observed state (n + 1) := by
    have counted := (cycleRun_eq actionId observed n).2
    rw [mostEntries, le_foldl_max]
    constructor
    · rintro (none | ⟨count, member, many⟩)
      · exact absurd none (Nat.not_lt_zero _)
      · obtain ⟨state, stored⟩ := (Dict.mem_values _ count).mp member
        rw [counted state] at stored
        split at stored
        · cases stored
        · cases stored
          exact ⟨state, many⟩
    · rintro ⟨state, many⟩
      right
      refine ⟨entries observed state (n + 1), (Dict.mem_values _ _).mpr ⟨state, ?_⟩, many⟩
      rw [counted state, if_neg (Nat.ne_zero_of_lt many)]
  rw [← most]
  cases n with
  | zero =>
    have one : mostEntries (cycleRun actionId observed 0).entries = 1 := rfl
    rw [one]
    exact iff_of_false Bool.false_ne_true (by decide)
  | succ n =>
    have key := (cycleRun_eq actionId observed n).1
    rw [cycleRun, key, cycleGuardStep_staying]
    exact decide_eq_true_iff

theorem stall_breaks_iff :
    (stallRun actionId observed n).shouldBreak = true ↔
      isTerminalActionState (observed n) = false ∧
        stallCap (observed n) < streak observed n := by
  rw [stallRun_eq]
  cases isTerminalActionState (observed n) <;> simp

theorem breaks_iff :
    breaks actionId observed n ↔
      (isTerminalActionState (observed n) = false ∧ stallCap (observed n) < streak observed n) ∨
        ∃ state, cycleGuardMaxRevisits < entries observed state (n + 1) := by
  rw [breaks, stall_breaks_iff, cycle_breaks_iff]

-- While neither guard breaks, no state is entered too often.
theorem entries_le_of_quiet (quiet : ∀ m < n, ¬ breaks actionId observed m) (state : ActionState) :
    entries observed state n ≤ cycleGuardMaxRevisits := by
  cases n with
  | zero => exact Nat.zero_le _
  | succ n =>
    by_contra many
    exact quiet n (Nat.lt_succ_self n) ((breaks_iff actionId observed n).mpr
      (Or.inr ⟨state, not_le.mp many⟩))

-- While neither guard breaks, the observations of states that can still be left are few.
theorem working_le_of_quiet (quiet : ∀ m < n, ¬ breaks actionId observed m) :
    workingObservations observed n ≤ guardBudget := by
  rw [workingObservations, guardBudget, Finset.mul_sum,
    countP_eq_sum_visits observed fun state => !isTerminalActionState state]
  apply Finset.sum_le_sum
  intro state member
  have working : isTerminalActionState state = false := by
    simpa using (Finset.mem_filter.mp member).2
  have short : ∀ m < n, observed m = state → streak observed m ≤ stallCap state := by
    intro m earlier here
    by_contra long
    apply quiet m earlier
    rw [breaks_iff, here]
    exact Or.inl ⟨working, not_le.mp long⟩
  exact le_trans (visits_le observed state (stallCap state) n short)
    (Nat.mul_le_mul_right _ (entries_le_of_quiet actionId observed n quiet state))

-- Without a break, the action comes to rest in a terminal state.
theorem rests_of_quiet (quiet : ∀ n, ¬ breaks actionId observed n) :
    ∃ rest, isTerminalActionState (observed rest) = true ∧
      ∀ n, rest ≤ n → observed n = observed rest := by
  obtain ⟨rest, still⟩ := comes_to_rest observed cycleGuardMaxRevisits
    (fun state n => entries_le_of_quiet actionId observed n (fun m _ => quiet m) state)
  refine ⟨rest, ?_, still⟩
  by_contra working
  rw [Bool.not_eq_true] at working
  apply quiet (rest + stallCap (observed rest))
  rw [breaks_iff, still _ (Nat.le_add_right _ _)]
  exact Or.inl ⟨working, streak_at_rest observed rest still _⟩

/-- An action that does not come to rest in a terminal state is stopped by one of the
guards, after a bounded number of observations of states it could still leave; an action
that stays within both limits is never stopped. -/
theorem guards_stop_exactly_the_stuck :
    ((¬ ∃ rest, isTerminalActionState (observed rest) = true ∧
        ∀ n, rest ≤ n → observed n = observed rest) →
      ∃ n, breaks actionId observed n ∧ (∀ m < n, ¬ breaks actionId observed m) ∧
        workingObservations observed n ≤ guardBudget) ∧
    ((∀ state n, entries observed state n ≤ cycleGuardMaxRevisits) →
      (∀ n, isTerminalActionState (observed n) = false →
        streak observed n ≤ stallCap (observed n)) →
      ∀ n, ¬ breaks actionId observed n) := by
  classical
  constructor
  · intro restless
    have stopped : ∃ n, breaks actionId observed n := by
      by_contra never
      exact restless (rests_of_quiet actionId observed (not_exists.mp never))
    have first : ∀ m < Nat.find stopped, ¬ breaks actionId observed m :=
      fun m earlier => Nat.find_min stopped earlier
    exact ⟨Nat.find stopped, Nat.find_spec stopped, first,
      working_le_of_quiet actionId observed _ first⟩
  · intro few short n broken
    rcases (breaks_iff actionId observed n).mp broken with ⟨working, long⟩ | ⟨state, many⟩
    · exact absurd (short n working) (not_le.mpr long)
    · exact absurd (few state (n + 1)) (not_le.mpr many)

theorem entries_const_le (state other : ActionState) (n : Nat) :
    entries (fun _ => state) other n ≤ 1 := by
  induction n with
  | zero => exact Nat.zero_le 1
  | succ n ih =>
    cases n with
    | zero =>
      rw [entries, entries, Nat.zero_add]
      split <;> decide
    | succ n =>
      rw [entries, if_neg (by simp [enters])]
      exact ih

/-- An action in progress for ever is stopped; one that stays completed is not. -/
theorem guards_stop_progress_not_completion :
    (∃ n, breaks 2 (fun _ => .inProgress) n ∧ (∀ m < n, ¬ breaks 2 (fun _ => .inProgress) m) ∧
      workingObservations (fun _ => .inProgress) n ≤ guardBudget) ∧
    ∀ n, ¬ breaks 2 (fun _ => .completed) n := by
  constructor
  · apply (guards_stop_exactly_the_stuck 2 fun _ => .inProgress).1
    rintro ⟨_, terminal, _⟩
    exact absurd terminal (by decide)
  · apply (guards_stop_exactly_the_stuck 2 fun _ => .completed).2
    · intro state n
      exact le_trans (entries_const_le .completed state n) (by decide)
    · intro n working
      exact absurd working (by decide)

end Hartos.Lifecycle
