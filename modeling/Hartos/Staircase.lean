import Mathlib.Algebra.BigOperators.Group.Finset.Basic
import Mathlib.Algebra.BigOperators.Intervals
import Mathlib.Order.Monotone.Basic

/-!
Points that climb a staircase. Each step takes a positive number of points, so the
points say which step they reach and what is left over on it.
-/
namespace Staircase

def height (step : Nat → Int) (count : Nat) : Int := (Finset.range count).sum step

/-- The points reach step `count` and not the next one. -/
structure Reaches (step : Nat → Int) (points : Int) (count : Nat) : Prop where
  reached : height step count ≤ points
  short : points < height step (count + 1)

section Staircase
variable {step : Nat → Int} {points : Int} {count other : Nat}

@[simp] theorem height_zero (step : Nat → Int) : height step 0 = 0 := rfl

theorem height_succ (step : Nat → Int) (count : Nat) :
    height step (count + 1) = height step count + step count :=
  Finset.sum_range_succ step count

section

variable (positive : ∀ index, 0 < step index)
include positive

theorem height_le (less : count ≤ other) : height step count ≤ height step other := by
  induction other, less using Nat.le_induction with
  | base => exact Int.le_refl _
  | succ other less ih =>
    rw [height_succ]
    exact Int.le_trans ih (Int.le_add_of_nonneg_right (Int.le_of_lt (positive other)))

theorem Reaches.le (first : Reaches step points count) (second : Reaches step points other) :
    count ≤ other := by
  by_contra later
  have higher : height step (other + 1) ≤ height step count :=
    height_le positive (Nat.lt_of_not_le later)
  exact absurd (lt_of_lt_of_le second.short higher) (not_lt.mpr first.reached)

theorem Reaches.unique (first : Reaches step points count) (second : Reaches step points other) :
    count = other :=
  Nat.le_antisymm (first.le positive second) (second.le positive first)

end

/-- What is left over is less than the step that was not reached. -/
theorem Reaches.rest (reaches : Reaches step points count) :
    0 ≤ points - height step count ∧ points - height step count < step count := by
  have short := reaches.short
  rw [height_succ] at short
  exact ⟨Int.sub_nonneg_of_le reaches.reached, Int.sub_left_lt_of_lt_add short⟩

end Staircase

end Staircase
