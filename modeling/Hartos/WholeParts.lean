import Mathlib.Algebra.BigOperators.Ring.Finset
import Mathlib.Algebra.Order.BigOperators.Group.Finset
import Mathlib.Algebra.Order.Floor.Ring

/-!
Sums paid out in whole units. What is due so far is moved in whole units, and the
fraction waits for what is added next.
-/
namespace WholeParts
open Finset
variable {R : Type*} [Ring R] [LinearOrder R] [IsStrictOrderedRing R] [FloorRing R]

-- Once the whole part of a sum has moved, an addition moves the whole part of the new sum.
theorem floor_rest (prior fresh : R) :
    ⌊prior - (⌊prior⌋ : R) + fresh⌋ = ⌊prior + fresh⌋ - ⌊prior⌋ := by
  have regroup : prior - (⌊prior⌋ : R) + fresh = prior + fresh - (⌊prior⌋ : R) := by abel
  rw [regroup, Int.floor_sub_intCast]

theorem floor_rest_nonneg (prior fresh : R) (added : 0 ≤ fresh) :
    0 ≤ ⌊prior - (⌊prior⌋ : R) + fresh⌋ := by
  rw [Int.floor_nonneg]
  exact add_nonneg (sub_nonneg.mpr (Int.floor_le prior)) added

variable {ι : Type*} (parts : Finset ι) (amount : ι → R)

end WholeParts
