import BenchCampaign.Arithmetic
import Mathlib.Algebra.BigOperators.Group.List.Basic
import Mathlib.Algebra.Order.Ring.Rat

/-!
# Exact arithmetic

With rational numbers no step of a computation rounds, so the laws of a formula are those of the
formula alone.  What the operations come to here is what they are in any ordered field.
-/

namespace BenchCampaign

instance : Arithmetic ℚ where
  ofNat n := n
  emptySum := 0
  below a b := decide (a < b)
  isNumber _ := true

namespace Arithmetic

@[simp]
theorem ofNat_rat (n : ℕ) : (ofNat n : ℚ) = n := rfl

@[simp]
theorem sum_rat (xs : List ℚ) : sum xs = xs.sum := List.sum_eq_foldl.symm

@[simp]
theorem greater_rat (a b : ℚ) : greater a b = max a b := by
  have number (c : ℚ) : isNumber c = true := rfl
  have less : below a b = decide (a < b) := rfl
  rcases lt_or_ge a b with lt | le
  · simp [greater, number, less, lt, max_eq_right lt.le]
  · simp [greater, number, less, not_lt.2 le, max_eq_left le]

end Arithmetic

end BenchCampaign
