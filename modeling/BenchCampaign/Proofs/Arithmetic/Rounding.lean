import BenchCampaign.Arithmetic
import Mathlib

/-!
# Arithmetic that rounds

Where numbers are stood for by others, a step of a computation takes the exact result and rounds
it.  All that is said here of rounding is that it keeps the order and leaves alone what can be stood
for.  That is enough for a formula that grows with its parts to grow with them after rounding too,
however many steps it takes, and it holds beyond the greatest number as well, where what is rounded
to is infinity.

* `Rounding`: numbers that are computed with by rounding exact results.
* `Rounding.AtMost`: the order of the numbers that are stood for.
* `Rounding.AtMost.add`, `Rounding.atMost_scaled`: formulas that keep the order.
-/

namespace BenchCampaign

/-- Numbers that stand for exact ones, and a rounding that gives what their operations do.  Only
what is not below zero is stood for; `⊤` is infinity. -/
structure Rounding (α : Type) [Arithmetic α] where
  Denotes : α → WithTop ℚ → Prop
  round : WithTop ℚ → WithTop ℚ
  nonneg : ∀ {x u}, Denotes x u → 0 ≤ u
  monotone : ∀ {u v}, 0 ≤ u → u ≤ v → round u ≤ round v
  /-- What can be stood for is not rounded. -/
  kept : ∀ {x u}, Denotes x u → round u = u
  zero : round 0 = 0
  one : round 1 = 1
  /-- The first natural number of more than 64 bits can be stood for. -/
  limit : round ((2 ^ 64 : ℚ) : WithTop ℚ) = (2 ^ 64 : ℚ)
  ofNat : ∀ {n : ℕ}, n < 2 ^ 64 → Denotes (Arithmetic.ofNat n) (round (n : ℚ))
  add : ∀ {x y u v}, Denotes x u → Denotes y v → Denotes (x + y) (round (u + v))
  mul : ∀ {x y} {p q : ℚ}, Denotes x p → Denotes y q → Denotes (x * y) (round (p * q : ℚ))
  div : ∀ {x y} {p q : ℚ}, q ≠ 0 → Denotes x p → Denotes y q → Denotes (x / y) (round (p / q : ℚ))

namespace Rounding

variable {α : Type} [Arithmetic α] (r : Rounding α)

/-- What the first number stands for is at most what the second one stands for. -/
def AtMost (x y : α) : Prop := ∃ u v, r.Denotes x u ∧ r.Denotes y v ∧ u ≤ v

variable {r}

/-! ## Sums -/

/-- A sum of greater summands is not less. -/
theorem AtMost.add {x x' y y' : α} (first : r.AtMost x x') (second : r.AtMost y y') :
    r.AtMost (x + y) (x' + y') := by
  obtain ⟨u, u', denotes, denotes', le⟩ := first
  obtain ⟨v, v', denotesSecond, denotesSecond', leSecond⟩ := second
  have sums : u + v ≤ u' + v' := add_le_add le leSecond
  exact ⟨_, _, r.add denotes denotesSecond, r.add denotes' denotesSecond',
    r.monotone (add_nonneg (r.nonneg denotes) (r.nonneg denotesSecond)) sums⟩

/-- A sum is not less than its first summand. -/
theorem atMost_add_right {x y : α} {u v : WithTop ℚ} (first : r.Denotes x u)
    (second : r.Denotes y v) : r.AtMost x (x + y) := by
  refine ⟨u, _, first, r.add first second, ?_⟩
  have more : u ≤ u + v := le_add_of_nonneg_right (r.nonneg second)
  calc u = r.round u := (r.kept first).symm
    _ ≤ r.round (u + v) := r.monotone (r.nonneg first) more

/-- A sum is not less than its second summand. -/
theorem atMost_add_left {x y : α} {u v : WithTop ℚ} (first : r.Denotes x u)
    (second : r.Denotes y v) : r.AtMost y (x + y) := by
  refine ⟨v, _, second, r.add first second, ?_⟩
  have more : v ≤ u + v := le_add_of_nonneg_left (r.nonneg first)
  calc v = r.round v := (r.kept second).symm
    _ ≤ r.round (u + v) := r.monotone (r.nonneg second) more

/-! ## Quotients -/

/-- What is at most `2 ^ 64` is rounded to a number that is. -/
theorem exists_round_eq (r : Rounding α) {p : ℚ} (nonneg : 0 ≤ p) (le : p ≤ 2 ^ 64) :
    ∃ q : ℚ, r.round p = q ∧ 0 ≤ q ∧ q ≤ 2 ^ 64 := by
  have below := r.monotone (WithTop.coe_nonneg.mpr nonneg) (WithTop.coe_le_coe.mpr le)
  have above := r.monotone le_rfl (WithTop.coe_nonneg.mpr nonneg)
  rw [r.limit] at below
  rw [r.zero] at above
  obtain ⟨q, same, small⟩ := WithTop.le_coe_iff.mp below
  rw [same] at above
  exact ⟨q, same, WithTop.coe_nonneg.mp above, small⟩

theorem exists_ofNat_eq (r : Rounding α) {n : ℕ} (bound : n < 2 ^ 64) :
    ∃ p : ℚ, r.Denotes (Arithmetic.ofNat n) p ∧ r.round (n : ℚ) = p ∧ 0 ≤ p ∧ p ≤ 2 ^ 64 := by
  have le : (n : ℚ) ≤ 2 ^ 64 := by exact_mod_cast bound.le
  obtain ⟨p, same, nonneg, small⟩ := r.exists_round_eq (Nat.cast_nonneg n) le
  exact ⟨p, same ▸ r.ofNat bound, same, nonneg, small⟩

theorem le_of_round_eq {n n' : ℕ} {p p' : ℚ} (le : n ≤ n') (same : r.round (n : ℚ) = p)
    (same' : r.round (n' : ℚ) = p') : p ≤ p' := by
  have cast : ((n : ℚ) : WithTop ℚ) ≤ (n' : ℚ) := WithTop.coe_le_coe.mpr (Nat.cast_le.mpr le)
  have rounded := r.monotone (WithTop.coe_nonneg.mpr (Nat.cast_nonneg n)) cast
  rwa [same, same', WithTop.coe_le_coe] at rounded

/-- A quotient of natural numbers grows with the numerator and shrinks with the denominator. -/
theorem exists_quotients (r : Rounding α) {n n' d d' : ℕ} (more : n ≤ n') (bound : n' < 2 ^ 64)
    (pos : 0 < d') (less : d' ≤ d) (bound' : d < 2 ^ 64) :
    ∃ p p' : ℚ, r.Denotes (Arithmetic.ofNat n / Arithmetic.ofNat d) p ∧
      r.Denotes (Arithmetic.ofNat n' / Arithmetic.ofNat d') p' ∧ 0 ≤ p ∧ p ≤ p' := by
  obtain ⟨a, num, roundA, nonnegA, -⟩ := r.exists_ofNat_eq (more.trans_lt bound)
  obtain ⟨a', num', roundA', -, smallA'⟩ := r.exists_ofNat_eq bound
  obtain ⟨b, den, roundB, -, -⟩ := r.exists_ofNat_eq bound'
  obtain ⟨b', den', roundB', -, -⟩ := r.exists_ofNat_eq (less.trans_lt bound')
  have numerators : a ≤ a' := le_of_round_eq more roundA roundA'
  have denominators : b' ≤ b := le_of_round_eq less roundB' roundB
  have one : 1 ≤ b' := le_of_round_eq pos (by rw [Nat.cast_one]; exact r.one) roundB'
  have positive : 0 < b' := one_pos.trans_le one
  have nonneg : 0 ≤ a / b := div_nonneg nonnegA (positive.le.trans denominators)
  have exact : a / b ≤ a' / b' :=
    div_le_div₀ (nonnegA.trans numerators) numerators positive denominators
  have small : a' / b' ≤ 2 ^ 64 := by
    rw [div_le_iff₀ positive]
    exact smallA'.trans (le_mul_of_one_le_right (by norm_num) one)
  obtain ⟨p, same, nonnegP, -⟩ := r.exists_round_eq nonneg (exact.trans small)
  obtain ⟨p', same', -, -⟩ := r.exists_round_eq (nonneg.trans exact) small
  have rounded := r.monotone (WithTop.coe_nonneg.mpr nonneg) (WithTop.coe_le_coe.mpr exact)
  rw [same, same', WithTop.coe_le_coe] at rounded
  refine ⟨p, p', ?_, ?_, nonnegP, rounded⟩
  · exact same ▸ r.div (positive.trans_le denominators).ne' num den
  · exact same' ▸ r.div positive.ne' num' den'

/-- So does the quotient when it is multiplied by a number. -/
theorem atMost_scaled (r : Rounding α) {n n' d d' : ℕ} {x : α} {q : ℚ} (scale : r.Denotes x q)
    (more : n ≤ n') (bound : n' < 2 ^ 64) (pos : 0 < d') (less : d' ≤ d) (bound' : d < 2 ^ 64) :
    r.AtMost (Arithmetic.ofNat n / Arithmetic.ofNat d * x)
      (Arithmetic.ofNat n' / Arithmetic.ofNat d' * x) := by
  obtain ⟨p, p', denotes, denotes', nonneg, le⟩ := r.exists_quotients more bound pos less bound'
  have nonnegQ : 0 ≤ q := WithTop.coe_nonneg.mp (r.nonneg scale)
  have products : p * q ≤ p' * q := mul_le_mul_of_nonneg_right le nonnegQ
  have start : (0 : WithTop ℚ) ≤ (p * q : ℚ) := WithTop.coe_nonneg.mpr (mul_nonneg nonneg nonnegQ)
  exact ⟨_, _, r.mul denotes scale, r.mul denotes' scale,
    r.monotone start (WithTop.coe_le_coe.mpr products)⟩

end Rounding

end BenchCampaign
