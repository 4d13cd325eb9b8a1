import BenchCampaign.Proofs.Arithmetic.Rounding
import BenchCampaign.Proofs.Binary64.Amount
import BenchCampaign.Proofs.Binary64.Nearest
import BenchCampaign.Proofs.Binary64.Size

/-!
# Doubles as numbers that are rounded

A double that is not below zero stands for a number or for infinity, and the operations on doubles
are the exact ones, rounded: natural numbers, sums, products and quotients become the nearest
double, and from `2 ^ 1024` on infinity.  The order of doubles is that of the numbers.

* `Denotes`: the number that a double stands for.
* `IsRounded.value`: what a result of the arithmetic stands for when it is packed.
* `denotes_ofNat`, `Denotes.add`, `Denotes.mul`, `Denotes.div`: the operations.
* `doubles`: doubles are computed with by rounding exact results.
* `le_of_denotes`: the order.
-/

namespace BenchCampaign

namespace Binary64

open Float.Model (UnpackedFloat Format totalExponent)
open Float.Model.UnpackedFloat

/-! ## Values -/

/-- The number that the parts of a double stand for, if it is not below zero. -/
inductive Value : UnpackedFloat → WithTop ℚ → Prop
  | zero (s : Sign) : Value (.zero s) 0
  | finite {m : ℕ} {e : ℤ} (pos : 0 < m) (fits : Fits m e) (bounded : e ≤ 971) :
    Value (.finite .positive m e pos) (m * 2 ^ e : ℚ)
  | infinity : Value (.infinity .positive) ⊤

/-- The number that a double stands for, if it is not below zero. -/
def Denotes (x : Float) (v : WithTop ℚ) : Prop := Value x.toModel.unpack v

variable {u u' : UnpackedFloat} {v v' : WithTop ℚ} {p q : ℚ} {x y : Float}

theorem Value.pack (h : Value u v) : Value (Float.Model.pack u).unpack v := by
  cases h with
  | zero s => cases s <;> exact .zero _
  | finite pos fits bounded =>
    rw [unpack_pack_finite .positive fits bounded pos]
    exact .finite pos fits bounded
  | infinity => exact .infinity

theorem Value.nonneg (h : Value u v) : 0 ≤ v := by
  cases h with
  | zero s => exact le_rfl
  | finite pos fits bounded =>
    exact WithTop.coe_nonneg.2 (mul_nonneg (Nat.cast_nonneg _) (zpow_two_pos _).le)
  | infinity => exact le_top

/-- What a double stands for is not rounded. -/
theorem Value.nearestValue_eq (h : Value u v) : nearestValue v = v := by
  cases h with
  | zero s => exact nearestValue_zero
  | finite pos fits bounded => exact nearestValue_eq_self fits bounded
  | infinity => rfl

theorem Value.unique (h : Value u p) (h' : Value u q) : p = q := by
  generalize number : (p : WithTop ℚ) = v at h
  generalize number' : (q : WithTop ℚ) = v' at h'
  cases h <;> cases h' <;> exact WithTop.coe_inj.1 (number.trans number'.symm)

/-- What stands for a number is zero or has a mantissa and an exponent. -/
theorem Value.zero_or_finite (h : Value u p) :
    (∃ s, u = .zero s ∧ p = 0) ∨
      ∃ m e pos, u = .finite .positive m e pos ∧ Fits m e ∧ e ≤ 971 ∧ p = m * 2 ^ e := by
  generalize number : (p : WithTop ℚ) = v at h
  cases h with
  | zero s => exact .inl ⟨s, rfl, WithTop.coe_eq_zero.1 number⟩
  | finite pos fits bounded =>
    exact .inr ⟨_, _, pos, rfl, fits, bounded, WithTop.coe_inj.1 number⟩
  | infinity => cases number

/-! ## Results -/

/-- A result of the arithmetic is packed into the double nearest to the exact number. -/
theorem IsRounded.value (h : IsRounded u q) :
    Value (Float.Model.pack u).unpack (nearestValue q) := by
  obtain ⟨em, t, describes, rounds, result⟩ := h.zero_or_finite
  have nearest : nearestNumber q = em.roundedMantissa * 2 ^ t := by
    rw [rounds.lastPlace.nearestNumber_eq, describes.roundedMantissa_eq]
  rcases result with ⟨none, rfl⟩ | ⟨m, e, pos, rfl, fits, value⟩
  · rw [none, Nat.cast_zero, zero_mul] at nearest
    rw [nearestValue_coe, nearest, if_pos (zpow_two_pos 1024)]
    exact .pack (.zero .positive)
  · rw [← value] at nearest
    rcases lt_or_ge e 972 with bounded | large
    · rw [nearestValue_of_fits nearest fits (by omega)]
      exact .pack (.finite pos fits (by omega))
    · rw [nearestValue_of_large nearest fits large, unpack_pack_overflow .positive large pos]
      exact .infinity

/-! ## Operations -/

theorem Denotes.add (first : Denotes x v) (second : Denotes y v') :
    Denotes (x + y) (nearestValue (v + v')) := by
  unfold Denotes at first second ⊢
  change Value (Float.Model.pack (UnpackedFloat.add Format.binary64 x.toModel.unpack
    y.toModel.unpack)).unpack _
  generalize x.toModel.unpack = u at first
  generalize y.toModel.unpack = u' at second
  cases first with
  | zero s =>
    rw [zero_add, second.nearestValue_eq]
    refine .pack ?_
    cases second with
    | zero s' => cases s <;> cases s' <;> exact .zero _
    | finite pos fits bounded => exact .finite pos fits bounded
    | infinity => exact .infinity
  | finite pos fits bounded =>
    cases second with
    | zero s' =>
      rw [add_zero, nearestValue_eq_self fits bounded]
      exact .pack (.finite pos fits bounded)
    | finite pos' fits' bounded' =>
      rw [← WithTop.coe_add]
      exact (isRounded_add _ _ pos pos').value
    | infinity => exact .pack .infinity
  | infinity =>
    rw [top_add]
    refine .pack ?_
    cases second with
    | zero s' => exact .infinity
    | finite pos fits bounded => exact .infinity
    | infinity => exact .infinity

theorem Denotes.mul (first : Denotes x p) (second : Denotes y q) :
    Denotes (x * y) (nearestValue (p * q : ℚ)) := by
  unfold Denotes at first second ⊢
  change Value (Float.Model.pack (UnpackedFloat.mul Format.binary64 x.toModel.unpack
    y.toModel.unpack)).unpack _
  rcases first.zero_or_finite with ⟨s, parts, rfl⟩ | ⟨m, e, pos, parts, fits, -, rfl⟩
  · rw [parts, zero_mul, WithTop.coe_zero, nearestValue_zero]
    rcases second.zero_or_finite with ⟨s', parts', -⟩ | ⟨n, f, pos', parts', -⟩
    · rw [parts']
      exact .pack (.zero _)
    · rw [parts']
      exact .pack (.zero _)
  · rcases second.zero_or_finite with ⟨s', parts', rfl⟩ | ⟨n, f, pos', parts', fits', -, rfl⟩
    · rw [parts, parts', mul_zero, WithTop.coe_zero, nearestValue_zero]
      exact .pack (.zero _)
    · rw [parts, parts']
      exact (isRounded_mul fits fits' pos pos').value

theorem Denotes.div (nonzero : q ≠ 0) (first : Denotes x p) (second : Denotes y q) :
    Denotes (x / y) (nearestValue (p / q : ℚ)) := by
  unfold Denotes at first second ⊢
  change Value (Float.Model.pack (UnpackedFloat.div Format.binary64 x.toModel.unpack
    y.toModel.unpack)).unpack _
  rcases second.zero_or_finite with ⟨s', -, zero⟩ | ⟨n, f, pos', parts', -, -, rfl⟩
  · exact absurd zero nonzero
  · rcases first.zero_or_finite with ⟨s, parts, rfl⟩ | ⟨m, e, pos, parts, -, -, rfl⟩
    · rw [parts, parts', zero_div, WithTop.coe_zero, nearestValue_zero]
      exact .pack (.zero _)
    · rw [parts, parts']
      exact (isRounded_div e f pos pos').value

/-! ## Natural numbers -/

/-- The quotient of natural numbers is rounded as mantissas are. -/
theorem roundDiv_eq_roundedMantissa (num : ℕ) {den : ℕ} (pos : 0 < den) :
    roundDiv num den = (ExtendedMantissa.ofMantissaAndAccuracy (num / den)
      (accuracyOfFraction (num % den) den)).roundedMantissa := by
  unfold roundDiv accuracyOfFraction
  dsimp only
  by_cases none : num % den = 0
  · rw [if_pos none, none, if_neg (by simp [pos.ne])]
    rfl
  · rw [if_neg none]
    rcases lt_trichotomy (2 * (num % den)) den with less | half | more
    · rw [Nat.compare_eq_lt.2 less, if_neg (by simp; omega)]
      rfl
    · rw [Nat.compare_eq_eq.2 half]
      change _ = num / den + num / den % 2
      rcases Nat.mod_two_eq_zero_or_one (num / den) with even | odd
      · rw [even, if_neg (by simp [half]), Nat.add_zero]
      · rw [odd, if_pos (by simp [half])]
    · rw [Nat.compare_eq_gt.2 more, if_pos (by simp [more])]
      rfl

theorem roundDiv_eq_halfEven (num : ℕ) {den : ℕ} (pos : 0 < den) :
    roundDiv num den = halfEven (num / den) := by
  have size : (den : ℚ) ≠ 0 := by exact_mod_cast pos.ne'
  have whole : (den : ℚ) * (num / den : ℕ) + (num % den : ℕ) = num := by
    exact_mod_cast Nat.div_add_mod num den
  have quotient : ((num / den : ℕ) : ℚ) + (num % den : ℕ) / den = num / den := by
    rw [eq_div_iff size, add_mul, div_mul_cancel₀ _ size, mul_comm, whole]
  have describes := describes_fraction (num / den) (num % den) den (Nat.mod_lt num pos)
  rw [quotient] at describes
  rw [roundDiv_eq_roundedMantissa num pos, describes.roundedMantissa_eq]

theorem scaled_div (n : ℕ) (e : ℤ) :
    ((scaled n 1 e).1 : ℚ) / (scaled n 1 e).2 = n / 2 ^ e ∧ 0 < (scaled n 1 e).2 := by
  unfold scaled
  split
  next negative =>
    obtain ⟨k, rfl⟩ := Int.exists_eq_neg_ofNat negative.le
    simp
  next positive =>
    obtain ⟨k, rfl⟩ := Int.eq_ofNat_of_zero_le (not_lt.1 positive)
    simp

/-- The mantissa of a natural number is the nearest one. -/
theorem nearestNumber_natCast {n : ℕ} (pos : 0 < n) :
    nearestNumber n = mantissaOf n * 2 ^ ((n.log2 : ℤ) - 52) := by
  obtain ⟨quotient, size⟩ := scaled_div n (n.log2 - 52)
  have digits : (2 : ℚ) ^ (n.log2 : ℤ) ≤ n := by exact_mod_cast Nat.log2_self_le pos.ne'
  have digits' : (n : ℚ) < 2 ^ ((n.log2 + 1 : ℕ) : ℤ) := by exact_mod_cast Nat.lt_log2_self
  have place : LastPlace n ((n.log2 : ℤ) - 52) := by
    refine ⟨by omega, .inr ?_, ?_⟩
    · rwa [← zpow_two_add, show (52 : ℤ) + (n.log2 - 52) = n.log2 by omega]
    · rwa [← zpow_two_add, show (53 : ℤ) + (n.log2 - 52) = (n.log2 + 1 : ℕ) by omega]
  rw [place.nearestNumber_eq, mantissaOf, roundDiv_eq_halfEven _ size, quotient]

/-- A natural number becomes the nearest double. -/
theorem denotes_ofNat {n : ℕ} (bounded : n < 2 ^ 64) :
    Denotes (Arithmetic.ofNat n) (nearestValue (n : ℚ)) := by
  rcases Nat.eq_zero_or_pos n with rfl | pos
  · rw [Nat.cast_zero, WithTop.coe_zero, nearestValue_zero]
    exact .zero .positive
  · have digits : n.log2 < 64 := (Nat.log2_lt pos.ne').2 bounded
    obtain ⟨m, e, pos', parts, value⟩ := hasValue_ofNat pos (by omega)
    obtain ⟨fits, bounded⟩ := fits_of_unpack parts
    rw [nearestValue_of_fits ((nearestNumber_natCast pos).trans value) fits bounded]
    unfold Denotes
    rw [parts]
    exact .finite pos' fits bounded

/-! ## Doubles -/

/-- Doubles that are not below zero are computed with by rounding exact results. -/
def doubles : Rounding Float where
  Denotes := Denotes
  round := nearestValue
  nonneg := Value.nonneg
  monotone _ le := nearestValue_mono le
  kept := Value.nearestValue_eq
  zero := nearestValue_zero
  one := by simpa only [pow_zero, WithTop.coe_one] using nearestValue_two_pow (k := 0) (by decide)
  limit := nearestValue_two_pow (by decide)
  ofNat := denotes_ofNat
  add := Denotes.add
  mul := Denotes.mul
  div := Denotes.div

theorem denotes_one : Denotes (Arithmetic.ofNat 1) (1 : ℚ) := by
  have known := denotes_ofNat (n := 1) (by decide)
  have one : nearestValue 1 = 1 := doubles.one
  rwa [Nat.cast_one, WithTop.coe_one, one] at known

/-! ## Order -/

/-- Exponents and mantissas are compared as the numbers are. -/
theorem value_lt_of_compare {m m' : ℕ} {e e' : ℤ} (fits : Fits m e) (fits' : Fits m' e')
    (less : (compare e e').then (compare m m') = .lt) : (m : ℚ) * 2 ^ e < m' * 2 ^ e' := by
  rw [Ordering.then_eq_lt, Int.compare_eq_lt, Int.compare_eq_eq, Nat.compare_eq_lt] at less
  rcases less with less | ⟨rfl, less⟩
  · obtain ⟨places, full⟩ := fits.lastPlace.between fits'.lastPlace less
    exact fits.lastPlace.below.trans_le (places.trans full)
  · exact mul_lt_mul_of_pos_right (by exact_mod_cast less) (zpow_two_pos e)

theorem Value.le (h : Value u v) (h' : Value u' v') (le : v ≤ v') : u.le u' = true := by
  cases h with
  | zero s =>
    cases h' with
    | zero s' => rfl
    | finite pos fits bounded => rfl
    | infinity => rfl
  | @finite m e pos fits bounded =>
    cases h' with
    | zero s' =>
      have size : (0 : ℚ) < m * 2 ^ e := mul_pos (Nat.cast_pos.2 pos) (zpow_two_pos e)
      exact absurd (WithTop.coe_le_coe.1 le) (not_le_of_gt size)
    | @finite m' e' pos' fits' bounded' =>
      change ((compare e e').then (compare m m')).isLE = true
      cases order : (compare e e').then (compare m m') with
      | lt => rfl
      | eq => rfl
      | gt =>
        have swapped : (compare e' e).then (compare m' m) = .lt := by
          rw [← Int.compare_swap e e', ← Nat.compare_swap m m', ← Ordering.swap_then, order]
          rfl
        exact absurd (WithTop.coe_le_coe.1 le)
          (not_le_of_gt (value_lt_of_compare fits' fits swapped))
    | infinity => rfl
  | infinity =>
    cases h' with
    | zero s' => cases le
    | finite pos' fits' bounded' => cases le
    | infinity => rfl

theorem le_of_denotes (first : Denotes x v) (second : Denotes y v') (le : v ≤ v') : x ≤ y :=
  (le_iff x y).2 (Value.le first second le)

theorem isNaN_eq_false_of_denotes {x : Float} {v : WithTop ℚ} (denotes : Denotes x v) :
    x.isNaN = false := by
  change x.toModel.unpack.isNaN = false
  unfold Denotes at denotes
  generalize x.toModel.unpack = u at denotes
  cases denotes <;> rfl

/-- What stands for a number other than zero is positive. -/
theorem pos_of_denotes {x : Float} {q : ℚ} (nonzero : q ≠ 0) (denotes : Denotes x q) : 0 < x := by
  rw [lt_iff]
  change Float.Model.UnpackedFloat.lt (.zero .positive) x.toModel.unpack = true
  obtain ⟨s, -, zero⟩ | ⟨m, e, pos, parts, -⟩ := Value.zero_or_finite denotes
  · exact absurd zero nonzero
  · rw [parts]
    rfl

/-- Doubles that stand for one number other than zero are the same. -/
theorem eq_of_denotes {x y : Float} {q : ℚ} (nonzero : q ≠ 0) (first : Denotes x q)
    (second : Denotes y q) : x = y := by
  have number := isNaN_eq_false_of_denotes first
  have number' := isNaN_eq_false_of_denotes second
  have le := (size_le_iff number number').1 (le_of_denotes first second le_rfl)
  have ge := (size_le_iff number' number).1 (le_of_denotes second first le_rfl)
  rcases eq_or_zero_of_size_eq number number' (le_antisymm le ge) with same | ⟨zero, -⟩
  · exact same
  · have less := (size_lt_iff rfl number).1 (pos_of_denotes nonzero first)
    exact absurd ((beq_iff number rfl).1 zero) less.ne'

/-- Sizes are in the order of the numbers. -/
theorem le_of_size_le (first : Denotes x p) (second : Denotes y q) (le : size x ≤ size y) :
    p ≤ q := by
  by_contra less
  have number := isNaN_eq_false_of_denotes first
  have number' := isNaN_eq_false_of_denotes second
  have ge := (size_le_iff number' number).1
    (le_of_denotes second first (WithTop.coe_le_coe.2 (not_le.1 less).le))
  have positive : p ≠ 0 :=
    ((WithTop.coe_nonneg.1 (Value.nonneg second)).trans_lt (not_le.1 less)).ne'
  rcases eq_or_zero_of_size_eq number number' (le_antisymm le ge) with same | ⟨zero, -⟩
  · exact less (Value.unique first (same ▸ second)).le
  · have above := (size_lt_iff rfl number).1 (pos_of_denotes positive first)
    exact absurd ((beq_iff number rfl).1 zero) above.ne'

/-- A positive double that is finite stands for a number. -/
theorem exists_denotes (finite : x.isFinite = true) (positive : 0 < x) :
    ∃ q : ℚ, 0 < q ∧ Denotes x q := by
  rw [lt_iff] at positive
  change x.toModel.unpack.isFinite = true at finite
  change UnpackedFloat.lt (.zero .positive) x.toModel.unpack = true at positive
  unfold Denotes
  cases parts : x.toModel.unpack with
  | notANumber =>
    rw [parts] at finite
    cases finite
  | infinity s =>
    rw [parts] at finite
    cases finite
  | zero s =>
    rw [parts] at positive
    cases positive
  | finite s m e pos =>
    cases s with
    | negative =>
      rw [parts] at positive
      cases positive
    | positive =>
      obtain ⟨fits, bounded⟩ := fits_of_unpack parts
      exact ⟨m * 2 ^ e, mul_pos (Nat.cast_pos.2 pos) (zpow_two_pos e), .finite pos fits bounded⟩

end Binary64

end BenchCampaign
