import BenchCampaign.Proofs.Binary64.Packing

/-!
# Rounding

The arithmetic of doubles computes a mantissa with more digits than a double has, and two bits
that tell how much is behind them.  The digits to spare are shifted out, and the rest is rounded to
the nearest mantissa.  What is said here of the result is said in exact numbers: it is at most half
a unit of its last place away, and no power of two lies between.

* `Binary64.Describes`: what a mantissa and its two bits say of a number.
* `Binary64.rounds_of_describes`: a number and what it is rounded to.
* `Binary64.Rounds.zpow_le`, `Binary64.Rounds.le_zpow`: rounding does not pass powers of two.
* `Binary64.IsRounded`, `Binary64.IsRounded.zero_or_finite`: results, and the parts that they have.
-/

namespace BenchCampaign

namespace Binary64

open Float.Model (UnpackedFloat Format totalExponent)
open Float.Model.UnpackedFloat

/-! ## Mantissas with two bits behind them -/

/-- What a mantissa and the two bits behind it say of a number that is measured in units of the
mantissa's last place. -/
def Describes (em : ExtendedMantissa) (x : ℚ) : Prop :=
  match em.roundBit, em.stickyBit with
  | false, false => x = em.mantissa
  | false, true => em.mantissa < x ∧ x < em.mantissa + 1 / 2
  | true, false => x = em.mantissa + 1 / 2
  | true, true => em.mantissa + 1 / 2 < x ∧ x < em.mantissa + 1

theorem describes_exact (m : ℕ) :
    Describes (ExtendedMantissa.ofMantissaAndAccuracy m .exact) m := rfl

theorem describes_fraction (m num den : ℕ) (proper : num < den) :
    Describes (ExtendedMantissa.ofMantissaAndAccuracy m (accuracyOfFraction num den))
      (m + num / den) := by
  have size : (0 : ℚ) < den := by exact_mod_cast Nat.zero_lt_of_lt proper
  have below : (num : ℚ) / den < 1 := (div_lt_one size).2 (by exact_mod_cast proper)
  unfold accuracyOfFraction
  by_cases none : num = 0
  · simp [none, ExtendedMantissa.ofMantissaAndAccuracy, Describes]
  · have some : (0 : ℚ) < num / den :=
      div_pos (by exact_mod_cast Nat.pos_of_ne_zero none) size
    rw [if_neg none]
    rcases lt_trichotomy (2 * num) den with less | half | more
    · have less' : (2 * num : ℚ) < den := by exact_mod_cast less
      have half : (num : ℚ) / den < 1 / 2 := (div_lt_iff₀ size).2 (by linarith)
      rw [Nat.compare_eq_lt.2 less]
      constructor <;> simp only [ExtendedMantissa.ofMantissaAndAccuracy] <;> linarith
    · have half' : (2 * num : ℚ) = den := by exact_mod_cast half
      rw [Nat.compare_eq_eq.2 half]
      change (m : ℚ) + num / den = m + 1 / 2
      rw [div_eq_iff size.ne' |>.2 (by linarith : (num : ℚ) = 1 / 2 * den)]
    · have more' : (den : ℚ) < 2 * num := by exact_mod_cast more
      have half : 1 / 2 < (num : ℚ) / den := (lt_div_iff₀ size).2 (by linarith)
      rw [Nat.compare_eq_gt.2 more]
      constructor <;> simp only [ExtendedMantissa.ofMantissaAndAccuracy] <;> linarith

namespace Describes

variable {em : ExtendedMantissa} {x : ℚ}

theorem le (h : Describes em x) : (em.mantissa : ℚ) ≤ x := by
  obtain ⟨m, r, s⟩ := em
  cases r <;> cases s <;> simp only [Describes] at h ⊢ <;> linarith

theorem lt_succ (h : Describes em x) : x < em.mantissa + 1 := by
  obtain ⟨m, r, s⟩ := em
  cases r <;> cases s <;> simp only [Describes] at h ⊢ <;> linarith

/-- A place to the right, what is in front of it is halved. -/
theorem shiftRightOne (h : Describes em x) : Describes em.shiftRightOne (x / 2) := by
  obtain ⟨m, r, s⟩ := em
  have parts : ((m % 2 : ℕ) : ℚ) + 2 * ((m / 2 : ℕ) : ℚ) = m := by
    exact_mod_cast Nat.mod_add_div m 2
  rcases Nat.mod_two_eq_zero_or_one m with even | odd
  · rw [even, Nat.cast_zero, zero_add] at parts
    cases r <;> cases s <;>
      simp only [Describes, ExtendedMantissa.shiftRightOne, even, bne_self_eq_false,
        Bool.false_or, Bool.true_or] at h ⊢
    · linarith
    all_goals constructor <;> linarith
  · rw [odd, Nat.cast_one] at parts
    cases r <;> cases s <;>
      simp only [Describes, ExtendedMantissa.shiftRightOne, odd,
        Bool.false_or, Bool.true_or] at h ⊢
    · change x / 2 = _
      linarith
    all_goals constructor <;> linarith

theorem shiftRight (h : Describes em x) (n : ℕ) : Describes (em >>> n) (x / 2 ^ n) := by
  change Describes (n.repeat ExtendedMantissa.shiftRightOne em) _
  induction n with
  | zero => simpa [Nat.repeat] using h
  | succ n ih =>
    rw [Nat.repeat, pow_succ, ← div_div]
    exact ih.shiftRightOne

/-- The rounded mantissa is at most half a unit away. -/
theorem roundedMantissa (h : Describes em x) :
    x - 1 / 2 ≤ em.roundedMantissa ∧ (em.roundedMantissa : ℚ) ≤ x + 1 / 2 := by
  obtain ⟨m, r, s⟩ := em
  have parity : ((m % 2 : ℕ) : ℚ) ≤ 1 := by exact_mod_cast Nat.le_of_lt_succ (Nat.mod_lt m two_pos)
  have parity' : (0 : ℚ) ≤ (m % 2 : ℕ) := Nat.cast_nonneg _
  cases r <;> cases s <;>
    simp only [Describes, ExtendedMantissa.roundedMantissa, ExtendedMantissa.accuracy,
      Accuracy.roundToNearestEven] at h ⊢ <;>
    push_cast at parity parity' ⊢ <;> constructor <;> linarith

end Describes

/-! ## Shifts -/

theorem targetExponent_eq (m : ℕ) (e : ℤ) :
    Format.binary64.targetExponent (totalExponent m e) = max ((m.log2 : ℤ) + e - 52) (-1074) := by
  simp only [Format.targetExponent, totalExponent, Format.mantissaBits, Format.minExponent]
  norm_num
  omega

/-- The exponent of a double's last place, where the mantissa has digits enough for it. -/
structure Precise (m : ℕ) (e t : ℤ) : Prop where
  target : t = max ((m.log2 : ℤ) + e - 52) (-1074)
  enough : e ≤ t

theorem shiftToTargetExponent_eq {m : ℕ} {e t : ℤ} (precise : Precise m e t) (a : Accuracy) :
    shiftToTargetExponent Format.binary64 m e a =
      (ExtendedMantissa.ofMantissaAndAccuracy m a >>> (t - e).toNat, t) := by
  have amount : e + ((t - e).toNat : ℤ) = t := by
    rw [Int.toNat_of_nonneg (Int.sub_nonneg.2 precise.enough)]
    omega
  simp only [shiftToTargetExponent, targetExponent_eq, ← precise.target, shiftToExponent, amount]

/-- A mantissa with digits to spare is shifted one place at most, when rounding made it too long. -/
theorem shiftToTargetExponent_rounded {r : ℕ} {t : ℤ} (fits : r ≤ 2 ^ 53) (least : -1074 ≤ t) :
    shiftToTargetExponent Format.binary64 r t .exact =
      if r = 2 ^ 53 then (⟨2 ^ 52, false, false⟩, t + 1) else (⟨r, false, false⟩, t) := by
  split
  next long =>
    have precise : Precise r t (t + 1) := by
      refine ⟨?_, by omega⟩
      rw [long, Nat.log2_two_pow]
      omega
    rw [shiftToTargetExponent_eq precise, long, show (t + 1 - t).toNat = 1 by omega]
    rfl
  next short =>
    have digits : r.log2 ≤ 52 := by
      rcases Nat.eq_zero_or_pos r with zero | pos
      · simp [zero]
      · exact Nat.le_of_lt_succ ((Nat.log2_lt pos.ne').2 (by omega))
    have amount : (max ((r.log2 : ℤ) + t - 52) (-1074) - t).toNat = 0 := by omega
    simp only [shiftToTargetExponent, targetExponent_eq, shiftToExponent, amount]
    rw [Nat.cast_zero, add_zero]
    rfl

/-! ## Powers of two -/

theorem zpow_two_pos (e : ℤ) : (0 : ℚ) < 2 ^ e := zpow_pos two_pos e

theorem zpow_two_add (a b : ℤ) : (2 : ℚ) ^ (a + b) = 2 ^ a * 2 ^ b := zpow_add₀ two_ne_zero a b

theorem zpow_two_le {a b : ℤ} (le : a ≤ b) : (2 : ℚ) ^ a ≤ 2 ^ b :=
  zpow_le_zpow_right₀ one_le_two le

theorem of_zpow_two_lt {a b : ℤ} (lt : (2 : ℚ) ^ a < 2 ^ b) : a < b :=
  (zpow_lt_zpow_iff_right₀ one_lt_two).1 lt

/-! ## Rounding -/

/-- A number `q`, and what it is rounded to in units of `2 ^ t`. -/
structure Rounds (q : ℚ) (r : ℕ) (t : ℤ) : Prop where
  least : -1074 ≤ t
  full : t = -1074 ∨ 2 ^ (52 : ℤ) * 2 ^ t ≤ q
  below : q < 2 ^ (53 : ℤ) * 2 ^ t
  lower : q - 2 ^ t / 2 ≤ r * 2 ^ t
  upper : r * 2 ^ t ≤ q + 2 ^ t / 2

/-- The first shift measures a number in units of its last place. -/
theorem describes_shiftToTargetExponent {m : ℕ} {e t : ℤ} {a : Accuracy} {q : ℚ}
    (precise : Precise m e t)
    (describes : Describes (ExtendedMantissa.ofMantissaAndAccuracy m a) (q / 2 ^ e)) :
    Describes (shiftToTargetExponent Format.binary64 m e a).1 (q / 2 ^ t) := by
  have scale : (2 : ℚ) ^ e * 2 ^ (t - e).toNat = 2 ^ t := by
    rw [← zpow_natCast, ← zpow_two_add, Int.toNat_of_nonneg (Int.sub_nonneg.2 precise.enough)]
    congr 1
    omega
  rw [shiftToTargetExponent_eq precise, ← scale, ← div_div]
  exact describes.shiftRight (t - e).toNat

theorem rounds_of_describes {m : ℕ} {e t : ℤ} {a : Accuracy} {q : ℚ} (precise : Precise m e t)
    (describes : Describes (ExtendedMantissa.ofMantissaAndAccuracy m a) (q / 2 ^ e)) :
    Rounds q (shiftToTargetExponent Format.binary64 m e a).1.roundedMantissa t := by
  have mantissa : (ExtendedMantissa.ofMantissaAndAccuracy m a).mantissa = m := by
    cases a with
    | exact => rfl
    | inexact o => cases o <;> rfl
  have le : m * 2 ^ e ≤ q := by
    have := describes.le
    rwa [mantissa, le_div_iff₀ (zpow_two_pos e)] at this
  have lt : q < (m + 1) * 2 ^ e := by
    have := describes.lt_succ
    rwa [mantissa, div_lt_iff₀ (zpow_two_pos e)] at this
  have shifted := describes_shiftToTargetExponent precise describes
  have unit := zpow_two_pos t
  refine ⟨by rw [precise.target]; exact le_max_right _ _, ?_, ?_, ?_, ?_⟩
  · by_cases subnormal : t = -1074
    · exact .inl subnormal
    · have target := precise.target
      have enough := precise.enough
      have nonzero : m ≠ 0 := by
        rintro rfl
        rw [Nat.log2_zero] at target
        omega
      have digits : (2 : ℚ) ^ (m.log2 : ℤ) ≤ m := by
        rw [zpow_natCast]
        exact_mod_cast Nat.log2_self_le nonzero
      right
      calc (2 : ℚ) ^ (52 : ℤ) * 2 ^ t = 2 ^ (m.log2 : ℤ) * 2 ^ e := by
            rw [← zpow_two_add, ← zpow_two_add]
            congr 1
            omega
        _ ≤ m * 2 ^ e := mul_le_mul_of_nonneg_right digits (zpow_two_pos e).le
        _ ≤ q := le
  · have digits : (m : ℚ) + 1 ≤ 2 ^ ((m.log2 : ℤ) + 1) := by
      have : m + 1 ≤ 2 ^ (m.log2 + 1) := Nat.lt_log2_self
      exact_mod_cast this
    calc q < (m + 1) * 2 ^ e := lt
      _ ≤ 2 ^ ((m.log2 : ℤ) + 1) * 2 ^ e := mul_le_mul_of_nonneg_right digits (zpow_two_pos e).le
      _ ≤ 2 ^ (53 : ℤ) * 2 ^ t := by
        rw [← zpow_two_add, ← zpow_two_add]
        refine zpow_two_le ?_
        have target := precise.target
        omega
  · have near := shifted.roundedMantissa.1
    rw [div_sub' unit.ne', div_le_iff₀ unit] at near
    linarith
  · have near := shifted.roundedMantissa.2
    rw [div_add' _ _ _ unit.ne', le_div_iff₀ unit] at near
    linarith

namespace Rounds

variable {q : ℚ} {r : ℕ} {t i j : ℤ}

theorem le_two_pow (h : Rounds q r t) : r ≤ 2 ^ 53 := by
  have unit := zpow_two_pos t
  have bound : (r : ℚ) * 2 ^ t < (2 ^ 53 + 1) * 2 ^ t := by
    have := h.upper
    have := h.below
    norm_num at *
    linarith
  exact Nat.le_of_lt_succ (by exact_mod_cast lt_of_mul_lt_mul_right bound unit.le)

theorem two_pow_le (h : Rounds q r t) (full : 2 ^ (52 : ℤ) * 2 ^ t ≤ q) : 2 ^ 52 ≤ r := by
  have unit := zpow_two_pos t
  have bound : (2 ^ 52 : ℚ) * 2 ^ t < (r + 1) * 2 ^ t := by
    have := h.lower
    norm_num at *
    linarith
  exact Nat.le_of_lt_succ (by exact_mod_cast lt_of_mul_lt_mul_right bound unit.le)

/-- Rounding does not pass a power of two on the way down. -/
theorem zpow_le (h : Rounds q r t) (normal : -1022 ≤ i) (le : 2 ^ i ≤ q) :
    2 ^ 52 ≤ r ∧ (2 : ℚ) ^ i ≤ r * 2 ^ t := by
  have exponent : i < 53 + t := by
    refine of_zpow_two_lt (le.trans_lt ?_)
    rw [zpow_two_add]
    exact h.below
  have full : 2 ^ (52 : ℤ) * 2 ^ t ≤ q := by
    rcases h.full with least | full
    · rw [← zpow_two_add, show (52 : ℤ) + t = i by omega]
      exact le
    · exact full
  have mantissa := h.two_pow_le full
  refine ⟨mantissa, ?_⟩
  calc (2 : ℚ) ^ i ≤ 2 ^ (52 + t) := zpow_two_le (by omega)
    _ = 2 ^ (52 : ℤ) * 2 ^ t := zpow_two_add 52 t
    _ ≤ r * 2 ^ t := by
      refine mul_le_mul_of_nonneg_right ?_ (zpow_two_pos t).le
      exact_mod_cast mantissa

/-- Rounding does not pass a power of two on the way up, nor leave it for less than half a unit
of its last place. -/
theorem le_zpow (h : Rounds q r t) (normal : -1022 ≤ j) (lt : q < 2 ^ j + 2 ^ (j - 53)) :
    r * 2 ^ t ≤ (2 : ℚ) ^ j := by
  have unit := zpow_two_pos t
  rcases lt_trichotomy t (j - 52) with small | same | large
  · have bound : (r : ℚ) ≤ 2 ^ (53 : ℤ) := by exact_mod_cast h.le_two_pow
    calc r * 2 ^ t ≤ 2 ^ (53 : ℤ) * (2 : ℚ) ^ t := mul_le_mul_of_nonneg_right bound unit.le
      _ = 2 ^ (53 + t) := (zpow_two_add 53 t).symm
      _ ≤ 2 ^ j := zpow_two_le (by omega)
  · have whole : (2 : ℚ) ^ j = 2 ^ 52 * 2 ^ t := by
      rw [show j = 52 + t by omega, zpow_two_add]
      rfl
    have half : (2 : ℚ) ^ (j - 53) = 2 ^ t / 2 := by
      rw [show j - 53 = t + -1 by omega, zpow_two_add, zpow_neg_one, div_eq_mul_inv]
    have bound : (r : ℚ) * 2 ^ t < (2 ^ 52 + 1) * 2 ^ t := by
      have := h.upper
      rw [whole, half] at lt
      linarith
    have mantissa : r ≤ 2 ^ 52 :=
      Nat.le_of_lt_succ (by exact_mod_cast lt_of_mul_lt_mul_right bound unit.le)
    rw [whole]
    exact mul_le_mul_of_nonneg_right (by exact_mod_cast mantissa) unit.le
  · exfalso
    have full : 2 ^ (52 : ℤ) * 2 ^ t ≤ q := h.full.resolve_left (by omega)
    have above : (2 : ℚ) ^ (j + 1) ≤ 2 ^ (52 : ℤ) * 2 ^ t := by
      rw [← zpow_two_add]
      exact zpow_two_le (by omega)
    have less : (2 : ℚ) ^ (j - 53) ≤ 2 ^ j := zpow_two_le (by omega)
    rw [zpow_two_add, zpow_one] at above
    linarith

end Rounds

/-- The second shift gives the rounded mantissa a double's length again. -/
theorem exists_roundWithAccuracy (s : Sign) {m r : ℕ} {e t : ℤ} {a : Accuracy} {q : ℚ}
    (precise : Precise m e t)
    (rounded : (shiftToTargetExponent Format.binary64 m e a).1.roundedMantissa = r)
    (rounds : Rounds q r t) (nonzero : 0 < r) :
    ∃ m' e' pos, roundWithAccuracy Format.binary64 s m e a = .finite s m' e' pos ∧ Fits m' e' ∧
      (m' : ℚ) * 2 ^ e' = r * 2 ^ t := by
  have full : 2 ^ 52 ≤ r ∨ t = -1074 := rounds.full.symm.imp_left rounds.two_pow_le
  have least := rounds.least
  have fits := rounds.le_two_pow
  have exponent : (shiftToTargetExponent Format.binary64 m e a).2 = t := by
    rw [shiftToTargetExponent_eq precise]
  have second := shiftToTargetExponent_rounded fits least
  unfold roundWithAccuracy
  dsimp only
  rw [rounded, exponent]
  by_cases long : r = 2 ^ 53
  · rw [if_pos long] at second
    refine ⟨2 ^ 52, t + 1, Nat.two_pow_pos 52, ?_, ⟨by norm_num, by omega, .inl le_rfl⟩, ?_⟩
    · simp only [second]
      exact dif_neg (Nat.two_pow_pos 52).ne'
    · rw [long, zpow_two_add]
      norm_num
      ring
  · rw [if_neg long] at second
    refine ⟨r, t, nonzero, ?_, ⟨by omega, least, full⟩, rfl⟩
    simp only [second]
    exact dif_neg nonzero.ne'

/-- What is rounded to nothing is zero. -/
theorem roundWithAccuracy_eq_zero (s : Sign) {m : ℕ} {e t : ℤ} {a : Accuracy}
    (precise : Precise m e t) (least : -1074 ≤ t)
    (rounded : (shiftToTargetExponent Format.binary64 m e a).1.roundedMantissa = 0) :
    roundWithAccuracy Format.binary64 s m e a = .zero s := by
  have exponent : (shiftToTargetExponent Format.binary64 m e a).2 = t := by
    rw [shiftToTargetExponent_eq precise]
  have second := shiftToTargetExponent_rounded (Nat.zero_le (2 ^ 53)) least
  rw [if_neg (by norm_num)] at second
  unfold roundWithAccuracy
  dsimp only
  rw [rounded, exponent]
  simp only [second]
  exact dif_pos trivial

/-! ## Results -/

/-- A result of the arithmetic, and the number of which it is the rounding: there is a mantissa of
the number that has digits enough and was rounded. -/
def IsRounded (u : UnpackedFloat) (q : ℚ) : Prop :=
  ∃ m e t a, Precise m e t ∧
    Describes (ExtendedMantissa.ofMantissaAndAccuracy m a) (q / 2 ^ e) ∧
    u = roundWithAccuracy Format.binary64 .positive m e a

/-- A result is zero, or has the parts of a double. -/
theorem IsRounded.zero_or_finite {u : UnpackedFloat} {q : ℚ} (h : IsRounded u q) :
    ∃ em t, Describes em (q / 2 ^ t) ∧ Rounds q em.roundedMantissa t ∧
      (em.roundedMantissa = 0 ∧ u = .zero .positive ∨
        ∃ m e pos, u = .finite .positive m e pos ∧ Fits m e ∧
          (m : ℚ) * 2 ^ e = em.roundedMantissa * 2 ^ t) := by
  obtain ⟨m, e, t, a, precise, describes, rfl⟩ := h
  have rounds := rounds_of_describes precise describes
  refine ⟨_, t, describes_shiftToTargetExponent precise describes, rounds, ?_⟩
  rcases Nat.eq_zero_or_pos
    (shiftToTargetExponent Format.binary64 m e a).1.roundedMantissa with none | some
  · exact .inl ⟨none, roundWithAccuracy_eq_zero .positive precise rounds.least none⟩
  · exact .inr (exists_roundWithAccuracy .positive precise rfl rounds some)

end Binary64

end BenchCampaign
