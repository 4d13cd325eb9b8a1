import BenchCampaign.Proofs.Binary64.Rounding

/-!
# The nearest double

What a positive number is rounded to depends on that number alone: its size tells the last place
that a double has for it, and there the nearest multiple is taken, a half going to the even one.
From `2 ^ 1024` on that is infinity.  Greater numbers have no smaller last place and are not rounded
to less.

* `halfEven`: the nearest natural number.
* `LastPlace`, `lastPlace`: the exponent of the last place that a double has for a number.
* `nearestNumber`, `nearestNumber_mono`, `nearestNumber_eq_self`: rounding keeps the order, and
  keeps what fits into a double.
* `nearestValue`: rounding with infinity.
-/

namespace BenchCampaign

namespace Binary64

open Float.Model (UnpackedFloat Format totalExponent)
open Float.Model.UnpackedFloat

/-! ## Natural numbers -/

/-- The natural number nearest to a number that is not below zero, a half going to the even
neighbour. -/
def halfEven (x : ℚ) : ℕ :=
  if x < ⌊x⌋₊ + 1 / 2 then ⌊x⌋₊
  else if x = ⌊x⌋₊ + 1 / 2 then ⌊x⌋₊ + ⌊x⌋₊ % 2
  else ⌊x⌋₊ + 1

theorem floor_le_halfEven (x : ℚ) : ⌊x⌋₊ ≤ halfEven x := by
  unfold halfEven
  split
  · exact Nat.le_refl _
  · split <;> omega

theorem halfEven_le_succ_floor (x : ℚ) : halfEven x ≤ ⌊x⌋₊ + 1 := by
  unfold halfEven
  split
  · exact Nat.le_succ _
  · split <;> omega

theorem halfEven_of_lt {x : ℚ} (below : x < ⌊x⌋₊ + 1 / 2) : halfEven x = ⌊x⌋₊ := if_pos below

theorem halfEven_of_gt {x : ℚ} (above : ⌊x⌋₊ + 1 / 2 < x) : halfEven x = ⌊x⌋₊ + 1 := by
  unfold halfEven
  rw [if_neg (not_lt_of_gt above), if_neg above.ne']

@[simp]
theorem halfEven_natCast (n : ℕ) : halfEven n = n := by
  rw [halfEven_of_lt (by rw [Nat.floor_natCast]; linarith), Nat.floor_natCast]

theorem halfEven_mono {x y : ℚ} (le : x ≤ y) : halfEven x ≤ halfEven y := by
  rcases (Nat.floor_mono le).eq_or_lt with same | less
  · rcases lt_trichotomy x (⌊x⌋₊ + 1 / 2) with below | half | above
    · rw [halfEven_of_lt below, same]
      exact floor_le_halfEven y
    · rcases le.eq_or_lt with rfl | greater
      · exact Nat.le_refl _
      · have above : ⌊y⌋₊ + 1 / 2 < y := by rwa [← same, ← half]
        rw [halfEven_of_gt above, ← same]
        exact halfEven_le_succ_floor x
    · have above' : ⌊y⌋₊ + 1 / 2 < y := by rw [← same]; exact above.trans_le le
      rw [halfEven_of_gt above, halfEven_of_gt above', same]
  · calc halfEven x ≤ ⌊x⌋₊ + 1 := halfEven_le_succ_floor x
      _ ≤ ⌊y⌋₊ := less
      _ ≤ halfEven y := floor_le_halfEven y

theorem Describes.roundedMantissa_eq {em : ExtendedMantissa} {x : ℚ} (h : Describes em x) :
    em.roundedMantissa = halfEven x := by
  have floor : ⌊x⌋₊ = em.mantissa :=
    (Nat.floor_eq_iff ((Nat.cast_nonneg _).trans h.le)).2 ⟨h.le, h.lt_succ⟩
  obtain ⟨m, r, s⟩ := em
  unfold halfEven
  rw [floor]
  cases r <;> cases s <;> simp only [Describes] at h ⊢
  · exact (if_pos (by linarith)).symm
  · exact (if_pos (by linarith)).symm
  · rw [if_neg (by linarith), if_pos h]
    rfl
  · rw [if_neg (by linarith), if_neg (by linarith)]
    rfl

/-! ## Last places -/

/-- The exponent of the last place that a double has for a number. -/
structure LastPlace (q : ℚ) (t : ℤ) : Prop where
  least : -1074 ≤ t
  full : t = -1074 ∨ 2 ^ (52 : ℤ) * 2 ^ t ≤ q
  below : q < 2 ^ (53 : ℤ) * 2 ^ t

theorem Rounds.lastPlace {q : ℚ} {r : ℕ} {t : ℤ} (h : Rounds q r t) : LastPlace q t :=
  ⟨h.least, h.full, h.below⟩

theorem Fits.lastPlace {m : ℕ} {e : ℤ} (fits : Fits m e) : LastPlace (m * 2 ^ e) e := by
  have unit := zpow_two_pos e
  refine ⟨fits.least, ?_, ?_⟩
  · rcases fits.full with normal | subnormal
    · exact .inr (mul_le_mul_of_nonneg_right (by exact_mod_cast normal) unit.le)
    · exact .inl subnormal
  · exact mul_lt_mul_of_pos_right (by exact_mod_cast fits.length) unit

namespace LastPlace

variable {q q' : ℚ} {t t' : ℤ}

/-- Between two exponents of last places there is a whole number's worth of the greater one. -/
theorem between (h : LastPlace q t) (h' : LastPlace q' t') (less : t < t') :
    2 ^ (53 : ℤ) * (2 : ℚ) ^ t ≤ 2 ^ (52 : ℤ) * 2 ^ t' ∧ 2 ^ (52 : ℤ) * 2 ^ t' ≤ q' := by
  have least := h.least
  refine ⟨?_, h'.full.resolve_left (by omega)⟩
  rw [← zpow_two_add, ← zpow_two_add]
  exact zpow_two_le (by omega)

theorem mono (h : LastPlace q t) (h' : LastPlace q' t') (le : q ≤ q') : t ≤ t' := by
  by_contra less
  obtain ⟨places, full⟩ := h'.between h (not_le.1 less)
  exact absurd (h'.below.trans_le (places.trans full)) (not_lt_of_ge le)

theorem unique (h : LastPlace q t) (h' : LastPlace q t') : t = t' :=
  le_antisymm (h.mono h' le_rfl) (h'.mono h le_rfl)

end LastPlace

/-- The exponent of the last place that a double has for a number. -/
def lastPlace (q : ℚ) : ℤ := if q < 2 ^ (-1022 : ℤ) then -1074 else Int.log 2 q - 52

theorem lastPlace_spec (q : ℚ) : LastPlace q (lastPlace q) := by
  unfold lastPlace
  split
  next subnormal =>
    refine ⟨le_rfl, .inl rfl, subnormal.trans_le ?_⟩
    rw [← zpow_two_add]
    exact zpow_two_le (by decide)
  next normal =>
    have least : (2 : ℚ) ^ (-1022 : ℤ) ≤ q := not_lt.1 normal
    have above : (2 : ℚ) ^ Int.log 2 q ≤ q := by
      exact_mod_cast Int.zpow_log_le_self one_lt_two ((zpow_two_pos _).trans_le least)
    have below : q < (2 : ℚ) ^ (Int.log 2 q + 1) := by
      exact_mod_cast Int.lt_zpow_succ_log_self one_lt_two q
    have exponent := of_zpow_two_lt (least.trans_lt below)
    refine ⟨by omega, .inr ?_, ?_⟩
    · rwa [← zpow_two_add, show (52 : ℤ) + (Int.log 2 q - 52) = Int.log 2 q by omega]
    · rwa [← zpow_two_add, show (53 : ℤ) + (Int.log 2 q - 52) = Int.log 2 q + 1 by omega]

/-! ## Rounding -/

/-- A number rounded to a multiple of its last place. -/
def nearestNumber (q : ℚ) : ℚ := halfEven (q / 2 ^ lastPlace q) * 2 ^ lastPlace q

theorem LastPlace.nearestNumber_eq {q : ℚ} {t : ℤ} (h : LastPlace q t) :
    nearestNumber q = halfEven (q / 2 ^ t) * 2 ^ t := by
  rw [nearestNumber, (lastPlace_spec q).unique h]

/-- What fits into a double is not rounded. -/
theorem nearestNumber_eq_self {m : ℕ} {e : ℤ} (fits : Fits m e) :
    nearestNumber (m * 2 ^ e) = m * 2 ^ e := by
  rw [fits.lastPlace.nearestNumber_eq, mul_div_cancel_right₀ _ (zpow_two_pos e).ne',
    halfEven_natCast]

/-- Powers of two are not rounded. -/
theorem nearestNumber_two_pow (k : ℕ) : nearestNumber (2 ^ k) = 2 ^ k := by
  have fits : Fits (2 ^ 52) ((k : ℤ) - 52) := ⟨by decide, by omega, .inl le_rfl⟩
  have whole : ((2 ^ 52 : ℕ) : ℚ) * 2 ^ ((k : ℤ) - 52) = 2 ^ k := by
    rw [Nat.cast_pow, Nat.cast_ofNat, ← zpow_natCast, ← zpow_natCast, ← zpow_two_add]
    congr 1
    omega
  rw [← whole, nearestNumber_eq_self fits]

/-- Rounding keeps the order. -/
theorem nearestNumber_mono {q q' : ℚ} (le : q ≤ q') : nearestNumber q ≤ nearestNumber q' := by
  have place := lastPlace_spec q
  have place' := lastPlace_spec q'
  rw [place.nearestNumber_eq, place'.nearestNumber_eq]
  have unit := zpow_two_pos (lastPlace q)
  have unit' := zpow_two_pos (lastPlace q')
  rcases (place.mono place' le).eq_or_lt with same | less
  · rw [same]
    refine mul_le_mul_of_nonneg_right (Nat.cast_le.2 (halfEven_mono ?_)) unit'.le
    exact div_le_div_of_nonneg_right le unit'.le
  · -- The power of two between the numbers is a multiple of both last places.
    obtain ⟨places, full⟩ := place.between place' less
    have below : halfEven (q / 2 ^ lastPlace q) ≤ 2 ^ 53 := by
      rw [← halfEven_natCast (2 ^ 53)]
      refine halfEven_mono ?_
      rw [div_le_iff₀ unit]
      exact_mod_cast place.below.le
    have above : 2 ^ 52 ≤ halfEven (q' / 2 ^ lastPlace q') := by
      rw [← halfEven_natCast (2 ^ 52)]
      refine halfEven_mono ?_
      rw [le_div_iff₀ unit']
      exact_mod_cast full
    calc (halfEven (q / 2 ^ lastPlace q) : ℚ) * 2 ^ lastPlace q
        ≤ 2 ^ (53 : ℤ) * 2 ^ lastPlace q :=
          mul_le_mul_of_nonneg_right (by exact_mod_cast below) unit.le
      _ ≤ 2 ^ (52 : ℤ) * 2 ^ lastPlace q' := places
      _ ≤ halfEven (q' / 2 ^ lastPlace q') * 2 ^ lastPlace q' :=
          mul_le_mul_of_nonneg_right (by exact_mod_cast above) unit'.le

/-! ## Infinity -/

/-- A number rounded to a double: there is none from `2 ^ 1024` on, which is infinity. -/
def nearestValue : WithTop ℚ → WithTop ℚ
  | none => ⊤
  | some q => if nearestNumber q < 2 ^ (1024 : ℤ) then nearestNumber q else ⊤

theorem nearestValue_coe (q : ℚ) :
    nearestValue q =
      if nearestNumber q < 2 ^ (1024 : ℤ) then (nearestNumber q : WithTop ℚ) else ⊤ := rfl

theorem nearestValue_mono {u v : WithTop ℚ} (le : u ≤ v) : nearestValue u ≤ nearestValue v := by
  cases v with
  | top => exact le_top
  | coe q' =>
    obtain ⟨q, rfl, less⟩ := WithTop.le_coe_iff.1 le
    have rounded := nearestNumber_mono less
    rw [nearestValue_coe, nearestValue_coe]
    split
    next =>
      split
      next => exact WithTop.coe_le_coe.2 rounded
      next => exact le_top
    next large =>
      rw [if_neg fun small => large (rounded.trans_lt small)]

section Parts

variable {q : ℚ} {m : ℕ} {e : ℤ}

theorem nearestValue_of_fits (nearest : nearestNumber q = m * 2 ^ e) (fits : Fits m e)
    (bounded : e ≤ 971) : nearestValue q = (m * 2 ^ e : ℚ) := by
  have small : (m : ℚ) * 2 ^ e < 2 ^ (1024 : ℤ) := by
    calc (m : ℚ) * 2 ^ e < 2 ^ (53 : ℤ) * 2 ^ e := fits.lastPlace.below
      _ ≤ 2 ^ (1024 : ℤ) := by
        rw [← zpow_two_add]
        exact zpow_two_le (by omega)
  rw [nearestValue_coe, nearest, if_pos small]

/-- With an exponent too large for a double a number is infinite. -/
theorem nearestValue_of_large (nearest : nearestNumber q = m * 2 ^ e) (fits : Fits m e)
    (large : 972 ≤ e) : nearestValue q = ⊤ := by
  have above : (2 : ℚ) ^ (1024 : ℤ) ≤ m * 2 ^ e := by
    calc (2 : ℚ) ^ (1024 : ℤ) ≤ 2 ^ (52 : ℤ) * 2 ^ e := by
          rw [← zpow_two_add]
          exact zpow_two_le (by omega)
      _ ≤ m * 2 ^ e := fits.lastPlace.full.resolve_left (by omega)
  rw [nearestValue_coe, nearest, if_neg (not_lt_of_ge above)]

/-- A double has its own value after rounding. -/
theorem nearestValue_eq_self (fits : Fits m e) (bounded : e ≤ 971) :
    nearestValue (m * 2 ^ e : ℚ) = (m * 2 ^ e : ℚ) :=
  nearestValue_of_fits (nearestNumber_eq_self fits) fits bounded

end Parts

theorem nearestValue_zero : nearestValue 0 = 0 := by
  have fits : Fits 0 (-1074) := ⟨by decide, le_rfl, .inr rfl⟩
  have kept := nearestValue_eq_self fits (by decide)
  rwa [Nat.cast_zero, zero_mul] at kept

/-- Powers of two are doubles. -/
theorem nearestValue_two_pow {k : ℕ} (bounded : k ≤ 1023) :
    nearestValue ((2 : ℚ) ^ k) = ((2 : ℚ) ^ k : ℚ) := by
  have limit : (2 : ℚ) ^ k < 2 ^ 1024 := pow_lt_pow_right₀ one_lt_two (by omega)
  rw [← WithTop.coe_pow, nearestValue_coe, nearestNumber_two_pow, if_pos (by exact_mod_cast limit)]

/-- Up to the first number of more than 64 bits, nothing is rounded to infinity. -/
theorem nearestValue_of_le {q : ℚ} (le : q ≤ 2 ^ 64) : nearestValue q = nearestNumber q := by
  have rounded := nearestNumber_mono le
  rw [nearestNumber_two_pow] at rounded
  have limit : (2 : ℚ) ^ 64 < 2 ^ 1024 := pow_lt_pow_right₀ one_lt_two (by decide)
  have small : nearestNumber q < 2 ^ (1024 : ℤ) := rounded.trans_lt (by exact_mod_cast limit)
  rw [nearestValue_coe, if_pos small]

end Binary64

end BenchCampaign
