import BenchCampaign.Proofs.Binary64.Rounding

/-!
# Positive doubles between powers of two

A computation with positive doubles neither overflows nor vanishes if its exact value stays away
from both ends of the format.  Powers of two are doubles, so rounding never moves a number across
one, and it is enough to know the powers of two that a number lies between.  A long sum stays
where it is once it is too large for a further summand to change it.

* `isRounded_add`, `isRounded_mul`, `isRounded_div`: each operation is the exact one, rounded.
* `IsRounded.between`: rounding keeps a number between two powers of two.
* `HasValue.add`, `HasValue.div`: sums and quotients lie where the exact ones lie.
* `Between.add`: a small summand does not take a sum across a power of two.
* `hasValue_ofNat`, `between_ofNat`: the double nearest to a natural number.
-/

namespace BenchCampaign

namespace Binary64

open Float.Model (UnpackedFloat Format totalExponent)
open Float.Model.UnpackedFloat

/-! ## Positive numbers -/

/-- A double that is a positive number, and which. -/
def HasValue (x : Float) (q : ℚ) : Prop :=
  ∃ m e pos, x.toModel.unpack = .finite .positive m e pos ∧ q = m * 2 ^ e

/-- A positive double between two powers of two. -/
def Between (x : Float) (i j : ℤ) : Prop :=
  ∃ q, HasValue x q ∧ 2 ^ i ≤ q ∧ q ≤ 2 ^ j

theorem Between.mono {x : Float} {i j i' j' : ℤ} (h : Between x i j) (lower : i' ≤ i)
    (upper : j ≤ j') : Between x i' j' := by
  obtain ⟨q, value, above, below⟩ := h
  exact ⟨q, value, (zpow_two_le lower).trans above, below.trans (zpow_two_le upper)⟩

/-- Rounding keeps a number between two powers of two. -/
theorem IsRounded.between {u : UnpackedFloat} {q : ℚ} {i j : ℤ} (h : IsRounded u q)
    (least : -1022 ≤ i) (most : j ≤ 1023) (above : 2 ^ i ≤ q) (below : q < 2 ^ j + 2 ^ (j - 53)) :
    Between (.ofModel (.pack u)) i j := by
  obtain ⟨em, t, -, rounds, zero | ⟨m, e, pos, rfl, fits, value⟩⟩ := h.zero_or_finite
  · have full := (rounds.zpow_le least above).1
    omega
  have ordered : i < j + 1 := by
    refine of_zpow_two_lt (above.trans_lt (below.trans_le ?_))
    have less : (2 : ℚ) ^ (j - 53) ≤ 2 ^ j := zpow_two_le (by omega)
    rw [zpow_two_add, zpow_one]
    linarith
  have lower := (rounds.zpow_le least above).2
  have upper := rounds.le_zpow (by omega) below
  rw [← value] at lower upper
  have bounded : e ≤ 971 := by
    rcases fits.full with normal | subnormal
    · have mantissa : (2 : ℚ) ^ (52 : ℤ) ≤ m := by exact_mod_cast normal
      have exponent : (2 : ℚ) ^ (52 + e) < 2 ^ (1024 : ℤ) := by
        calc (2 : ℚ) ^ (52 + e) = 2 ^ (52 : ℤ) * 2 ^ e := zpow_two_add 52 e
          _ ≤ m * 2 ^ e := mul_le_mul_of_nonneg_right mantissa (zpow_two_pos e).le
          _ ≤ 2 ^ j := upper
          _ < 2 ^ (1024 : ℤ) := zpow_lt_zpow_right₀ one_lt_two (by omega)
      have := of_zpow_two_lt exponent
      omega
    · omega
  exact ⟨m * 2 ^ e, ⟨m, e, pos, unpack_pack_finite .positive fits bounded pos, rfl⟩, lower, upper⟩

/-! ## Sums -/

theorem cast_shiftLeft (m k : ℕ) (e : ℤ) :
    ((m <<< k : ℕ) : ℚ) * 2 ^ (e - k) = m * 2 ^ e := by
  rw [Nat.shiftLeft_eq, Nat.cast_mul, Nat.cast_pow, Nat.cast_ofNat, mul_assoc, ← zpow_natCast,
    ← zpow_two_add]
  congr 2
  omega

/-- A mantissa is shifted to a smaller exponent. -/
theorem cast_shiftLeft_toNat (m : ℕ) {e f : ℤ} (le : f ≤ e) :
    ((m <<< (e - f).toNat : ℕ) : ℚ) * 2 ^ f = m * 2 ^ e := by
  rw [← cast_shiftLeft m (e - f).toNat e]
  congr 2
  omega

theorem log2_shiftLeft {m : ℕ} (pos : 0 < m) (k : ℕ) : (m <<< k).log2 = m.log2 + k := by
  induction k with
  | zero => rfl
  | succ k ih =>
    have nonzero : m <<< k ≠ 0 := by
      rw [Nat.shiftLeft_eq]
      exact (Nat.mul_pos pos (Nat.two_pow_pos k)).ne'
    rw [Nat.shiftLeft_succ, Nat.log2_two_mul nonzero, ih, Nat.add_assoc]

/-- A number is rounded whatever its exponent. -/
theorem isRounded_round {m : ℕ} (pos : 0 < m) (e : ℤ) :
    IsRounded (UnpackedFloat.round Format.binary64 .positive m e) (m * 2 ^ e) := by
  let t := max ((m.log2 : ℤ) + e - 52) (-1074)
  let k := (e - t).toNat
  refine ⟨m <<< k, e - k, t, .exact, ⟨?_, by omega⟩, ?_, ?_⟩
  · rw [log2_shiftLeft pos]
    push_cast
    omega
  · rw [← cast_shiftLeft m k e, mul_div_cancel_right₀ _ (zpow_two_pos _).ne']
    exact describes_exact _
  · unfold UnpackedFloat.round
    rw [targetExponent_eq]
    rfl

theorem add_finite {m n : ℕ} (e f : ℤ) (pos : 0 < m) (pos' : 0 < n) :
    UnpackedFloat.add Format.binary64 (.finite .positive m e pos) (.finite .positive n f pos') =
      UnpackedFloat.round Format.binary64 .positive
        (m <<< (e - min e f).toNat + n <<< (f - min e f).toNat) (min e f) := by
  have sum : 0 < m <<< (e - min e f).toNat + n <<< (f - min e f).toNat := by
    rw [Nat.shiftLeft_eq]
    exact Nat.add_pos_left (Nat.mul_pos pos (Nat.two_pow_pos _)) _
  change UnpackedFloat.normalize Format.binary64 (((m <<< (e - min e f).toNat : ℕ) : ℤ) +
    ((n <<< (f - min e f).toNat : ℕ) : ℤ)) (min e f) .positive = _
  rw [← Nat.cast_add, UnpackedFloat.normalize, Int.compare_eq_gt.2 (by exact_mod_cast sum)]
  rfl

/-- A sum of positive numbers is the exact one, rounded. -/
theorem isRounded_add {m n : ℕ} (e f : ℤ) (pos : 0 < m) (pos' : 0 < n) :
    IsRounded (UnpackedFloat.add Format.binary64 (.finite .positive m e pos)
      (.finite .positive n f pos')) (m * 2 ^ e + n * 2 ^ f) := by
  have sum : ((m <<< (e - min e f).toNat + n <<< (f - min e f).toNat : ℕ) : ℚ) * 2 ^ min e f =
      m * 2 ^ e + n * 2 ^ f := by
    rw [Nat.cast_add, add_mul, cast_shiftLeft_toNat m (min_le_left e f),
      cast_shiftLeft_toNat n (min_le_right e f)]
  rw [add_finite, ← sum]
  refine isRounded_round ?_ _
  rw [Nat.shiftLeft_eq]
  exact Nat.add_pos_left (Nat.mul_pos pos (Nat.two_pow_pos _)) _

/-- A sum of positive doubles lies where the exact sum lies. -/
theorem HasValue.add {x y : Float} {p q : ℚ} {i j : ℤ} (first : HasValue x p)
    (second : HasValue y q) (least : -1022 ≤ i) (most : j ≤ 1023) (above : 2 ^ i ≤ p + q)
    (below : p + q < 2 ^ j + 2 ^ (j - 53)) : Between (x + y) i j := by
  obtain ⟨m, e, pos, parts, rfl⟩ := first
  obtain ⟨n, f, pos', parts', rfl⟩ := second
  change Between (.ofModel (.pack (UnpackedFloat.add Format.binary64 x.toModel.unpack
    y.toModel.unpack))) i j
  rw [parts, parts']
  exact (isRounded_add e f pos pos').between least most above below

/-- Adding a positive number to zero changes nothing. -/
theorem Between.zero_add {z x : Float} {s : Sign} {i j : ℤ} (zero : z.toModel.unpack = .zero s)
    (h : Between x i j) : Between (z + x) i j := by
  obtain ⟨q, ⟨m, e, pos, parts, value⟩, above, below⟩ := h
  obtain ⟨fits, bounded⟩ := fits_of_unpack parts
  refine ⟨q, ⟨m, e, pos, ?_, value⟩, above, below⟩
  change (Float.Model.pack (UnpackedFloat.add Format.binary64 z.toModel.unpack
    x.toModel.unpack)).unpack = _
  rw [zero, parts]
  exact unpack_pack_finite .positive fits bounded pos

/-- A summand too small for the last place of a power of two does not take a sum past it. -/
theorem Between.add {x y : Float} {i j k l : ℤ} (first : Between x i j) (second : Between y k l)
    (least : -1022 ≤ i) (most : j ≤ 1023) (small : l < j - 53) : Between (x + y) i j := by
  obtain ⟨p, value, above, below⟩ := first
  obtain ⟨q, value', above', below'⟩ := second
  have positive := zpow_two_pos k
  have less : (2 : ℚ) ^ l < 2 ^ (j - 53) := zpow_lt_zpow_right₀ one_lt_two small
  exact value.add value' least most (by linarith) (by linarith)

/-! ## Products -/

theorem mul_finite {m n : ℕ} (e f : ℤ) (pos : 0 < m) (pos' : 0 < n) :
    UnpackedFloat.mul Format.binary64 (.finite .positive m e pos) (.finite .positive n f pos') =
      roundWithAccuracy Format.binary64 .positive (m * n) (e + f) .exact := rfl

/-- A product of positive doubles is the exact one, rounded: it has the digits of both. -/
theorem isRounded_mul {m n : ℕ} {e f : ℤ} (fits : Fits m e) (fits' : Fits n f) (pos : 0 < m)
    (pos' : 0 < n) :
    IsRounded (UnpackedFloat.mul Format.binary64 (.finite .positive m e pos)
      (.finite .positive n f pos')) (m * 2 ^ e * (n * 2 ^ f)) := by
  have enough : e + f ≤ max (((m * n).log2 : ℤ) + (e + f) - 52) (-1074) := by
    by_cases full : 2 ^ 52 ≤ m * n
    · have long : 52 ≤ (m * n).log2 := (Nat.le_log2 (Nat.mul_pos pos pos').ne').2 full
      omega
    · have least : e = -1074 := by
        refine fits.full.resolve_left fun normal => full ?_
        exact normal.trans (Nat.le_mul_of_pos_right m pos')
      have least' : f = -1074 := by
        refine fits'.full.resolve_left fun normal => full ?_
        exact normal.trans (Nat.le_mul_of_pos_left n pos)
      omega
  refine ⟨m * n, e + f, _, .exact, ⟨rfl, enough⟩, ?_, mul_finite e f pos pos'⟩
  have exact : (m : ℚ) * 2 ^ e * (n * 2 ^ f) = (m * n : ℕ) * 2 ^ (e + f) := by
    rw [zpow_two_add, Nat.cast_mul]
    ring
  rw [exact, mul_div_cancel_right₀ _ (zpow_two_pos _).ne']
  exact describes_exact _

/-! ## Quotients -/

/-- The quotient of mantissas has digits enough. -/
theorem precise_quotient {m n : ℕ} {e f t : ℤ} (pos : 0 < m) (pos' : 0 < n)
    (exponent : t = min (e - f) (max ((m.log2 : ℤ) + e - n.log2 - f - 53) (-1074))) :
    Precise (m <<< (e - f - t).toNat / n) t
      (max (((m <<< (e - f - t).toNat / n).log2 : ℤ) + t - 52) (-1074)) := by
  refine ⟨rfl, ?_⟩
  by_cases subnormal : t ≤ -1074
  · omega
  · have digits : n.log2 + 53 ≤ m.log2 + (e - f - t).toNat := by omega
    have full : 2 ^ 52 ≤ m <<< (e - f - t).toNat / n := by
      rw [Nat.le_div_iff_mul_le pos', Nat.shiftLeft_eq]
      calc 2 ^ 52 * n ≤ 2 ^ 52 * 2 ^ (n.log2 + 1) :=
            Nat.mul_le_mul_left _ (Nat.le_of_lt Nat.lt_log2_self)
        _ = 2 ^ (n.log2 + 53) := by rw [← Nat.pow_add]; congr 1; omega
        _ ≤ 2 ^ (m.log2 + (e - f - t).toNat) := Nat.pow_le_pow_right two_pos digits
        _ = 2 ^ m.log2 * 2 ^ (e - f - t).toNat := Nat.pow_add 2 _ _
        _ ≤ m * 2 ^ (e - f - t).toNat :=
            Nat.mul_le_mul_right _ (Nat.log2_self_le pos.ne')
    have long : 52 ≤ (m <<< (e - f - t).toNat / n).log2 :=
      (Nat.le_log2 (by omega)).2 full
    omega

theorem div_finite {m n : ℕ} (e f : ℤ) (pos : 0 < m) (pos' : 0 < n) :
    ∃ t : ℤ, t = min (e - f) (max ((m.log2 : ℤ) + e - n.log2 - f - 53) (-1074)) ∧
      UnpackedFloat.div Format.binary64 (.finite .positive m e pos) (.finite .positive n f pos') =
        roundWithAccuracy Format.binary64 .positive (m <<< (e - f - t).toNat / n) t
          (accuracyOfFraction (m <<< (e - f - t).toNat % n) n) := by
  have target : Format.binary64.targetExponent (totalExponent m e - totalExponent n f) =
      max ((m.log2 : ℤ) + e - n.log2 - f - 53) (-1074) := by
    simp only [Format.targetExponent, totalExponent, Format.mantissaBits, Format.minExponent]
    norm_num
    omega
  refine ⟨_, rfl, ?_⟩
  rw [← target]
  rfl

/-- A quotient of positive numbers is the exact one, rounded. -/
theorem isRounded_div {m n : ℕ} (e f : ℤ) (pos : 0 < m) (pos' : 0 < n) :
    IsRounded (UnpackedFloat.div Format.binary64 (.finite .positive m e pos)
      (.finite .positive n f pos')) (m * 2 ^ e / (n * 2 ^ f)) := by
  obtain ⟨t, exponent, result⟩ := div_finite e f pos pos'
  have size : (0 : ℚ) < n := by exact_mod_cast pos'
  have quotient : (m : ℚ) * 2 ^ e / (n * 2 ^ f) / 2 ^ t =
      (m <<< (e - f - t).toNat / n : ℕ) + (m <<< (e - f - t).toNat % n : ℕ) / n := by
    have whole : ((n * (m <<< (e - f - t).toNat / n) + m <<< (e - f - t).toNat % n : ℕ) : ℚ) =
        (m <<< (e - f - t).toNat : ℕ) := by rw [Nat.div_add_mod]
    have shifted : ((m <<< (e - f - t).toNat : ℕ) : ℚ) * 2 ^ (f + t) = m * 2 ^ e := by
      rw [← cast_shiftLeft m (e - f - t).toNat e]
      congr 2
      omega
    rw [← shifted, ← whole, zpow_two_add]
    have unit := (zpow_two_pos f).ne'
    have unit' := (zpow_two_pos t).ne'
    field_simp
    push_cast
    ring
  refine ⟨_, _, _, _, precise_quotient pos pos' exponent, ?_, result⟩
  rw [quotient]
  exact describes_fraction _ _ _ (Nat.mod_lt _ pos')

/-- A quotient of positive doubles lies where the exact quotient lies. -/
theorem HasValue.div {x y : Float} {p q : ℚ} {i j : ℤ} (first : HasValue x p)
    (second : HasValue y q) (least : -1022 ≤ i) (most : j ≤ 1023) (above : 2 ^ i ≤ p / q)
    (below : p / q < 2 ^ j + 2 ^ (j - 53)) : Between (x / y) i j := by
  obtain ⟨m, e, pos, parts, rfl⟩ := first
  obtain ⟨n, f, pos', parts', rfl⟩ := second
  change Between (.ofModel (.pack (UnpackedFloat.div Format.binary64 x.toModel.unpack
    y.toModel.unpack))) i j
  rw [parts, parts']
  exact (isRounded_div e f pos pos').between least most above below

theorem Between.div {x y : Float} {i j k l : ℤ} (first : Between x i j) (second : Between y k l)
    (least : -1022 ≤ i - l) (most : j - k ≤ 1023) : Between (x / y) (i - l) (j - k) := by
  obtain ⟨p, value, above, below⟩ := first
  obtain ⟨q, value', above', below'⟩ := second
  have positive : 0 < q := (zpow_two_pos k).trans_le above'
  refine value.div value' least most ?_ ?_
  · rw [le_div_iff₀ positive]
    calc (2 : ℚ) ^ (i - l) * q ≤ 2 ^ (i - l) * 2 ^ l :=
          mul_le_mul_of_nonneg_left below' (zpow_two_pos _).le
      _ = 2 ^ i := by rw [← zpow_two_add, sub_add_cancel]
      _ ≤ p := above
  · have bound : p / q ≤ 2 ^ (j - k) := by
      rw [div_le_iff₀ positive]
      calc p ≤ 2 ^ j := below
        _ = 2 ^ (j - k) * 2 ^ k := by rw [← zpow_two_add, sub_add_cancel]
        _ ≤ 2 ^ (j - k) * q := mul_le_mul_of_nonneg_left above' (zpow_two_pos _).le
    have more := zpow_two_pos (j - k - 53)
    linarith

/-! ## Whole numbers -/

/-- The word of a positive double has its exponent in front of its fraction. -/
theorem hasValue_ofBits {bits : ℕ} (normal : 2 ^ 52 ≤ bits) (bounded : bits < 2047 * 2 ^ 52) :
    HasValue (Float.ofBits (UInt64.ofNat bits))
      ((2 ^ 52 + bits % 2 ^ 52 : ℕ) * 2 ^ (((bits / 2 ^ 52 : ℕ) : ℤ) - 1075)) := by
  have word : (UInt64.ofNat bits).toBitVec.toNat = bits :=
    Nat.mod_eq_of_lt (Nat.lt_trans bounded (by norm_num))
  have field : bits / 2 ^ 52 % 2 ^ 11 = bits / 2 ^ 52 := Nat.mod_eq_of_lt (by omega)
  have parts : ofWord (UInt64.ofNat bits).toBitVec =
      finite false (2 ^ 52 + bits % 2 ^ 52) ((bits / 2 ^ 52 : ℕ) - 1075) := by
    simp only [ofWord, word, field]
    rw [if_neg (by omega), if_neg (by omega), decide_eq_false (by omega)]
    congr 1
    rw [minExponent]
    omega
  have pos : 0 < 2 ^ 52 + bits % 2 ^ 52 := by omega
  have fits : Fits (2 ^ 52 + bits % 2 ^ 52) ((bits / 2 ^ 52 : ℕ) - 1075) :=
    ⟨by omega, by omega, .inl (by omega)⟩
  refine ⟨_, _, pos, ?_, rfl⟩
  change (Float.Model.pack (UnpackedFloat.unpack Format.binary64
    (UInt64.ofNat bits).toBitVec)).unpack = _
  rw [unpack_eq, parts, unpacked, dif_neg pos.ne']
  exact unpack_pack_finite .positive fits (by omega) pos

theorem scaled_quotient {n : ℕ} (pos : 0 < n) :
    2 ^ 52 ≤ (scaled n 1 (n.log2 - 52)).1 / (scaled n 1 (n.log2 - 52)).2 ∧
      (scaled n 1 (n.log2 - 52)).1 / (scaled n 1 (n.log2 - 52)).2 < 2 ^ 53 := by
  have digits := Nat.log2_self_le pos.ne'
  have digits' : n < 2 ^ (n.log2 + 1) := Nat.lt_log2_self
  unfold scaled
  split
  next short =>
    have shift : ((n.log2 : ℤ) - 52).natAbs = 52 - n.log2 := by omega
    rw [shift, Nat.div_one, Nat.pow_eq]
    constructor
    · calc 2 ^ 52 = 2 ^ n.log2 * 2 ^ (52 - n.log2) := by rw [← Nat.pow_add]; congr 1; omega
        _ ≤ n * 2 ^ (52 - n.log2) := Nat.mul_le_mul_right _ digits
    · calc n * 2 ^ (52 - n.log2) < 2 ^ (n.log2 + 1) * 2 ^ (52 - n.log2) :=
            Nat.mul_lt_mul_of_pos_right digits' (Nat.two_pow_pos _)
        _ = 2 ^ 53 := by rw [← Nat.pow_add]; congr 1; omega
  next long =>
    have shift : ((n.log2 : ℤ) - 52).natAbs = n.log2 - 52 := by omega
    rw [shift, Nat.one_mul, Nat.pow_eq, Nat.le_div_iff_mul_le (Nat.two_pow_pos _),
      Nat.div_lt_iff_lt_mul (Nat.two_pow_pos _)]
    constructor
    · calc 2 ^ 52 * 2 ^ (n.log2 - 52) = 2 ^ n.log2 := by rw [← Nat.pow_add]; congr 1; omega
        _ ≤ n := digits
    · calc n < 2 ^ (n.log2 + 1) := digits'
        _ = 2 ^ 53 * 2 ^ (n.log2 - 52) := by rw [← Nat.pow_add]; congr 1; omega

theorem roundDiv_cases (num den : ℕ) :
    roundDiv num den = num / den ∨ roundDiv num den = num / den + 1 := by
  unfold roundDiv
  dsimp only
  split
  · exact .inr rfl
  · exact .inl rfl

theorem ofNat_eq (n : ℕ) :
    (Arithmetic.ofNat n : Float) = Float.ofBits (UInt64.ofNat (nearestBits n 1)) := by
  simp only [Arithmetic.ofNat, nearest, if_neg Bool.false_ne_true]

/-- The mantissa that a natural number is rounded to. -/
def mantissaOf (n : ℕ) : ℕ :=
  roundDiv (scaled n 1 (n.log2 - 52)).1 (scaled n 1 (n.log2 - 52)).2

theorem mantissaOf_bounds {n : ℕ} (pos : 0 < n) :
    2 ^ 52 ≤ mantissaOf n ∧ mantissaOf n ≤ 2 ^ 53 := by
  obtain ⟨lower, upper⟩ := scaled_quotient pos
  have rounded := roundDiv_cases (scaled n 1 (n.log2 - 52)).1 (scaled n 1 (n.log2 - 52)).2
  unfold mantissaOf
  omega

/-- A natural number becomes the double of its mantissa. -/
theorem hasValue_ofNat {n : ℕ} (pos : 0 < n) (bounded : n.log2 ≤ 1022) :
    HasValue (Arithmetic.ofNat n) (mantissaOf n * 2 ^ ((n.log2 : ℤ) - 52)) := by
  obtain ⟨lower, upper⟩ := scaled_quotient pos
  obtain ⟨least, most⟩ := mantissaOf_bounds pos
  have guess : ((n.log2 : ℤ) - ((1 : ℕ).log2 : ℤ) - 52) = n.log2 - 52 := by
    rw [show (1 : ℕ).log2 = 0 from rfl]
    omega
  have exponent : exponentFor n 1 = n.log2 - 52 := by
    simp only [exponentFor, guess, Nat.pow_eq]
    rw [if_neg (by omega), minExponent]
    omega
  have bits : nearestBits n 1 = (n.log2 + 1022) * 2 ^ 52 + mantissaOf n := by
    have shift : ((n.log2 : ℤ) - 52 - minExponent).toNat = n.log2 + 1022 := by
      rw [minExponent]
      omega
    simp only [nearestBits, exponent, shift, Nat.pow_eq]
    rw [if_neg (by simp [pos.ne'])]
    change min ((n.log2 + 1022) * 2 ^ 52 + mantissaOf n) _ = _
    omega
  have value : HasValue (Float.ofBits (UInt64.ofNat (nearestBits n 1))) _ :=
    hasValue_ofBits (by omega) (by omega)
  rw [ofNat_eq]
  rcases most.eq_or_lt with full | short
  · -- The mantissa is carried over into the exponent.
    have field : nearestBits n 1 / 2 ^ 52 = n.log2 + 1024 := by omega
    have fraction : nearestBits n 1 % 2 ^ 52 = 0 := by omega
    rw [field, fraction] at value
    convert value using 1
    rw [full, show ((n.log2 + 1024 : ℕ) : ℤ) - 1075 = 1 + (n.log2 - 52) by omega, zpow_two_add,
      ← mul_assoc]
    norm_num
  · have field : nearestBits n 1 / 2 ^ 52 = n.log2 + 1023 := by omega
    have fraction : 2 ^ 52 + nearestBits n 1 % 2 ^ 52 = mantissaOf n := by omega
    rw [field, fraction] at value
    rwa [show ((n.log2 + 1023 : ℕ) : ℤ) - 1075 = n.log2 - 52 by omega] at value

/-- A natural number becomes a double between the powers of two that it lies between. -/
theorem between_ofNat {n : ℕ} (pos : 0 < n) (bounded : n.log2 ≤ 1022) :
    Between (Arithmetic.ofNat n) n.log2 (n.log2 + 1) := by
  obtain ⟨least, most⟩ := mantissaOf_bounds pos
  have unit := zpow_two_pos ((n.log2 : ℤ) - 52)
  have scaled (k : ℤ) : (2 : ℚ) ^ (n.log2 + k) = 2 ^ (52 + k) * 2 ^ ((n.log2 : ℤ) - 52) := by
    rw [← zpow_two_add]
    congr 1
    omega
  refine ⟨_, hasValue_ofNat pos bounded, ?_, ?_⟩
  · rw [← add_zero (n.log2 : ℤ), scaled, add_zero]
    exact mul_le_mul_of_nonneg_right (by exact_mod_cast least) unit.le
  · rw [scaled]
    exact mul_le_mul_of_nonneg_right (by exact_mod_cast most) unit.le

end Binary64

end BenchCampaign
