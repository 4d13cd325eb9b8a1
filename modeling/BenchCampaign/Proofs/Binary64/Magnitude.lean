import BenchCampaign.Proofs.Binary64.Denotation

/-!
# How far doubles are from zero

A computation with doubles of either sign stays finite as long as its numbers do not come too far
from zero.  How far they come is told by the exact numbers: without their signs, products and
quotients are the exact ones, rounded, and sums and differences are at most the exact sum, rounded.
Powers of two bound them without more to be said about rounding.

* `magnitude`: how far a double is from zero, where nothing that is infinite or no number is near.
* `magnitude_add_le`, `magnitude_sub_le`, `magnitude_mul`, `magnitude_div`: the operations.
* `Within`: numbers up to a power of two, and what can be said of results.
* `isFinite_mul_of_le`: a product is finite if a greater one is.
* `within_mul_div`: numbers that are scaled by a quotient of at most one.
-/

namespace BenchCampaign

namespace Binary64

open Float.Model (UnpackedFloat Format)
open Float.Model.UnpackedFloat

/-! ## Magnitudes -/

/-- How far the parts of a double are from zero. -/
def distance : UnpackedFloat → WithTop ℚ
  | .notANumber | .infinity _ => ⊤
  | .zero _ => 0
  | .finite _ m e _ => (m * 2 ^ e : ℚ)

/-- How far a double is from zero; what is no number is as far as infinity. -/
def magnitude (x : Float) : WithTop ℚ := distance x.toModel.unpack

variable {u v : UnpackedFloat} {p q : ℚ} {x y : Float}

theorem isFinite_iff : x.isFinite = true ↔ magnitude x ≠ ⊤ := by
  change x.toModel.unpack.isFinite = true ↔ distance x.toModel.unpack ≠ ⊤
  cases x.toModel.unpack with
  | notANumber => exact iff_of_false nofun fun finite => finite rfl
  | infinity s => exact iff_of_false nofun fun finite => finite rfl
  | zero s => exact iff_of_true rfl WithTop.zero_ne_top
  | finite s m e pos => exact iff_of_true rfl WithTop.coe_ne_top

theorem isFinite_iff_exists : x.isFinite = true ↔ ∃ q : ℚ, magnitude x = q := by
  rw [isFinite_iff, WithTop.ne_top_iff_exists]
  exact exists_congr fun q => eq_comm

theorem isNaN_eq_false_of_isFinite (finite : x.isFinite = true) : x.isNaN = false := by
  change x.toModel.unpack.isFinite = true at finite
  change x.toModel.unpack.isNaN = false
  generalize x.toModel.unpack = u at finite
  cases u <;> first | rfl | cases finite

theorem distance_nonneg (u : UnpackedFloat) : 0 ≤ distance u := by
  cases u with
  | notANumber => exact le_top
  | infinity s => exact le_top
  | zero s => exact le_rfl
  | finite s m e pos =>
    exact WithTop.coe_nonneg.2 (mul_nonneg (Nat.cast_nonneg m) (zpow_two_pos e).le)

theorem distance_of_value {w : WithTop ℚ} (h : Value u w) : distance u = w := by
  cases h <;> rfl

/-- What is not below zero is as far from zero as it is large. -/
theorem magnitude_of_denotes {w : WithTop ℚ} (h : Denotes x w) : magnitude x = w :=
  distance_of_value h

/-- What is of no size is at zero, if it is finite. -/
theorem magnitude_eq_zero (finite : x.isFinite = true) (none : size x = 0) : magnitude x = 0 := by
  change x.toModel.unpack.isFinite = true at finite
  unfold size at none
  unfold magnitude
  generalize x.toModel.unpack = u at finite none
  cases u with
  | notANumber => cases finite
  | infinity s => cases finite
  | zero s => rfl
  | finite s m e pos => cases s <;> simp only [extent, oriented] at none <;> omega

theorem nearestValue_distance (bounded : Bounded u) : nearestValue (distance u) = distance u := by
  cases u with
  | notANumber => rfl
  | infinity s => rfl
  | zero s => exact nearestValue_zero
  | finite s m e pos => exact nearestValue_eq_self bounded.1 bounded.2

/-- Magnitudes are not rounded. -/
theorem nearestValue_magnitude (x : Float) : nearestValue (magnitude x) = magnitude x :=
  nearestValue_distance (bounded_unpack x)

/-- What has a magnitude is zero or has a mantissa and an exponent. -/
theorem zero_or_finite_of_magnitude (h : magnitude x = q) :
    (∃ s, x.toModel.unpack = .zero s ∧ q = 0) ∨
      ∃ s m e pos, x.toModel.unpack = .finite s m e pos ∧ Fits m e ∧ q = m * 2 ^ e := by
  unfold magnitude at h
  have bounded := bounded_unpack x
  generalize x.toModel.unpack = u at h bounded
  cases u with
  | notANumber => cases h
  | infinity s => cases h
  | zero s => exact .inl ⟨s, rfl, (WithTop.coe_eq_zero.1 h.symm)⟩
  | finite s m e pos => exact .inr ⟨s, m, e, pos, rfl, bounded.1, (WithTop.coe_inj.1 h).symm⟩

/-! ## Results of either sign -/

/-- The parts of a number with another sign. -/
def withSign (s : Sign) : UnpackedFloat → UnpackedFloat
  | .notANumber => .notANumber
  | .infinity _ => .infinity s
  | .zero _ => .zero s
  | .finite _ m e pos => .finite s m e pos

theorem roundWithAccuracy_eq_withSign (s : Sign) (m : ℕ) (e : ℤ) (a : Accuracy) :
    roundWithAccuracy Format.binary64 s m e a =
      withSign s (roundWithAccuracy Format.binary64 .positive m e a) := by
  unfold roundWithAccuracy
  dsimp only
  split <;> rfl

theorem distance_pack_zero (s : Sign) : distance (Float.Model.pack (.zero s)).unpack = 0 := by
  cases s <;> rfl

theorem distance_pack_infinity (s : Sign) :
    distance (Float.Model.pack (.infinity s)).unpack = ⊤ := by
  cases s <;> rfl

/-- With either sign a result is as far from zero as the number it is rounded from, rounded. -/
theorem IsRounded.distance_pack (h : IsRounded u q) (s : Sign) :
    distance (Float.Model.pack (withSign s u)).unpack = nearestValue q := by
  rw [← distance_of_value h.value]
  obtain ⟨em, t, -, -, ⟨-, rfl⟩ | ⟨m, e, pos, rfl, fits, -⟩⟩ := h.zero_or_finite
  · rw [withSign, distance_pack_zero, distance_pack_zero]
  · rw [withSign]
    rcases lt_or_ge e 972 with bounded | large
    · rw [unpack_pack_finite s fits (by omega) pos,
        unpack_pack_finite .positive fits (by omega) pos]
      rfl
    · rw [unpack_pack_overflow s large pos, unpack_pack_overflow .positive large pos]
      rfl

/-- What fits is as far from zero after it is packed. -/
theorem distance_pack_of_bounded (bounded : Bounded u) :
    distance (Float.Model.pack u).unpack = distance u := by
  cases u with
  | notANumber => rfl
  | infinity s => exact distance_pack_infinity s
  | zero s => exact distance_pack_zero s
  | finite s m e pos => rw [unpack_pack_finite s bounded.1 bounded.2 pos]

/-! ## Products and quotients -/

theorem magnitude_mul (first : magnitude x = p) (second : magnitude y = q) :
    magnitude (x * y) = nearestValue (p * q : ℚ) := by
  change distance (Float.Model.pack (UnpackedFloat.mul Format.binary64 x.toModel.unpack
    y.toModel.unpack)).unpack = _
  rcases zero_or_finite_of_magnitude first with ⟨s, parts, rfl⟩ | ⟨s, m, e, pos, parts, fits, rfl⟩
  · rw [parts, zero_mul, WithTop.coe_zero, nearestValue_zero]
    rcases zero_or_finite_of_magnitude second with ⟨s', parts', -⟩ | ⟨s', n, f, pos', parts', -⟩
    · rw [parts']
      exact distance_pack_zero _
    · rw [parts']
      exact distance_pack_zero _
  · rcases zero_or_finite_of_magnitude second with
      ⟨s', parts', rfl⟩ | ⟨s', n, f, pos', parts', fits', rfl⟩
    · rw [parts, parts', mul_zero, WithTop.coe_zero, nearestValue_zero]
      exact distance_pack_zero _
    · rw [parts, parts', ← (isRounded_mul fits fits' pos pos').distance_pack (s * s'), mul_finite,
        ← roundWithAccuracy_eq_withSign]
      rfl

theorem magnitude_div (nonzero : q ≠ 0) (first : magnitude x = p) (second : magnitude y = q) :
    magnitude (x / y) = nearestValue (p / q : ℚ) := by
  change distance (Float.Model.pack (UnpackedFloat.div Format.binary64 x.toModel.unpack
    y.toModel.unpack)).unpack = _
  rcases zero_or_finite_of_magnitude second with ⟨s', -, zero⟩ | ⟨s', n, f, pos', parts', -, rfl⟩
  · exact absurd zero nonzero
  · rcases zero_or_finite_of_magnitude first with ⟨s, parts, rfl⟩ | ⟨s, m, e, pos, parts, -, rfl⟩
    · rw [parts, parts', zero_div, WithTop.coe_zero, nearestValue_zero]
      exact distance_pack_zero _
    · have quotient : UnpackedFloat.div Format.binary64 (.finite s m e pos) (.finite s' n f pos') =
          withSign (s / s') (UnpackedFloat.div Format.binary64 (.finite .positive m e pos)
            (.finite .positive n f pos')) := roundWithAccuracy_eq_withSign _ _ _ _
      rw [parts, parts', quotient]
      exact (isRounded_div e f pos pos').distance_pack _

/-- A quotient by something finite is not finite if the dividend is not. -/
theorem magnitude_div_eq_top (infinite : magnitude x = ⊤) (finite : magnitude y ≠ ⊤) :
    magnitude (x / y) = ⊤ := by
  change distance (Float.Model.pack (UnpackedFloat.div Format.binary64 x.toModel.unpack
    y.toModel.unpack)).unpack = _
  unfold magnitude at infinite finite
  generalize x.toModel.unpack = u at infinite
  generalize y.toModel.unpack = v at finite
  cases u with
  | notANumber =>
    have result : UnpackedFloat.div Format.binary64 .notANumber v = .notANumber := by
      cases v <;> simp only [UnpackedFloat.div]
    rw [result]
    rfl
  | infinity s =>
    cases v with
    | notANumber => exact absurd rfl finite
    | infinity s' => exact absurd rfl finite
    | zero s' => exact distance_pack_infinity _
    | finite s' n f pos' => exact distance_pack_infinity _
  | zero s => cases infinite
  | finite s m e pos => cases infinite

/-- Dividing by one at least does not lead away from zero. -/
theorem magnitude_div_le (one : 1 ≤ q) (second : magnitude y = q) :
    magnitude (x / y) ≤ magnitude x := by
  have positive : 0 < q := one_pos.trans_le one
  cases first : magnitude x with
  | top => exact le_top
  | coe p =>
    have nonneg : 0 ≤ p := WithTop.coe_nonneg.1 (first ▸ distance_nonneg x.toModel.unpack)
    have less : ((p / q : ℚ) : WithTop ℚ) ≤ p := WithTop.coe_le_coe.2 (div_le_self nonneg one)
    rw [magnitude_div positive.ne' first second]
    calc nearestValue (p / q : ℚ) ≤ nearestValue p := nearestValue_mono less
      _ = p := by rw [← first, nearestValue_magnitude]

/-- Zero stays zero in products. -/
theorem magnitude_mul_zero (finite : x.isFinite = true) (zero : magnitude y = 0) :
    magnitude (x * y) = 0 := by
  obtain ⟨p, known⟩ := isFinite_iff_exists.1 finite
  rw [magnitude_mul known (zero.trans WithTop.coe_zero.symm), mul_zero, WithTop.coe_zero,
    nearestValue_zero]

/-- Zero stays zero in quotients. -/
theorem magnitude_zero_div (zero : magnitude x = 0) (nonzero : q ≠ 0) (second : magnitude y = q) :
    magnitude (x / y) = 0 := by
  rw [magnitude_div nonzero (zero.trans WithTop.coe_zero.symm) second, zero_div, WithTop.coe_zero,
    nearestValue_zero]

/-! ## Sums and differences -/

theorem distance_normalize (k e : ℤ) :
    distance (Float.Model.pack (UnpackedFloat.normalize Format.binary64 k e .positive)).unpack =
      nearestValue (|(k : ℚ)| * 2 ^ e : ℚ) := by
  unfold UnpackedFloat.normalize
  rcases lt_trichotomy k 0 with negative | rfl | positive
  · have size : ((-k).toNat : ℚ) = |(k : ℚ)| := by
      rw [abs_of_neg (by exact_mod_cast negative)]
      exact_mod_cast Int.toNat_of_nonneg (by omega)
    have rounded := (isRounded_round (m := (-k).toNat) (by omega) e).distance_pack .negative
    rw [Int.compare_eq_lt.2 negative, ← size, ← rounded]
    exact congrArg (fun u => distance (Float.Model.pack u).unpack)
      (roundWithAccuracy_eq_withSign ..)
  · rw [Int.compare_eq_eq.2 rfl, Int.cast_zero, abs_zero, zero_mul, WithTop.coe_zero,
      nearestValue_zero]
    exact distance_pack_zero .positive
  · have size : (k.toNat : ℚ) = |(k : ℚ)| := by
      rw [abs_of_pos (by exact_mod_cast positive)]
      exact_mod_cast Int.toNat_of_nonneg (by omega)
    have rounded := isRounded_round (m := k.toNat) (by omega) e
    rw [Int.compare_eq_gt.2 positive, ← size]
    exact distance_of_value rounded.value

theorem abs_apply (s : Sign) (n : ℤ) : |((s.apply n : ℤ) : ℚ)| = |(n : ℚ)| := by
  cases s with
  | negative => rw [Sign.apply, Int.cast_neg, abs_neg]
  | positive => rfl

/-- A sum is at most as far from zero as both summands together, rounded. -/
theorem distance_add_le (bounded : Bounded u) (bounded' : Bounded v) :
    distance (Float.Model.pack (UnpackedFloat.add Format.binary64 u v)).unpack ≤
      nearestValue (distance u + distance v) := by
  cases u with
  | notANumber => exact le_top
  | infinity s => exact le_top
  | zero s =>
    rw [show distance (.zero s) = 0 from rfl, zero_add, nearestValue_distance bounded',
      ← distance_pack_of_bounded bounded']
    cases v with
    | zero s' => cases s <;> cases s' <;> exact le_rfl
    | _ => exact le_rfl
  | finite s m e pos =>
    cases v with
    | notANumber => exact le_top
    | infinity s' => exact le_top
    | zero s' =>
      rw [show distance (.zero s') = 0 from rfl, add_zero, nearestValue_distance bounded,
        ← distance_pack_of_bounded bounded]
      exact le_rfl
    | finite s' n f pos' =>
      change distance (Float.Model.pack (UnpackedFloat.normalize Format.binary64
        (s.apply (m <<< (e - min e f).toNat : ℕ) + s'.apply (n <<< (f - min e f).toNat : ℕ))
        (min e f) .positive)).unpack ≤ nearestValue ((m * 2 ^ e + n * 2 ^ f : ℚ) : WithTop ℚ)
      rw [distance_normalize]
      refine nearestValue_mono (WithTop.coe_le_coe.2 ?_)
      rw [← cast_shiftLeft_toNat m (min_le_left e f), ← cast_shiftLeft_toNat n (min_le_right e f),
        ← add_mul]
      refine mul_le_mul_of_nonneg_right ?_ (zpow_two_pos _).le
      rw [Int.cast_add]
      refine (abs_add_le _ _).trans_eq ?_
      rw [abs_apply, abs_apply, Int.cast_natCast, Int.cast_natCast, Nat.abs_cast, Nat.abs_cast]

theorem sub_eq_add_neg (u v : UnpackedFloat) :
    UnpackedFloat.sub Format.binary64 u v = UnpackedFloat.add Format.binary64 u v.neg := by
  have apply_neg (s : Sign) (n : ℤ) : (-s).apply n = -s.apply n := by
    cases s
    · exact (neg_neg n).symm
    · rfl
  cases u <;> cases v <;> simp only [UnpackedFloat.sub, UnpackedFloat.add, UnpackedFloat.neg,
    apply_neg, Int.sub_eq_add_neg]

theorem magnitude_add_le (x y : Float) :
    magnitude (x + y) ≤ nearestValue (magnitude x + magnitude y) :=
  distance_add_le (bounded_unpack x) (bounded_unpack y)

theorem magnitude_sub_le (x y : Float) :
    magnitude (x - y) ≤ nearestValue (magnitude x + magnitude y) := by
  change distance (Float.Model.pack (UnpackedFloat.sub Format.binary64 x.toModel.unpack
    y.toModel.unpack)).unpack ≤ nearestValue (distance _ + distance _)
  have bounded := bounded_unpack y
  have same : distance y.toModel.unpack.neg = distance y.toModel.unpack := by
    cases y.toModel.unpack <;> rfl
  have bounded' : Bounded y.toModel.unpack.neg := by
    generalize y.toModel.unpack = v at bounded
    cases v <;> exact bounded
  rw [sub_eq_add_neg, ← same]
  exact distance_add_le (bounded_unpack x) bounded'

/-! ## Bounds -/

/-- A number that is at most a power of two away from zero. -/
def Within (x : Float) (k : ℕ) : Prop := magnitude x ≤ ((2 ^ k : ℚ) : WithTop ℚ)

theorem within_of_eq_zero (zero : magnitude x = 0) (k : ℕ) : Within x k := by
  rw [Within, zero]
  exact WithTop.coe_nonneg.2 (by positivity)

namespace Within

variable {i k : ℕ}

theorem isFinite (h : Within x k) : x.isFinite = true :=
  isFinite_iff.2 (h.trans_lt (WithTop.coe_lt_top _)).ne

theorem mono (h : Within x i) (le : i ≤ k) : Within x k :=
  h.trans (WithTop.coe_le_coe.2 (pow_le_pow_right₀ one_le_two le))

/-- Rounding does not pass a power of two. -/
theorem of_le {w : WithTop ℚ} (rounded : magnitude x ≤ nearestValue w)
    (le : w ≤ ((2 ^ k : ℚ) : WithTop ℚ)) (bounded : k ≤ 1023) : Within x k :=
  calc magnitude x ≤ nearestValue w := rounded
    _ ≤ nearestValue (2 ^ k : ℚ) := nearestValue_mono le
    _ = (2 ^ k : ℚ) := nearestValue_two_pow bounded

theorem add_le_two_pow (first : Within x k) (second : Within y k) :
    magnitude x + magnitude y ≤ ((2 ^ (k + 1) : ℚ) : WithTop ℚ) := by
  rw [pow_succ, mul_two, WithTop.coe_add]
  exact add_le_add first second

theorem add (first : Within x k) (second : Within y k) (bounded : k + 1 ≤ 1023) :
    Within (x + y) (k + 1) :=
  of_le (magnitude_add_le x y) (first.add_le_two_pow second) bounded

theorem sub (first : Within x k) (second : Within y k) (bounded : k + 1 ≤ 1023) :
    Within (x - y) (k + 1) :=
  of_le (magnitude_sub_le x y) (first.add_le_two_pow second) bounded

theorem mul (first : Within x i) (second : Within y k) (bounded : i + k ≤ 1023) :
    Within (x * y) (i + k) := by
  obtain ⟨p, known⟩ := isFinite_iff_exists.1 first.isFinite
  obtain ⟨q, known'⟩ := isFinite_iff_exists.1 second.isFinite
  have nonneg : 0 ≤ q := WithTop.coe_nonneg.1 (known' ▸ distance_nonneg y.toModel.unpack)
  unfold Within at first second
  rw [known, WithTop.coe_le_coe] at first
  rw [known', WithTop.coe_le_coe] at second
  refine of_le (magnitude_mul known known').le (WithTop.coe_le_coe.2 ?_) bounded
  rw [pow_add]
  exact mul_le_mul first second nonneg (by positivity)

end Within

/-! ## Natural numbers -/

theorem magnitude_ofNat {n : ℕ} (bounded : n < 2 ^ 64) :
    magnitude (Arithmetic.ofNat n) = nearestValue (n : ℚ) :=
  magnitude_of_denotes (denotes_ofNat bounded)

theorem within_ofNat {n k : ℕ} (le : n ≤ 2 ^ k) (small : n < 2 ^ 64) (bounded : k ≤ 1023) :
    Within (Arithmetic.ofNat n) k := by
  refine .of_le (magnitude_ofNat small).le (WithTop.coe_le_coe.2 ?_) bounded
  exact_mod_cast le

theorem exists_magnitude_ofNat {n : ℕ} (pos : 0 < n) (bounded : n < 2 ^ 64) :
    ∃ q : ℚ, 1 ≤ q ∧ magnitude (Arithmetic.ofNat n) = q := by
  have small : (n : ℚ) ≤ 2 ^ 64 := by exact_mod_cast bounded.le
  have least := nearestNumber_mono (show (2 : ℚ) ^ 0 ≤ n by exact_mod_cast pos)
  rw [nearestNumber_two_pow, pow_zero] at least
  exact ⟨_, least, by rw [magnitude_ofNat bounded, nearestValue_of_le small]⟩

/-- Dividing by a natural number does not lead away from zero. -/
theorem magnitude_div_ofNat_le (x : Float) {n : ℕ} (pos : 0 < n) (bounded : n < 2 ^ 64) :
    magnitude (x / Arithmetic.ofNat n) ≤ magnitude x := by
  obtain ⟨q, one, known⟩ := exists_magnitude_ofNat pos bounded
  exact magnitude_div_le one known

theorem Within.div_ofNat {n k : ℕ} (h : Within x k) (pos : 0 < n) (bounded : n < 2 ^ 64) :
    Within (x / Arithmetic.ofNat n) k :=
  (magnitude_div_ofNat_le x pos bounded).trans h

/-! ## Products that are known to be finite -/

/-- A product is finite if a greater one is. -/
theorem isFinite_mul_of_le {z : Float} (finite : x.isFinite = true)
    (product : (z * x).isFinite = true) (finite' : z.isFinite = true)
    (le : magnitude y ≤ magnitude z) : (x * y).isFinite = true := by
  obtain ⟨p, known⟩ := isFinite_iff_exists.1 finite
  obtain ⟨r, known'⟩ := isFinite_iff_exists.1 finite'
  rw [known'] at le
  obtain ⟨q, known'', less⟩ := WithTop.le_coe_iff.1 le
  have nonneg : 0 ≤ p := WithTop.coe_nonneg.1 (known ▸ distance_nonneg x.toModel.unpack)
  have products : ((p * q : ℚ) : WithTop ℚ) ≤ (r * p : ℚ) :=
    WithTop.coe_le_coe.2 ((mul_le_mul_of_nonneg_left less nonneg).trans_eq (mul_comm p r))
  rw [isFinite_iff, magnitude_mul known' known] at product
  rw [isFinite_iff, magnitude_mul known known'']
  exact ((nearestValue_mono products).trans_lt (lt_top_iff_ne_top.2 product)).ne

/-- The smallest positive double is rounded to itself, so no number from there on doubles when it is
rounded. -/
theorem nearestNumber_le_two_mul (least : 2 ^ (-1074 : ℤ) ≤ q) : nearestNumber q ≤ 2 * q := by
  have place := lastPlace_spec q
  have unit := zpow_two_pos (lastPlace q)
  have small : (2 : ℚ) ^ lastPlace q ≤ q := by
    rcases place.full with subnormal | full
    · rwa [subnormal]
    · exact (le_mul_of_one_le_left unit.le (by norm_num)).trans full
  have nonneg : 0 ≤ q / 2 ^ lastPlace q := div_nonneg (unit.le.trans small) unit.le
  have floor : (halfEven (q / 2 ^ lastPlace q) : ℚ) ≤ ⌊q / 2 ^ lastPlace q⌋₊ + 1 := by
    exact_mod_cast halfEven_le_succ_floor _
  have below : (halfEven (q / 2 ^ lastPlace q) : ℚ) ≤ q / 2 ^ lastPlace q + 1 :=
    floor.trans (add_le_add_left (Nat.floor_le nonneg) 1)
  calc nearestNumber q ≤ (q / 2 ^ lastPlace q + 1) * 2 ^ lastPlace q :=
        mul_le_mul_of_nonneg_right below unit.le
    _ = q + 2 ^ lastPlace q := by rw [add_mul, div_mul_cancel₀ _ unit.ne', one_mul]
    _ ≤ 2 * q := by linarith

/-- No positive double is nearer to zero than the smallest one. -/
theorem le_of_denotes_of_pos (h : Denotes x q) (positive : 0 < q) : 2 ^ (-1074 : ℤ) ≤ q := by
  obtain ⟨s, -, zero⟩ | ⟨m, e, pos, -, fits, -, rfl⟩ := Value.zero_or_finite h
  · exact absurd zero positive.ne'
  · calc (2 : ℚ) ^ (-1074 : ℤ) ≤ 2 ^ e := zpow_two_le fits.least
      _ ≤ m * 2 ^ e := le_mul_of_one_le_left (zpow_two_pos e).le (by exact_mod_cast pos)

/-- What is scaled by the quotient of two numbers in order is scaled by two at most. -/
theorem within_mul_div {z : Float} {k : ℕ} (scale : Within z k) (one : 1 ≤ magnitude z)
    (first : Denotes x p) (second : Denotes y q) (positive : 0 < p) (le : p ≤ q)
    (finite : (z * x).isFinite = true) (bounded : k + 1 ≤ 1023) :
    Within (z * x / y) (k + 1) := by
  obtain ⟨r, known⟩ := isFinite_iff_exists.1 scale.isFinite
  obtain ⟨t, product⟩ := isFinite_iff_exists.1 finite
  unfold Within at scale
  rw [known, WithTop.coe_le_coe] at scale
  rw [known, WithTop.one_le_coe] at one
  have larger : p ≤ r * p := le_mul_of_one_le_left positive.le one
  have rounded : t ≤ 2 * (r * p) := by
    have number := product
    rw [magnitude_mul known (magnitude_of_denotes first), nearestValue_coe] at number
    split at number
    · rw [← WithTop.coe_inj.1 number]
      exact nearestNumber_le_two_mul ((le_of_denotes_of_pos first positive).trans larger)
    · cases number
  have positive' : 0 < q := positive.trans_le le
  refine .of_le (magnitude_div positive'.ne' product (magnitude_of_denotes second)).le
    (WithTop.coe_le_coe.2 ?_) bounded
  rw [div_le_iff₀ positive']
  calc t ≤ 2 * (r * p) := rounded
    _ ≤ 2 * (2 ^ k * q) := by gcongr
    _ = 2 ^ (k + 1) * q := by ring

end Binary64

end BenchCampaign
