import BenchCampaign.Decimal.Binary64
import Mathlib

/-!
# Doubles as the arithmetic takes them apart

The arithmetic of doubles takes a word apart into sign, mantissa and exponent, computes, and packs
the result into a word again.  Its parts are those of `Binary64.ofFloat`, where zero is one more
finite number.  What fits into a double comes back from packing unchanged, and anything else keeps
its sign.

* `Binary64.unpack_toModel`: the parts of a double.
* `Binary64.unpack_pack_finite`: a number that fits is packed without loss.
* `Binary64.hasSign_unpack_pack`: packing keeps signs, and makes no number into none.
-/

namespace BenchCampaign

namespace Binary64

open Float.Model (UnpackedFloat Format)
open Float.Model.UnpackedFloat

/-! ## Parts -/

/-- The sign of a number that is negative or not. -/
def signOf (negative : Bool) : Sign := if negative then .negative else .positive

theorem exists_signOf (s : Sign) : ∃ negative, signOf negative = s := by
  cases s with
  | negative => exact ⟨true, rfl⟩
  | positive => exact ⟨false, rfl⟩

/-- The parts of a double as the arithmetic has them: zero is a kind of its own. -/
def unpacked : Binary64 → UnpackedFloat
  | nan => .notANumber
  | infinite negative => .infinity (signOf negative)
  | finite negative significand exponent =>
    if h : significand = 0 then .zero (signOf negative)
    else .finite (signOf negative) significand exponent (Nat.pos_of_ne_zero h)

/-- The parts of the double that a word stands for. -/
def ofWord (word : BitVec Format.binary64.numBits) : Binary64 :=
  let bits := word.toNat
  let negative := decide (2 ^ 63 ≤ bits)
  let field : Nat := bits / 2 ^ 52 % 2 ^ 11
  let fraction : Nat := bits % 2 ^ 52
  if field = 2047 then
    if fraction = 0 then infinite negative else nan
  else if field = 0 then finite negative fraction minExponent
  else finite negative (2 ^ 52 + fraction) ((field : Int) - 1 + minExponent)

theorem ofFloat_eq_ofWord (x : Float) : ofFloat x = ofWord x.toBits.toBitVec := by
  simp only [ofFloat, ofWord, Nat.pow_eq]
  rfl

/-! ## Taking a word apart -/

theorem toNat_unpackMantissa (word : BitVec Format.binary64.numBits) :
    (unpackMantissa word).toNat = word.toNat % 2 ^ 52 := by
  simp [unpackMantissa, BitVec.extractLsb_toNat]

theorem toNat_unpackExponent (word : BitVec Format.binary64.numBits) :
    (unpackExponent word).toNat = word.toNat / 2 ^ 52 % 2 ^ 11 := by
  simp [unpackExponent, BitVec.extractLsb_toNat, Nat.shiftRight_eq_div_pow]

theorem ofBitVec_unpackSign (word : BitVec Format.binary64.numBits) :
    Sign.ofBitVec (unpackSign word) = signOf (decide (2 ^ 63 ≤ word.toNat)) := by
  have size : word.toNat < 2 ^ 64 := word.isLt
  have value : (unpackSign word).toNat = word.toNat / 2 ^ 63 := by
    simp [unpackSign, BitVec.extractLsb_toNat, Nat.shiftRight_eq_div_pow]
    omega
  by_cases negative : 2 ^ 63 ≤ word.toNat
  · have one : unpackSign word ≠ 0#1 := by
      intro zero
      rw [zero, BitVec.toNat_ofNat] at value
      omega
    rw [decide_eq_true negative]
    exact if_neg one
  · have zero : unpackSign word = 0#1 := by
      apply BitVec.eq_of_toNat_eq
      rw [value, BitVec.toNat_ofNat]
      omega
    rw [decide_eq_false negative]
    exact if_pos zero

theorem toNat_append_one {w : Nat} (v : BitVec w) : (1#1 ++ v).toNat = 2 ^ w + v.toNat := by
  rw [BitVec.toNat_append, ← Nat.shiftLeft_add_eq_or_of_lt v.isLt]
  simp [Nat.shiftLeft_eq]

theorem unpack_eq (word : BitVec Format.binary64.numBits) :
    UnpackedFloat.unpack Format.binary64 word = (ofWord word).unpacked := by
  have mantissa := toNat_unpackMantissa word
  have exponent := toNat_unpackExponent word
  have bias : ((Format.binary64.exponentBias : Nat) : Int) = 1023 := rfl
  have full : unpackExponent word = -1#_ ↔ word.toNat / 2 ^ 52 % 2 ^ 11 = 2047 := by
    rw [← BitVec.toNat_inj, exponent]
    simp
  have empty : unpackExponent word = 0#_ ↔ word.toNat / 2 ^ 52 % 2 ^ 11 = 0 := by
    rw [← BitVec.toNat_inj, exponent]
    simp
  have none : unpackMantissa word = 0#_ ↔ word.toNat % 2 ^ 52 = 0 := by
    rw [← BitVec.toNat_inj, mantissa]
    simp
  unfold UnpackedFloat.unpack ofWord
  simp only [full, empty, none, ofBitVec_unpackSign, toNat_append_one, mantissa, exponent]
  split
  next => split <;> rfl
  next =>
    split
    next subnormal =>
      split
      next zero => rw [unpacked, dif_pos zero]
      next nonzero =>
        rw [unpacked, dif_neg nonzero]
        congr 1
        rw [bias, subnormal]
        rfl
    next normal =>
      rw [unpacked, dif_neg (by omega)]
      congr 1
      rw [bias, minExponent]
      omega

/-- A double has the same parts for its arithmetic as for its text. -/
theorem unpack_toModel (x : Float) : x.toModel.unpack = (ofFloat x).unpacked := by
  rw [ofFloat_eq_ofWord]
  exact unpack_eq _

theorem unpack_of_isNaN {x : Float} (none : x.isNaN = true) :
    x.toModel.unpack = .notANumber := by
  change x.toModel.unpack.isNaN = true at none
  cases parts : x.toModel.unpack <;> rw [parts] at none <;> first | rfl | cases none

theorem lt_iff (x y : Float) : x < y ↔ x.toModel.unpack.lt y.toModel.unpack = true := by
  change (decide (x.toModel < y.toModel) = true) ↔ _
  rw [decide_eq_true_iff]
  exact Iff.rfl

theorem le_iff (x y : Float) : x ≤ y ↔ x.toModel.unpack.le y.toModel.unpack = true := by
  change (decide (x.toModel ≤ y.toModel) = true) ↔ _
  rw [decide_eq_true_iff]
  exact Iff.rfl

/-! ## Packing -/

theorem toNat_packComponents (negative : Bool) (exponent : BitVec 11) (mantissa : BitVec 52) :
    (packComponents Format.binary64 (signOf negative) exponent mantissa).toNat =
      (if negative then 2 ^ 63 else 0) + exponent.toNat * 2 ^ 52 + mantissa.toNat := by
  unfold packComponents
  rw [BitVec.toNat_append, BitVec.toNat_append, ← Nat.shiftLeft_add_eq_or_of_lt mantissa.isLt,
    ← Nat.shiftLeft_add_eq_or_of_lt exponent.isLt]
  simp only [Nat.shiftLeft_eq]
  cases negative
  · change (0 * 2 ^ 11 + exponent.toNat) * 2 ^ 52 + mantissa.toNat = _
    rw [if_neg Bool.false_ne_true]
    omega
  · change (1 * 2 ^ 11 + exponent.toNat) * 2 ^ 52 + mantissa.toNat = _
    rw [if_pos rfl]
    omega

theorem ofWord_packComponents (negative : Bool) (exponent : BitVec 11) (mantissa : BitVec 52) :
    ofWord (packComponents Format.binary64 (signOf negative) exponent mantissa) =
      if exponent.toNat = 2047 then
        if mantissa.toNat = 0 then infinite negative else nan
      else if exponent.toNat = 0 then finite negative mantissa.toNat minExponent
      else finite negative (2 ^ 52 + mantissa.toNat)
        ((exponent.toNat : Int) - 1 + minExponent) := by
  have fraction : mantissa.toNat < 2 ^ 52 := mantissa.isLt
  have field : exponent.toNat < 2 ^ 11 := exponent.isLt
  have word := toNat_packComponents negative exponent mantissa
  generalize packComponents Format.binary64 (signOf negative) exponent mantissa = packed at word
  have signPart : decide (2 ^ 63 ≤ packed.toNat) = negative := by
    cases negative with
    | false =>
      rw [if_neg Bool.false_ne_true] at word
      exact decide_eq_false (by omega)
    | true =>
      rw [if_pos rfl] at word
      exact decide_eq_true (by omega)
  have exponentPart : packed.toNat / 2 ^ 52 % 2 ^ 11 = exponent.toNat := by
    split at word <;> omega
  have fractionPart : packed.toNat % 2 ^ 52 = mantissa.toNat := by
    split at word <;> omega
  simp only [ofWord, signPart, exponentPart, fractionPart]

/-- The mantissas and exponents of doubles, as far as the exponent is not too large. -/
structure Fits (m : Nat) (e : Int) : Prop where
  length : m < 2 ^ 53
  least : -1074 ≤ e
  full : 2 ^ 52 ≤ m ∨ e = -1074

/-- The parts of a double that is neither zero nor infinite fit into a double. -/
theorem fits_of_unpack {x : Float} {s : Sign} {m : Nat} {e : Int} {pos : 0 < m}
    (parts : x.toModel.unpack = .finite s m e pos) : Fits m e ∧ e ≤ 971 := by
  rw [unpack_toModel, ofFloat_eq_ofWord] at parts
  unfold ofWord at parts
  dsimp only at parts
  split at parts
  next => split at parts <;> cases parts
  next =>
    split at parts
    next =>
      rw [unpacked] at parts
      split at parts
      · cases parts
      · cases parts
        exact ⟨⟨by omega, Int.le_refl _, .inr rfl⟩, by decide⟩
    next =>
      rw [unpacked, dif_neg (by omega)] at parts
      cases parts
      rw [minExponent]
      exact ⟨⟨by omega, by omega, .inl (by omega)⟩, by omega⟩

theorem ofWord_pack_finite (negative : Bool) {m : Nat} {e : Int} (fits : Fits m e)
    (bounded : e ≤ 971) (pos : 0 < m) :
    ofWord (UnpackedFloat.pack Format.binary64 (.finite (signOf negative) m e pos)) =
      finite negative m e := by
  have length := fits.length
  have least := fits.least
  have bias : (Format.binary64.exponentBias : Int) = 1023 := rfl
  have biased : (e + (Format.binary64.exponentBias : Int) +
      (Format.binary64.mantissaBitsWithoutImplicit : Int)).toNat = (e + 1075).toNat := by
    rw [bias]
    congr 1
    change e + 1023 + 52 = _
    omega
  have small : ¬ 2 ^ 11 ≤ (e + 1075).toNat + 1 := by omega
  have field : (e + 1075).toNat % 2 ^ 11 = (e + 1075).toNat := Nat.mod_eq_of_lt (by omega)
  have positive : (e + 1075).toNat ≠ 0 := by omega
  simp only [UnpackedFloat.pack, biased]
  rw [if_neg small]
  by_cases normal : 2 ^ 52 ≤ m
  · have digits : m.log2 + 1 = Format.binary64.mantissaBits :=
      congrArg (· + 1) ((Nat.log2_eq_iff (Nat.ne_of_gt pos)).2 ⟨normal, length⟩)
    rw [if_pos digits, ofWord_packComponents, BitVec.toNat_ofNat, BitVec.toNat_ofNat, field,
      if_neg (by omega), if_neg positive]
    congr 1
    · omega
    · rw [minExponent]
      omega
  · have subnormal : e = -1074 := fits.full.resolve_left normal
    have digits : ¬ m.log2 + 1 = Format.binary64.mantissaBits := by
      have short : m.log2 < 52 := (Nat.log2_lt (Nat.ne_of_gt pos)).2 (by omega)
      change ¬ m.log2 + 1 = 53
      omega
    have fraction : m % 2 ^ 52 = m := Nat.mod_eq_of_lt (by omega)
    rw [if_neg digits, ofWord_packComponents, BitVec.toNat_ofNat, BitVec.toNat_ofNat, fraction,
      subnormal]
    rfl

/-- What fits into a double is packed without loss. -/
theorem unpack_pack_finite (s : Sign) {m : Nat} {e : Int} (fits : Fits m e) (bounded : e ≤ 971)
    (pos : 0 < m) :
    (Float.Model.pack (.finite s m e pos)).unpack = .finite s m e pos := by
  obtain ⟨negative, rfl⟩ := exists_signOf s
  change UnpackedFloat.unpack Format.binary64 (UnpackedFloat.pack Format.binary64 _) = _
  rw [unpack_eq, ofWord_pack_finite negative fits bounded pos]
  exact dif_neg (Nat.ne_of_gt pos)

/-- What is too large for a double is packed as infinity. -/
theorem unpack_pack_overflow (s : Sign) {m : Nat} {e : Int} (large : 972 ≤ e) (pos : 0 < m) :
    (Float.Model.pack (.finite s m e pos)).unpack = .infinity s := by
  obtain ⟨negative, rfl⟩ := exists_signOf s
  have biased : 2 ^ Format.binary64.exponentBits ≤ (e + (Format.binary64.exponentBias : Int) +
      (Format.binary64.mantissaBitsWithoutImplicit : Int)).toNat + 1 := by
    change 2048 ≤ (e + 1023 + 52).toNat + 1
    omega
  change UnpackedFloat.unpack Format.binary64 (UnpackedFloat.pack Format.binary64 _) = _
  rw [unpack_eq]
  simp only [UnpackedFloat.pack]
  rw [if_pos biased]
  cases negative <;> rfl

/-! ## Signs -/

/-- What is a number of a sign, zero and infinity included. -/
def HasSign (s : Sign) : UnpackedFloat → Prop
  | .notANumber => False
  | .infinity s' => s' = s
  | .zero s' => s' = s
  | .finite s' _ _ _ => s' = s

theorem hasSign_unpacked_finite (negative : Bool) (m : Nat) (e : Int) :
    HasSign (signOf negative) (finite negative m e).unpacked := by
  by_cases zero : m = 0 <;> simp [unpacked, zero, HasSign]

/-- A number keeps its sign when it is packed, whatever else becomes of it. -/
theorem hasSign_unpack_pack {s : Sign} {u : UnpackedFloat} (signed : HasSign s u) :
    HasSign s (Float.Model.pack u).unpack := by
  obtain ⟨negative, rfl⟩ := exists_signOf s
  cases u with
  | notANumber => exact signed
  | infinity s' =>
    cases signed
    cases negative <;> rfl
  | zero s' =>
    cases signed
    cases negative <;> rfl
  | finite s' m e pos =>
    cases signed
    change HasSign _ (UnpackedFloat.unpack Format.binary64 (UnpackedFloat.pack Format.binary64 _))
    rw [unpack_eq]
    simp only [UnpackedFloat.pack]
    split
    next overflow => cases negative <;> rfl
    next bounded =>
      split
      next normal =>
        rw [ofWord_packComponents, BitVec.toNat_ofNat,
          if_neg (by rw [Nat.mod_eq_of_lt] <;> omega)]
        split <;> exact hasSign_unpacked_finite negative _ _
      next subnormal =>
        rw [ofWord_packComponents]
        exact hasSign_unpacked_finite negative _ _

end Binary64

end BenchCampaign
