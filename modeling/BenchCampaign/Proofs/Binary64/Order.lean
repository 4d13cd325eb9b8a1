import BenchCampaign.Proofs.Binary64.Packing

/-!
# The order of all doubles

Every double has a rank, no two doubles have the same one, and a double that is less than another
one has the lower rank.  So ranks order all doubles without ties, also where `<` says nothing: the
two zeros differ, and what is no number comes first.

* `rank_eq_place`: ranks by the parts of a double.
* `rank_injective`: doubles of one rank are the same.
* `rank_lt_of_lt`: ranks grow with the numbers.
* `precedes_trans`, `precedes_total`, `precedes_antisymm`: a total order.
-/

namespace BenchCampaign

namespace Binary64

open Float.Model (UnpackedFloat Format)
open Float.Model.UnpackedFloat

/-! ## Ranks by parts -/

theorem signOf_injective : Function.Injective signOf := by
  intro a b same
  cases a <;> cases b <;> first | rfl | cases same

/-- The natural numbers with a sign; the negative ones begin below zero. -/
def signed : Sign → Nat → Int
  | .positive, k => k
  | .negative, k => -(k : Int) - 1

/-- The rank of a double with the given parts. -/
def place : UnpackedFloat → Int
  | .notANumber => -(2 ^ 63 : Nat)
  | .infinity s => signed s (2047 * 2 ^ 52)
  | .zero s => signed s 0
  | .finite s m e _ => signed s ((e - minExponent).toNat * 2 ^ 52 + m)

theorem place_unpacked_finite (negative : Bool) (m : Nat) (e : Int)
    (least : m = 0 → e = minExponent) :
    place (finite negative m e).unpacked =
      signed (signOf negative) ((e - minExponent).toNat * 2 ^ 52 + m) := by
  by_cases zero : m = 0
  · rw [unpacked, dif_pos zero, least zero, zero, Int.sub_self]
    rfl
  · rw [unpacked, dif_neg zero]
    rfl

/-- Without its sign, the word of a number is its rank. -/
theorem place_unpack {word : BitVec Format.binary64.numBits}
    (number : (UnpackedFloat.unpack Format.binary64 word).isNaN = false) :
    place (UnpackedFloat.unpack Format.binary64 word) =
      signed (signOf (decide (2 ^ 63 ≤ word.toNat))) (word.toNat % 2 ^ 63) := by
  have size : word.toNat < 2 ^ 64 := word.isLt
  rw [unpack_eq] at number ⊢
  unfold ofWord at number ⊢
  dsimp only at number ⊢
  generalize decide (2 ^ 63 ≤ word.toNat) = negative at number ⊢
  split
  next full =>
    rw [if_pos full] at number
    split
    next none =>
      refine congrArg (signed (signOf negative)) ?_
      omega
    next fraction =>
      rw [if_neg fraction] at number
      cases number
  next =>
    split
    next subnormal =>
      rw [place_unpacked_finite negative _ _ fun _ => rfl, Int.sub_self]
      refine congrArg (signed (signOf negative)) ?_
      omega
    next normal =>
      rw [place_unpacked_finite negative _ _ (by omega)]
      refine congrArg (signed (signOf negative)) ?_
      omega

theorem rank_of_number {x : Float} (number : x.isNaN = false) :
    rank x = signed (signOf (decide (2 ^ 63 ≤ x.toBits.toNat))) (x.toBits.toNat % 2 ^ 63) := by
  have size : x.toBits.toNat < 2 ^ 64 := x.toBits.toNat_lt
  unfold rank
  rw [number, if_neg Bool.false_ne_true]
  change (if x.toBits.toNat < 2 ^ 63 then (x.toBits.toNat : Int)
    else -((x.toBits.toNat : Int) - (2 ^ 63 : Nat)) - 1) = _
  by_cases positive : x.toBits.toNat < 2 ^ 63
  · rw [if_pos positive, decide_eq_false (Nat.not_le_of_lt positive), Nat.mod_eq_of_lt positive]
    rfl
  · rw [if_neg positive, decide_eq_true (Nat.le_of_not_lt positive)]
    change _ = -(((x.toBits.toNat % 2 ^ 63 : Nat) : Int)) - 1
    omega

/-- The rank of a double is that of its parts. -/
theorem rank_eq_place (x : Float) : rank x = place x.toModel.unpack := by
  cases none : x.isNaN with
  | true =>
    rw [unpack_of_isNaN none, rank, if_pos none]
    rfl
  | false => exact (rank_of_number none).trans (place_unpack none).symm

/-! ## Ranks and sizes -/

/-- A number whose mantissa and exponent fit into a double. -/
def Bounded : UnpackedFloat → Prop
  | .finite _ m e _ => Fits m e ∧ e ≤ 971
  | _ => True

theorem bounded_unpack (x : Float) : Bounded x.toModel.unpack := by
  cases parts : x.toModel.unpack with
  | notANumber => trivial
  | infinity s => trivial
  | zero s => trivial
  | finite s m e pos => exact fits_of_unpack parts

/-- An exponent is worth more than any mantissa, as mantissas are full above the least one. -/
theorem magnitude_lt {m m' : Nat} {e e' : Int} (fits : Fits m e) (fits' : Fits m' e')
    (less : (compare e e').then (compare m m') = .lt) :
    (e - minExponent).toNat * 2 ^ 52 + m < (e' - minExponent).toNat * 2 ^ 52 + m' := by
  have length := fits.length
  have least := fits.least
  have full' := fits'.full
  rw [minExponent]
  rw [Ordering.then_eq_lt, Int.compare_eq_lt, Int.compare_eq_eq, Nat.compare_eq_lt] at less
  omega

theorem magnitude_lt_infinite {m : Nat} {e : Int} (fits : Fits m e) (most : e ≤ 971) :
    (e - minExponent).toNat * 2 ^ 52 + m < 2047 * 2 ^ 52 := by
  have length := fits.length
  rw [minExponent]
  omega

theorem signed_lt_positive {s : Sign} {k k' : Nat} (less : k < k') :
    signed s k < signed .positive k' := by
  cases s <;> simp only [signed] <;> omega

theorem signed_negative_lt {s : Sign} {k k' : Nat} (less : k' < k) :
    signed .negative k < signed s k' := by
  cases s <;> simp only [signed] <;> omega

theorem signed_negative_lt_positive (k k' : Nat) :
    signed .negative k < signed .positive k' := by
  simp only [signed]
  omega

theorem place_lt_of_lt {u v : UnpackedFloat} (bounded : Bounded u) (bounded' : Bounded v)
    (less : u.lt v = true) : place u < place v := by
  replace less : u.compare v = some .lt := beq_iff_eq.1 less
  cases u with
  | notANumber => cases less
  | infinity s =>
    cases s with
    | positive =>
      cases v with
      | infinity s' => cases s' <;> cases less
      | _ => cases less
    | negative =>
      cases v with
      | notANumber => cases less
      | infinity s' =>
        cases s' with
        | positive => exact signed_negative_lt_positive _ _
        | negative => cases less
      | zero s' => exact signed_negative_lt (by decide)
      | finite s' m' e' pos' =>
        exact signed_negative_lt (magnitude_lt_infinite bounded'.1 bounded'.2)
  | zero s =>
    cases v with
    | notANumber => cases less
    | zero s' => cases less
    | infinity s' =>
      cases s' with
      | positive => exact signed_lt_positive (by decide)
      | negative => cases less
    | finite s' m' e' pos' =>
      cases s' with
      | positive => exact signed_lt_positive (Nat.add_pos_right _ pos')
      | negative => cases less
  | finite s m e pos =>
    cases v with
    | notANumber => cases s <;> cases less
    | zero s' =>
      cases s with
      | positive => cases less
      | negative => exact signed_negative_lt (Nat.add_pos_right _ pos)
    | infinity s' =>
      cases s' with
      | positive => exact signed_lt_positive (magnitude_lt_infinite bounded.1 bounded.2)
      | negative => cases s <;> cases less
    | finite s' m' e' pos' =>
      cases s with
      | positive =>
        cases s' with
        | positive =>
          have smaller := magnitude_lt bounded.1 bounded'.1 (Option.some.inj less)
          exact signed_lt_positive (s := .positive) smaller
        | negative => cases less
      | negative =>
        cases s' with
        | positive => exact signed_negative_lt_positive _ _
        | negative =>
          have swapped : (compare e' e).then (compare m' m) = .lt := by
            rw [← Int.compare_swap e e', ← Nat.compare_swap m m', ← Ordering.swap_then]
            exact Option.some.inj less
          have greater := magnitude_lt bounded'.1 bounded.1 swapped
          exact signed_negative_lt (s := .negative) greater

/-- The lower of two doubles has the lower rank. -/
theorem rank_lt_of_lt {x y : Float} (less : x < y) : rank x < rank y := by
  rw [rank_eq_place, rank_eq_place]
  exact place_lt_of_lt (bounded_unpack x) (bounded_unpack y) ((lt_iff x y).1 less)

/-! ## Doubles of one rank -/

/-- There is only one double that is no number. -/
theorem eq_of_isNaN {x y : Float} (first : x.isNaN = true) (second : y.isNaN = true) : x = y := by
  rw [Float.isNaN_eq_decide_eq_nan, decide_eq_true_iff] at first second
  rw [first, second]

/-- What is no number comes before all numbers. -/
theorem rank_lt_of_isNaN {x y : Float} (none : x.isNaN = true) (number : y.isNaN = false) :
    rank x < rank y := by
  rw [rank_eq_place, rank_eq_place, unpack_of_isNaN none]
  have bounded := bounded_unpack y
  change y.toModel.unpack.isNaN = false at number
  generalize y.toModel.unpack = u at number bounded
  have last : place .notANumber = signed .negative (2 ^ 63 - 1) := rfl
  rw [last]
  cases u with
  | notANumber => cases number
  | infinity s => exact signed_negative_lt (by decide)
  | zero s => exact signed_negative_lt (by decide)
  | finite s m e pos =>
    exact signed_negative_lt
      (Nat.lt_trans (magnitude_lt_infinite bounded.1 bounded.2) (by decide))

theorem signed_injective {s s' : Sign} {k k' : Nat} (same : signed s k = signed s' k') :
    s = s' ∧ k = k' := by
  cases s <;> cases s' <;> simp only [signed] at same <;>
    first | exact ⟨rfl, by omega⟩ | omega

/-- Doubles of one rank are the same. -/
theorem rank_injective : Function.Injective rank := by
  intro x y same
  cases none : x.isNaN with
  | true =>
    cases none' : y.isNaN with
    | true => exact eq_of_isNaN none none'
    | false => exact absurd same (Int.ne_of_lt (rank_lt_of_isNaN none none'))
  | false =>
    cases none' : y.isNaN with
    | true => exact absurd same.symm (Int.ne_of_lt (rank_lt_of_isNaN none' none))
    | false =>
      rw [rank_of_number none, rank_of_number none'] at same
      obtain ⟨sameSign, sameRest⟩ := signed_injective same
      have sameSide := decide_eq_decide.1 (signOf_injective sameSign)
      have size : x.toBits.toNat < 2 ^ 64 := x.toBits.toNat_lt
      have size' : y.toBits.toNat < 2 ^ 64 := y.toBits.toNat_lt
      exact Float.toBits_inj.1 (UInt64.toNat_inj.1 (by omega))

/-! ## Which double comes first -/

theorem precedes_trans (x y z : Float) (first : precedes x y = true)
    (second : precedes y z = true) : precedes x z = true :=
  decide_eq_true (Int.le_trans (of_decide_eq_true first) (of_decide_eq_true second))

theorem precedes_total (x y : Float) : (precedes x y || precedes y x) = true := by
  rw [Bool.or_eq_true]
  exact (Int.le_total (rank x) (rank y)).imp decide_eq_true decide_eq_true

/-- Only a double itself comes both no later and no sooner. -/
theorem precedes_antisymm {x y : Float} (first : precedes x y = true)
    (second : precedes y x = true) : x = y :=
  rank_injective (Int.le_antisymm (of_decide_eq_true first) (of_decide_eq_true second))

/-- What comes no later is not greater. -/
theorem not_lt_of_precedes {x y : Float} (first : precedes x y = true) : ¬ y < x :=
  fun less => Int.not_le.2 (rank_lt_of_lt less) (of_decide_eq_true first)

end Binary64

end BenchCampaign
