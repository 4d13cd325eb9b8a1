import BenchCampaign.Proofs.Arithmetic.Greatest
import BenchCampaign.Proofs.Binary64.Order

/-!
# The sizes of doubles

Every double that is a number has a size, an integer that grows with the number; the two zeros are
of one size.  The comparisons of doubles are those of their sizes, so among numbers they are as good
as those of integers, and numbers of one size are the same but for the sign of zero.

* `size_lt_iff`, `size_le_iff`, `beq_iff`: the comparisons of numbers.
* `comparedBy_size`: so the greatest of some doubles is the one of the greatest size.
* `eq_or_zero_of_size_eq`: numbers of one size.
-/

namespace BenchCampaign

namespace Binary64

open Float.Model (UnpackedFloat Format)
open Float.Model.UnpackedFloat

/-! ## Sizes by parts -/

/-- A natural number with a sign; without a size the sign is nothing. -/
def oriented : Sign → Nat → Int
  | .positive, k => k
  | .negative, k => -k

/-- The size of a double with the given parts. -/
def extent : UnpackedFloat → Int
  | .notANumber => 0
  | .infinity s => oriented s (2047 * 2 ^ 52)
  | .zero _ => 0
  | .finite s m e _ => oriented s ((e - minExponent).toNat * 2 ^ 52 + m)

/-- The size of a double. -/
def size (x : Float) : Int := extent x.toModel.unpack

theorem compare_neg_neg (a b : Int) : compare (-a) (-b) = compare b a := by
  rcases Int.lt_trichotomy a b with less | rfl | more
  · rw [Int.compare_eq_gt.2 (Int.neg_lt_neg less), Int.compare_eq_gt.2 less]
  · rw [Int.compare_eq_eq.2 rfl, Int.compare_eq_eq.2 rfl]
  · rw [Int.compare_eq_lt.2 (Int.neg_lt_neg more), Int.compare_eq_lt.2 more]

/-- Exponents and mantissas are compared as the sizes are. -/
theorem compare_magnitude {m m' : Nat} {e e' : Int} (fits : Fits m e) (fits' : Fits m' e') :
    (compare e e').then (compare m m') =
      compare (((e - minExponent).toNat * 2 ^ 52 + m : Nat) : Int)
        ((e' - minExponent).toNat * 2 ^ 52 + m' : Nat) := by
  cases order : (compare e e').then (compare m m') with
  | lt =>
    have less := magnitude_lt fits fits' order
    rw [Int.compare_eq_lt.2 (Int.ofNat_lt.2 less)]
  | eq =>
    rw [Ordering.then_eq_eq, Int.compare_eq_eq, Nat.compare_eq_eq] at order
    rw [order.1, order.2, Int.compare_eq_eq.2 rfl]
  | gt =>
    have swapped : (compare e' e).then (compare m' m) = .lt := by
      rw [← Int.compare_swap e e', ← Nat.compare_swap m m', ← Ordering.swap_then, order]
      rfl
    have more := magnitude_lt fits' fits swapped
    rw [Int.compare_eq_gt.2 (Int.ofNat_lt.2 more)]

/-! ## Signs -/

theorem oriented_lt_positive {s : Sign} {k k' : Nat} (less : k < k') :
    oriented s k < oriented .positive k' := by
  cases s <;> simp only [oriented] <;> omega

theorem oriented_negative_lt {s : Sign} {k k' : Nat} (less : k' < k) :
    oriented .negative k < oriented s k' := by
  cases s <;> simp only [oriented] <;> omega

theorem oriented_negative_lt_positive {k k' : Nat} (pos : 0 < k) :
    oriented .negative k < oriented .positive k' := by
  simp only [oriented]
  omega

/-! ## Comparisons -/

/-- Numbers compare as their sizes do. -/
theorem compare_eq {u v : UnpackedFloat} (bounded : Bounded u) (bounded' : Bounded v)
    (number : u.isNaN = false) (number' : v.isNaN = false) :
    u.compare v = some (compare (extent u) (extent v)) := by
  have less {a b : Int} (h : a < b) : some Ordering.lt = some (compare a b) := by
    rw [Int.compare_eq_lt.2 h]
  have more {a b : Int} (h : b < a) : some Ordering.gt = some (compare a b) := by
    rw [Int.compare_eq_gt.2 h]
  cases u with
  | notANumber => cases number
  | infinity s =>
    cases v with
    | notANumber => cases number'
    | infinity s' => cases s <;> cases s' <;> rfl
    | zero s' => cases s <;> rfl
    | finite s' m' e' pos' =>
      have small := magnitude_lt_infinite bounded'.1 bounded'.2
      cases s with
      | positive => exact more (oriented_lt_positive small)
      | negative => exact less (oriented_negative_lt small)
  | zero s =>
    cases v with
    | notANumber => cases number'
    | infinity s' => cases s' <;> rfl
    | zero s' => rfl
    | finite s' m' e' pos' =>
      cases s' with
      | positive => exact less (oriented_lt_positive (s := .positive) (Nat.add_pos_right _ pos'))
      | negative => exact more (oriented_negative_lt (s := .positive) (Nat.add_pos_right _ pos'))
  | finite s m e pos =>
    cases v with
    | notANumber => cases number'
    | infinity s' =>
      have small := magnitude_lt_infinite bounded.1 bounded.2
      cases s' with
      | positive =>
        have below : extent (.finite s m e pos) < extent (.infinity .positive) :=
          oriented_lt_positive small
        cases s <;> exact less below
      | negative =>
        have above : extent (.infinity .negative) < extent (.finite s m e pos) :=
          oriented_negative_lt small
        cases s <;> exact more above
    | zero s' =>
      cases s with
      | positive => exact more (oriented_lt_positive (s := .positive) (Nat.add_pos_right _ pos))
      | negative => exact less (oriented_negative_lt (s := .positive) (Nat.add_pos_right _ pos))
    | finite s' m' e' pos' =>
      cases s with
      | positive =>
        cases s' with
        | positive => exact congrArg some (compare_magnitude bounded.1 bounded'.1)
        | negative => exact more (oriented_negative_lt_positive (Nat.add_pos_right _ pos'))
      | negative =>
        cases s' with
        | positive => exact less (oriented_negative_lt_positive (Nat.add_pos_right _ pos))
        | negative =>
          refine congrArg some ?_
          rw [compare_magnitude bounded.1 bounded'.1, Int.compare_swap]
          exact (compare_neg_neg _ _).symm

theorem compare_of_numbers {x y : Float} (number : x.isNaN = false) (number' : y.isNaN = false) :
    x.toModel.unpack.compare y.toModel.unpack = some (compare (size x) (size y)) :=
  compare_eq (bounded_unpack x) (bounded_unpack y) number number'

theorem size_lt_iff {x y : Float} (number : x.isNaN = false) (number' : y.isNaN = false) :
    x < y ↔ size x < size y := by
  rw [lt_iff, UnpackedFloat.lt, compare_of_numbers number number', beq_iff_eq, Option.some.injEq,
    Int.compare_eq_lt]

theorem size_le_iff {x y : Float} (number : x.isNaN = false) (number' : y.isNaN = false) :
    x ≤ y ↔ size x ≤ size y := by
  rw [le_iff, UnpackedFloat.le, compare_of_numbers number number', Option.any_some,
    Int.isLE_compare]

theorem beq_iff {x y : Float} (number : x.isNaN = false) (number' : y.isNaN = false) :
    (x == y) = true ↔ size x = size y := by
  change x.toModel.unpack.beq y.toModel.unpack = true ↔ _
  rw [UnpackedFloat.beq, compare_of_numbers number number', beq_iff_eq, Option.some.injEq,
    Int.compare_eq_eq]

/-- What is no number is not equal to itself. -/
theorem beq_self_eq (x : Float) : (x == x) = !x.isNaN := by
  cases none : x.isNaN with
  | true =>
    change x.toModel.unpack.beq x.toModel.unpack = _
    rw [unpack_of_isNaN none]
    rfl
  | false => exact (beq_iff none none).2 rfl

theorem isNumber_iff {x : Float} : Arithmetic.isNumber x = true ↔ x.isNaN = false := by
  change (x == x) = true ↔ _
  rw [beq_self_eq, Bool.not_eq_true']

/-- Doubles are compared by their sizes. -/
theorem comparedBy_size : Arithmetic.ComparedBy size := by
  intro a b number number'
  rw [isNumber_iff] at number number'
  rw [← size_lt_iff number number']
  exact decide_eq_true_iff

/-! ## Numbers of one size -/

theorem oriented_injective {s s' : Sign} {k k' : Nat} (pos : 0 < k)
    (same : oriented s k = oriented s' k') : s = s' ∧ k = k' := by
  cases s <;> cases s' <;> simp only [oriented] at same <;> first | exact ⟨rfl, by omega⟩ | omega

/-- Where there is a size, its sign and amount are those of the rank. -/
theorem exists_oriented {u : UnpackedFloat} (some : extent u ≠ 0) :
    ∃ s k, 0 < k ∧ extent u = oriented s k ∧ place u = signed s k := by
  cases u with
  | notANumber => exact absurd rfl some
  | infinity s => exact ⟨s, _, by decide, rfl, rfl⟩
  | zero s => exact absurd rfl some
  | finite s m e pos => exact ⟨s, _, Nat.add_pos_right _ pos, rfl, rfl⟩

/-- Numbers of one size are the same, or both are zero. -/
theorem eq_or_zero_of_size_eq {x y : Float} (number : x.isNaN = false) (number' : y.isNaN = false)
    (same : size x = size y) : x = y ∨ (x == 0) = true ∧ (y == 0) = true := by
  by_cases none : size x = 0
  · exact .inr ⟨(beq_iff number rfl).2 none, (beq_iff number' rfl).2 (same ▸ none)⟩
  · obtain ⟨s, k, pos, oriented, place⟩ := exists_oriented none
    obtain ⟨s', k', -, oriented', place'⟩ := exists_oriented (same ▸ none)
    obtain ⟨rfl, rfl⟩ := oriented_injective pos (oriented.symm.trans (same.trans oriented'))
    refine .inl (rank_injective ?_)
    rw [rank_eq_place, rank_eq_place, place, place']

end Binary64

end BenchCampaign
