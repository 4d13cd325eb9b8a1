import BenchCampaign.Proofs.Binary64.Operations

/-!
# Doubles that are not below zero

An amount is a number that is not below zero; it may be infinite, and it may be either zero.  Sums
of amounts are amounts.  Infinity times zero is no number, so of products it is only said that an
amount times a positive number is one.  Once something is no number, nothing adds or multiplies
it back.

* `isAmount_iff`: amounts are the numbers that are not told to be below zero.
* `isAmount_add`, `isAmount_mul`: sums and products of amounts.
* `isAmount_sum`, `between_sum`: sums of lists, however long.
* `isNaN_add`, `isNaN_mul`: what is no number stays none.
-/

namespace BenchCampaign

namespace Binary64

open Float.Model (UnpackedFloat Format)
open Float.Model.UnpackedFloat

/-! ## Amounts -/

/-- A number that is not below zero, either zero and infinity included. -/
def IsAmount : UnpackedFloat → Prop
  | .notANumber => False
  | .infinity s => s = .positive
  | .zero _ => True
  | .finite s _ _ _ => s = .positive

theorem isAmount_of_hasSign {u : UnpackedFloat} (signed : HasSign .positive u) : IsAmount u := by
  cases u with
  | notANumber => exact signed
  | infinity s => exact signed
  | zero s => trivial
  | finite s m e pos => exact signed

/-- Amounts are packed into amounts. -/
theorem isAmount_pack {u : UnpackedFloat} (amount : IsAmount u) :
    IsAmount (Float.Model.pack u).unpack := by
  cases u with
  | notANumber => exact amount.elim
  | infinity s => exact isAmount_of_hasSign (hasSign_unpack_pack amount)
  | zero s => cases s <;> trivial
  | finite s m e pos => exact isAmount_of_hasSign (hasSign_unpack_pack amount)

theorem Between.isAmount {x : Float} {i j : ℤ} (h : Between x i j) :
    IsAmount x.toModel.unpack := by
  obtain ⟨_, ⟨m, e, pos, parts, -⟩, -⟩ := h
  rw [parts]
  rfl

/-- The amounts are the numbers that are not told to be below zero. -/
theorem isAmount_iff (x : Float) :
    IsAmount x.toModel.unpack ↔ x.isNaN = false ∧ ¬ x < 0 := by
  rw [lt_iff]
  change IsAmount x.toModel.unpack ↔ x.toModel.unpack.isNaN = false ∧
    ¬ x.toModel.unpack.lt (.zero .positive) = true
  cases x.toModel.unpack with
  | notANumber => exact iff_of_false id fun number => Bool.noConfusion number.1
  | infinity s =>
    cases s with
    | positive => exact iff_of_true rfl ⟨rfl, Bool.false_ne_true⟩
    | negative => exact iff_of_false nofun fun nonneg => nonneg.2 rfl
  | zero s => exact iff_of_true trivial ⟨rfl, Bool.false_ne_true⟩
  | finite s m e pos =>
    cases s with
    | positive => exact iff_of_true rfl ⟨rfl, Bool.false_ne_true⟩
    | negative => exact iff_of_false nofun fun nonneg => nonneg.2 rfl

theorem isAmount_of_pos {x : Float} (pos : 0 < x) : IsAmount x.toModel.unpack := by
  rw [lt_iff] at pos
  change UnpackedFloat.lt (.zero .positive) x.toModel.unpack = true at pos
  generalize x.toModel.unpack = u at pos
  cases u with
  | notANumber => cases pos
  | infinity s =>
    cases s with
    | positive => rfl
    | negative => cases pos
  | zero s => trivial
  | finite s m e pos' =>
    cases s with
    | positive => rfl
    | negative => cases pos

theorem isAmount_roundWithAccuracy (m : ℕ) (e : ℤ) (a : Accuracy) :
    IsAmount (roundWithAccuracy Format.binary64 .positive m e a) := by
  unfold roundWithAccuracy
  dsimp only
  split
  · trivial
  · rfl

theorem isAmount_add {x y : Float} (first : IsAmount x.toModel.unpack)
    (second : IsAmount y.toModel.unpack) : IsAmount (x + y).toModel.unpack := by
  change IsAmount (Float.Model.pack
    (UnpackedFloat.add Format.binary64 x.toModel.unpack y.toModel.unpack)).unpack
  apply isAmount_pack
  generalize x.toModel.unpack = u at first
  generalize y.toModel.unpack = v at second
  cases u with
  | notANumber => exact first.elim
  | infinity s =>
    cases first
    cases v with
    | notANumber => exact second.elim
    | infinity s' =>
      cases second
      rfl
    | zero s' => rfl
    | finite s' n f pos' => rfl
  | zero s =>
    cases v with
    | notANumber => exact second.elim
    | infinity s' => exact second
    | zero s' => cases s <;> cases s' <;> trivial
    | finite s' n f pos' => exact second
  | finite s m e pos =>
    cases first
    cases v with
    | notANumber => exact second.elim
    | infinity s' => exact second
    | zero s' => rfl
    | finite s' n f pos' =>
      cases second
      rw [add_finite]
      exact isAmount_roundWithAccuracy _ _ _

/-- An amount times a positive number is an amount: it takes zero times infinity to get none. -/
theorem isAmount_mul {x y : Float} {i j : ℤ} (first : IsAmount x.toModel.unpack)
    (second : Between y i j) : IsAmount (x * y).toModel.unpack := by
  obtain ⟨_, ⟨n, f, pos', parts, -⟩, -⟩ := second
  change IsAmount (Float.Model.pack
    (UnpackedFloat.mul Format.binary64 x.toModel.unpack y.toModel.unpack)).unpack
  apply isAmount_pack
  rw [parts]
  generalize x.toModel.unpack = u at first
  cases u with
  | notANumber => exact first.elim
  | infinity s =>
    cases first
    rfl
  | zero s => trivial
  | finite s m e pos =>
    cases first
    exact isAmount_roundWithAccuracy _ _ _

theorem float_mul_comm (x y : Float) : x * y = y * x := by
  have signs (s s' : Sign) : s * s' = s' * s := by cases s <;> cases s' <;> rfl
  change Float.ofModel (.pack (UnpackedFloat.mul Format.binary64 x.toModel.unpack
    y.toModel.unpack)) = .ofModel (.pack (UnpackedFloat.mul Format.binary64 y.toModel.unpack
      x.toModel.unpack))
  congr 2
  cases x.toModel.unpack <;> cases y.toModel.unpack <;>
    simp only [UnpackedFloat.mul, signs, Nat.mul_comm, Int.add_comm]

/-! ## Sums of lists -/

theorem unpack_emptySum : (Arithmetic.emptySum : Float).toModel.unpack = .zero .negative := rfl

/-- A sum of amounts is an amount. -/
theorem isAmount_sum {xs : List Float} (amounts : ∀ x ∈ xs, IsAmount x.toModel.unpack) :
    IsAmount (Arithmetic.sum xs).toModel.unpack := by
  have folded (start : Float) (amount : IsAmount start.toModel.unpack) :
      IsAmount (xs.foldl (· + ·) start).toModel.unpack := by
    induction xs generalizing start with
    | nil => exact amount
    | cons x xs ih =>
      obtain ⟨isAmount, rest⟩ := List.forall_mem_cons.1 amounts
      exact ih rest _ (isAmount_add amount isAmount)
  exact folded _ trivial

/-- However long it is, a sum of numbers below one bound stays below another one. -/
theorem between_sum {xs : List Float} {i j l : ℤ} (nonempty : xs ≠ [])
    (bounds : ∀ x ∈ xs, Between x i l) (least : -1022 ≤ i) (most : j ≤ 1023)
    (small : l < j - 53) : Between (Arithmetic.sum xs) i j := by
  have folded (ys : List Float) (ins : ∀ y ∈ ys, Between y i l) (start : Float)
      (between : Between start i j) : Between (ys.foldl (· + ·) start) i j := by
    induction ys generalizing start with
    | nil => exact between
    | cons y ys ih =>
      obtain ⟨summand, rest⟩ := List.forall_mem_cons.1 ins
      exact ih rest _ (between.add summand least most small)
  cases xs with
  | nil => exact absurd rfl nonempty
  | cons x xs =>
    obtain ⟨first, rest⟩ := List.forall_mem_cons.1 bounds
    have started : Between (Arithmetic.emptySum + x) i j :=
      (first.zero_add unpack_emptySum).mono (Int.le_refl i) (by omega)
    -- from `2 ^ j` on a summand is below half of the last place, and rounding drops it
    exact folded xs rest _ started

/-! ## What is no number -/

theorem not_lt_of_isNaN {x : Float} (none : x.isNaN = true) (y : Float) : ¬ x < y := by
  rw [lt_iff, unpack_of_isNaN none]
  cases y.toModel.unpack <;> exact Bool.false_ne_true

/-- What is no number stays none in a sum. -/
theorem isNaN_add (x : Float) {y : Float} (none : y.isNaN = true) : (x + y).isNaN = true := by
  have sum (u : UnpackedFloat) : UnpackedFloat.add Format.binary64 u .notANumber = .notANumber := by
    cases u <;> simp only [UnpackedFloat.add]
  change (Float.Model.pack (UnpackedFloat.add Format.binary64 x.toModel.unpack
    y.toModel.unpack)).unpack.isNaN = true
  rw [unpack_of_isNaN none, sum]
  rfl

/-- What is no number stays none in a product. -/
theorem isNaN_mul (x : Float) {y : Float} (none : y.isNaN = true) : (x * y).isNaN = true := by
  have product (u : UnpackedFloat) :
      UnpackedFloat.mul Format.binary64 u .notANumber = .notANumber := by
    cases u <;> simp only [UnpackedFloat.mul]
  change (Float.Model.pack (UnpackedFloat.mul Format.binary64 x.toModel.unpack
    y.toModel.unpack)).unpack.isNaN = true
  rw [unpack_of_isNaN none, product]
  rfl

end Binary64

end BenchCampaign
