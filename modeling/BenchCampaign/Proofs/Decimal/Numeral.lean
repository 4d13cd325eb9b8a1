import BenchCampaign.Decimal.Reading
import BenchCampaign.Decimal.Text
import Mathlib.Data.List.Induction

/-!
# Decimal numerals

The digits of a natural number spell that number, begin with a zero only if they are a zero
alone, and end where something stands behind them that is no digit.

* `Decimal.natural?_toDigits`: the digits of a number are read as that number.
* `Decimal.head?_toDigits`: a number that is not zero has no leading zero.
* `Decimal.toDigits_ofDigits`: digits without a leading zero are those of their number.
* `Decimal.bind_uint64_eq_some_iff`: numbers that fit into a word.
* `Decimal.spells_positional`: the characters of a coordinate.
-/

namespace BenchCampaign

namespace Decimal

/-- A text that does not begin with a digit. -/
def BeginsNoDigit (text : List Char) : Prop := ∀ c ∈ text.head?, c.isDigit = false

theorem isDigit_toDigits {n : Nat} {c : Char} (member : c ∈ Nat.toDigits 10 n) :
    c.isDigit = true :=
  Nat.isDigit_of_mem_toDigits (by decide) (by decide) member

theorem ofDigits_eq_ofDigitChars (ds : List Char) : ofDigits ds = Nat.ofDigitChars 10 ds 0 := by
  unfold ofDigits digitValue
  rw [Nat.ofDigitChars_eq_foldl]
  simp only [Nat.mul_comm]

theorem ofDigits_toDigits (n : Nat) : ofDigits (Nat.toDigits 10 n) = n := by
  rw [ofDigits_eq_ofDigitChars, Nat.ofDigitChars_ten_toDigits]

/-- A natural number is read from digits, of which there is at least one. -/
theorem natural?_eq_some_iff {cs : List Char} {n : Nat} :
    natural? cs = some n ↔
      cs ≠ [] ∧ (∀ c ∈ cs, c.isDigit = true) ∧ Nat.ofDigitChars 10 cs 0 = n := by
  rw [← ofDigits_eq_ofDigitChars, ← List.all_eq_true, ← List.isEmpty_eq_false_iff, natural?]
  cases cs.isEmpty <;> cases cs.all Char.isDigit <;> simp

theorem natural?_toDigits (n : Nat) : natural? (Nat.toDigits 10 n) = some n := by
  have digits : (Nat.toDigits 10 n).all Char.isDigit = true :=
    List.all_eq_true.mpr fun _ member => isDigit_toDigits member
  unfold natural?
  rw [digits, ofDigits_toDigits]
  simp

/-- Only zero begins with a zero. -/
theorem head?_toDigits {n : Nat} (positive : 0 < n) : (Nat.toDigits 10 n).head? ≠ some '0' := by
  by_cases single : n < 10
  · rw [Nat.toDigits_of_lt_base single]
    revert positive
    revert single
    revert n
    decide
  · have tail := head?_toDigits (n := n / 10) (by omega)
    rw [Nat.toDigits_of_base_le (by decide) (by omega), List.head?_append]
    have some : (Nat.toDigits 10 (n / 10)).head?.isSome := by
      rw [List.isSome_head?]
      simp
    rwa [Option.or_of_isSome some]

theorem toDigits_digitValue {c : Char} (digit : c.isDigit = true) :
    digitValue c < 10 ∧ Nat.toDigits 10 (digitValue c) = [c] := by
  have bounds : 48 ≤ c.toNat ∧ c.toNat ≤ 57 := Char.isDigit_iff_toNat.1 digit
  have value : digitValue c = c.toNat - 48 := rfl
  have small : digitValue c < 10 := by omega
  refine ⟨small, ?_⟩
  have code := Nat.toNat_digitChar_of_lt_ten small
  have same : (digitValue c).digitChar = c := Char.toNat_inj.1 (by omega)
  rw [Nat.toDigits_of_lt_base small, same]

/-- Digits that do not begin with a zero are those of their number. -/
theorem toDigits_ofDigits {ds : List Char} (nonempty : ds ≠ [])
    (digits : ∀ c ∈ ds, c.isDigit = true) (noZero : ds.head? ≠ some '0') :
    Nat.toDigits 10 (ofDigits ds) = ds := by
  induction ds using List.reverseRecOn with
  | nil => exact (nonempty rfl).elim
  | append_singleton ds c ih =>
    obtain ⟨small, last⟩ := toDigits_digitValue (digits c (by simp))
    have value : ofDigits (ds ++ [c]) = 10 * ofDigits ds + digitValue c := by
      rw [ofDigits, List.foldl_append, Nat.mul_comm]
      rfl
    rw [value]
    by_cases single : ds = []
    · rw [single]
      simpa [ofDigits] using last
    · have noZero' : ds.head? ≠ some '0' := by
        obtain ⟨d, rest, rfl⟩ := List.exists_cons_of_ne_nil single
        exact noZero
      have front := ih single (fun d listed => digits d (List.mem_append_left _ listed)) noZero'
      -- a number in front that is zero would be written as a zero
      have positive : 0 < ofDigits ds := by
        refine Nat.pos_of_ne_zero fun zero => ?_
        rw [zero] at front
        exact noZero' (front ▸ rfl)
      rw [← Nat.toDigits_append_toDigits (by decide) positive small, front, last]

theorem takeWhile_isDigit_append {digits rest : List Char}
    (all : ∀ c ∈ digits, c.isDigit = true) (ends : BeginsNoDigit rest) :
    (digits ++ rest).takeWhile Char.isDigit = digits := by
  rw [List.takeWhile_append_of_pos all]
  cases rest with
  | nil => simp
  | cons c rest => simp [ends c rfl]

theorem dropWhile_isDigit_append {digits rest : List Char}
    (all : ∀ c ∈ digits, c.isDigit = true) (ends : BeginsNoDigit rest) :
    (digits ++ rest).dropWhile Char.isDigit = rest := by
  rw [List.dropWhile_append_of_pos all]
  cases rest with
  | nil => rfl
  | cons c rest => simp [ends c rfl]

/-! ## Words -/

/-- A number is one of 32 bits if it fits into them. -/
theorem bind_uint32_eq_some_iff {found : Option Nat} {w : UInt32} :
    (found.bind fun n => if n < UInt32.size then some (UInt32.ofNat n) else none) = some w ↔
      found = some w.toNat := by
  rw [Option.bind_eq_some_iff]
  constructor
  · rintro ⟨n, rfl, fits⟩
    split at fits
    next small =>
      cases fits
      rw [UInt32.toNat_ofNat_of_lt' small]
    next => cases fits
  · intro read
    exact ⟨w.toNat, read, by rw [if_pos w.toNat_lt_size, UInt32.ofNat_toNat]⟩

/-- A number is one of 64 bits if it fits into them. -/
theorem bind_uint64_eq_some_iff {found : Option Nat} {w : UInt64} :
    (found.bind fun n => if n < UInt64.size then some (UInt64.ofNat n) else none) = some w ↔
      found = some w.toNat := by
  rw [Option.bind_eq_some_iff]
  constructor
  · rintro ⟨n, rfl, fits⟩
    split at fits
    next small =>
      cases fits
      rw [UInt64.toNat_ofNat_of_lt' small]
    next => cases fits
  · intro read
    exact ⟨w.toNat, read, by rw [if_pos w.toNat_lt_size, UInt64.ofNat_toNat]⟩

/-! ## The characters of numbers

Whatever number is written, few characters occur in its text, and none that means anything in
the formats that numbers are written to.
-/

/-- A text of digits, signs and points, and of the letters of what is no finite number. -/
def Spells (text : String) : Prop :=
  ∀ c ∈ text.toList, c.isDigit = true ∨ c ∈ ['-', '.', 'N', 'a', 'i', 'n', 'f']

theorem spells_append {s t : String} (first : Spells s) (second : Spells t) :
    Spells (s ++ t) := by
  intro c shown
  rw [String.toList_append, List.mem_append] at shown
  exact shown.elim (first c) (second c)

theorem spells_digits {n : Nat} {digits : List Char} (part : digits ⊆ Nat.toDigits 10 n) :
    Spells (String.ofList digits) := by
  intro c shown
  rw [String.toList_ofList] at shown
  exact Or.inl (isDigit_toDigits (part shown))

theorem spells_zeros (count : Nat) : Spells (zeros count) := by
  intro c shown
  rw [zeros, String.toList_ofList] at shown
  rw [List.eq_of_mem_replicate shown]
  exact Or.inl rfl

theorem spells_sign (negative : Bool) : Spells (sign negative) := by
  cases negative with
  | false => exact nofun
  | true => simp [sign, Spells]

theorem spells_place (d : Shortest.Digits) : Spells (place d) := by
  have point : Spells "." := by simp [Spells]
  have nought : Spells "0." := by simp [Spells]
  unfold place
  dsimp only
  split
  · exact spells_append (spells_append nought (spells_zeros _)) (spells_digits (List.Subset.refl _))
  · split
    · exact spells_append (spells_digits (List.Subset.refl _)) (spells_zeros _)
    · exact spells_append (spells_append (spells_digits (List.take_subset _ _)) point)
        (spells_digits (List.drop_subset _ _))

theorem spells_positional (x : Float) : Spells (positional x) := by
  unfold positional
  split
  · simp [Spells]
  · exact spells_append (spells_sign _) (by simp [Spells])
  · exact spells_append (spells_sign _) (by simp [Spells])
  · exact spells_append (spells_sign _) (spells_place _)

end Decimal

end BenchCampaign
