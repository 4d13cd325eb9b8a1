import BenchCampaign.Proofs.Binary64.Packing
import BenchCampaign.Proofs.Decimal.Numeral

/-!
# Numbers that are written as numbers

A plain decimal consists of digits, of which some can stand behind a point, and of a minus sign if
it is below zero.  That is how finite numbers are written; what is no number, or infinite, is
written in letters.

* `Decimal.IsPlain`: plain decimals.
* `Decimal.isPlain_positional_iff`: coordinates are plain decimals exactly if they are finite.
* `Decimal.isPlain_fixed_iff`: so are amounts with a fixed number of places.
-/

namespace BenchCampaign

namespace Decimal

/-! ## Plain decimals -/

/-- Digits, of which there is at least one. -/
def AreDigits (text : List Char) : Prop := text ≠ [] ∧ ∀ c ∈ text, c.isDigit = true

/-- Digits, and a point with more digits or none. -/
def IsUnsigned (text : List Char) : Prop :=
  AreDigits text ∨
    ∃ whole fraction, text = whole ++ '.' :: fraction ∧ AreDigits whole ∧ AreDigits fraction

/-- A decimal, with a minus sign or without. -/
def IsPlain (text : List Char) : Prop :=
  IsUnsigned text ∨ ∃ rest, text = '-' :: rest ∧ IsUnsigned rest

variable {text digits : List Char}

theorem areDigits_toDigits (n : Nat) : AreDigits (Nat.toDigits 10 n) :=
  ⟨Nat.toDigits_ne_nil, fun _ => isDigit_toDigits⟩

theorem isDigit_of_mem_replicate {count : Nat} {c : Char}
    (listed : c ∈ List.replicate count '0') : c.isDigit = true := by
  rw [List.eq_of_mem_replicate listed]
  rfl

theorem AreDigits.append_zeros (digits : AreDigits text) (count : Nat) :
    AreDigits (text ++ List.replicate count '0') := by
  refine ⟨List.append_ne_nil_of_left_ne_nil digits.1 _, fun c listed => ?_⟩
  rcases List.mem_append.1 listed with front | zero
  · exact digits.2 c front
  · exact isDigit_of_mem_replicate zero

theorem AreDigits.zeros_append (digits : AreDigits text) (count : Nat) :
    AreDigits (List.replicate count '0' ++ text) := by
  refine ⟨List.append_ne_nil_of_right_ne_nil _ digits.1, fun c listed => ?_⟩
  rcases List.mem_append.1 listed with zero | behind
  · exact isDigit_of_mem_replicate zero
  · exact digits.2 c behind

theorem isPlain_sign_append (negative : Bool) (unsigned : IsUnsigned text) :
    IsPlain ((sign negative).toList ++ text) := by
  cases negative with
  | false => exact .inl unsigned
  | true => exact .inr ⟨text, rfl, unsigned⟩

theorem AreDigits.mem (digits : AreDigits text) :
    ∀ c ∈ text, c.isDigit = true ∨ c ∈ ['-', '.'] := fun c listed => .inl (digits.2 c listed)

theorem IsUnsigned.mem (unsigned : IsUnsigned text) :
    ∀ c ∈ text, c.isDigit = true ∨ c ∈ ['-', '.'] := by
  obtain digits | ⟨whole, fraction, rfl, digits, digits'⟩ := unsigned
  · exact digits.mem
  · simp only [List.forall_mem_append, List.forall_mem_cons]
    exact ⟨digits.mem, .inr (by decide), digits'.mem⟩

/-- No letter is part of a plain decimal. -/
theorem IsPlain.mem (plain : IsPlain text) : ∀ c ∈ text, c.isDigit = true ∨ c ∈ ['-', '.'] := by
  obtain unsigned | ⟨rest, rfl, unsigned⟩ := plain
  · exact unsigned.mem
  · exact List.forall_mem_cons.2 ⟨.inr (by decide), unsigned.mem⟩

/-- What is no number is written in letters, and so is what is infinite. -/
theorem not_isPlain_letters (negative : Bool) :
    ¬ IsPlain "NaN".toList ∧ ¬ IsPlain (sign negative ++ "inf").toList := by
  constructor
  · intro plain
    have shown : 'N' ∈ "NaN".toList := by simp
    exact absurd (plain.mem 'N' shown) (by decide)
  · intro plain
    have shown : 'n' ∈ (sign negative ++ "inf").toList := by simp
    exact absurd (plain.mem 'n' shown) (by decide)

/-! ## Coordinates -/

theorem isUnsigned_place (d : Shortest.Digits) : IsUnsigned (place d).toList := by
  have digits := areDigits_toDigits d.value
  unfold place
  dsimp only
  split
  · refine .inr ⟨['0'], _, ?_, ⟨nofun, by simp⟩, digits.zeros_append (-d.point).toNat⟩
    simp [zeros]
  next below =>
    split
    · left
      simpa [zeros] using digits.append_zeros _
    next long =>
      have some : 0 < d.point.toNat := by omega
      refine .inr ⟨(Nat.toDigits 10 d.value).take d.point.toNat,
        (Nat.toDigits 10 d.value).drop d.point.toNat, by simp, ⟨?_, ?_⟩, ⟨?_, ?_⟩⟩
      · simp [List.take_eq_nil_iff, some.ne', digits.1]
      · exact fun c listed => digits.2 c (List.take_subset _ _ listed)
      · simpa [List.drop_eq_nil_iff] using long
      · exact fun c listed => digits.2 c (List.drop_subset _ _ listed)

/-- Digits behind a point can begin with zeros. -/
theorem isPlain_point (negative : Bool) (whole count fraction : Nat) :
    IsPlain (sign negative ++ natural whole ++ "." ++ zeros count ++ natural fraction).toList := by
  have unsigned : IsUnsigned (Nat.toDigits 10 whole ++
      '.' :: (List.replicate count '0' ++ Nat.toDigits 10 fraction)) :=
    .inr ⟨_, _, rfl, areDigits_toDigits whole, (areDigits_toDigits fraction).zeros_append count⟩
  simpa [natural, zeros, String.toList_append] using isPlain_sign_append negative unsigned

open Float.Model in
/-- A double has no letters exactly if it is finite. -/
theorem isFinite_eq (x : Float) :
    x.isFinite = match Binary64.ofFloat x with
      | .finite _ _ _ => true
      | _ => false := by
  change x.toModel.unpack.isFinite = _
  rw [Binary64.unpack_toModel]
  cases Binary64.ofFloat x with
  | nan => rfl
  | infinite negative => rfl
  | finite negative m e =>
    rw [Binary64.unpacked]
    split <;> rfl

/-- Coordinates are plain decimals exactly if they are finite. -/
theorem isPlain_positional_iff (x : Float) :
    IsPlain (positional x).toList ↔ x.isFinite = true := by
  rw [isFinite_eq]
  unfold positional
  cases Binary64.ofFloat x with
  | nan => exact iff_of_false (not_isPlain_letters false).1 nofun
  | infinite negative => exact iff_of_false (not_isPlain_letters negative).2 nofun
  | finite negative m e =>
    refine iff_of_true ?_ rfl
    cases m with
    | zero =>
      change IsPlain (sign negative ++ "0").toList
      rw [String.toList_append]
      exact isPlain_sign_append negative (.inl (areDigits_toDigits 0))
    | succ m =>
      change IsPlain (sign negative ++ place (Shortest.digits .upper (m + 1) e)).toList
      rw [String.toList_append]
      exact isPlain_sign_append negative (isUnsigned_place _)

/-- Amounts with a fixed number of places are plain decimals exactly if they are finite. -/
theorem isPlain_fixed_iff (places : Nat) (x : Float) :
    IsPlain (fixed places x).toList ↔ x.isFinite = true := by
  rw [isFinite_eq]
  unfold fixed
  cases Binary64.ofFloat x with
  | nan => exact iff_of_false (not_isPlain_letters false).1 nofun
  | infinite negative => exact iff_of_false (not_isPlain_letters negative).2 nofun
  | finite negative m e =>
    refine iff_of_true ?_ rfl
    dsimp only
    split
    next whole =>
      rw [String.toList_append, natural, String.toList_ofList]
      exact isPlain_sign_append negative (.inl (areDigits_toDigits _))
    next fraction =>
      exact isPlain_point negative _ _ _

end Decimal

end BenchCampaign
