import BenchCampaign.Json.Printer
import BenchCampaign.Json.Reader
import BenchCampaign.Proofs.Decimal.Numeral

/-!
# Reading what was written

Quoted strings and decimal numerals are read back as what they were written from, whatever stands
behind them that is no part of them.

* `Json.readString_quoteBody`: every character of a string survives its escape.
* `Json.readNumber_toDigits`: a number of 64 bits survives its digits.
-/

namespace BenchCampaign

namespace Json

/-! ## Strings -/

theorem hexDigit?_digitChar {d : Nat} (small : d < 16) : hexDigit? d.digitChar = some d := by
  revert small
  revert d
  decide

/-- The escape by code point has four digits, of which the first two are zeros. -/
theorem escapeCode_eq {n : Nat} (control : n < 0x20) :
    escapeCode n =
      ['\\', 'u', '0', '0', (n / 16).digitChar, (n % 16).digitChar] := by
  revert control
  revert n
  decide

theorem readString_escapeCode {c : Char} (control : c.toNat < 0x20) (rest : List Char) :
    readString .plain (escapeCode c.toNat ++ rest) = consRead c (readString .plain rest) := by
  have high := hexDigit?_digitChar (d := c.toNat / 16) (by omega)
  have low := hexDigit?_digitChar (d := c.toNat % 16) (by omega)
  have zero : hexDigit? '0' = some 0 := by decide
  have value : c.toNat / 16 * 16 + c.toNat % 16 = c.toNat := by omega
  have meaning : unitMeaning none c.toNat = .char c := by
    have notHigh : ¬ 0xD800 ≤ c.toNat := by omega
    have notLow : ¬ 0xDC00 ≤ c.toNat := by omega
    simp [unitMeaning, notHigh, notLow, Char.ofNat_toNat]
  rw [escapeCode_eq control]
  simp [readString, zero, high, low, value, meaning]

/-- A character is read back from the way it is quoted. -/
theorem readString_quoteChar (c : Char) (rest : List Char) :
    readString .plain (quoteChar c ++ rest) = consRead c (readString .plain rest) := by
  unfold quoteChar
  split
  · next h => rw [h]; rfl
  split
  · next h => rw [h]; rfl
  split
  · next h => rw [h]; rfl
  split
  · next h => rw [h]; rfl
  split
  · next h => rw [h]; rfl
  split
  · next h => rw [h]; rfl
  split
  · next h => rw [h]; rfl
  split
  · next control => exact readString_escapeCode control rest
  · next mark backslash _ _ _ _ _ control =>
    rw [List.singleton_append, readString, if_neg mark, if_neg backslash, if_neg control]

theorem readString_quoteBody (s rest : List Char) :
    readString .plain (quoteBody s ++ '"' :: rest) = some (s, rest) := by
  induction s with
  | nil => rfl
  | cons c s ih =>
    have first : quoteBody (c :: s) = quoteChar c ++ quoteBody s := List.flatMap_cons
    rw [first, List.append_assoc, readString_quoteChar, ih]
    rfl

/-! ## Numbers -/

/-- What can stand behind a number: no character that could be a part of it. -/
def EndsNumber (rest : List Char) : Prop :=
  ∀ c ∈ rest.head?, c.isDigit = false ∧ c ≠ '.' ∧ c ≠ 'e' ∧ c ≠ 'E'

theorem EndsNumber.beginsNoDigit {rest : List Char} (ends : EndsNumber rest) :
    Decimal.BeginsNoDigit rest :=
  fun c head => (ends c head).1

theorem EndsNumber.fraction? {rest : List Char} (ends : EndsNumber rest) :
    fraction? rest = some ([], rest) := by
  cases rest with
  | nil => rfl
  | cons c rest =>
    obtain ⟨_, point, _⟩ := ends c rfl
    unfold Json.fraction?
    split
    · next eq => exact (point (List.cons.inj eq).1).elim
    · rfl

theorem EndsNumber.power? {rest : List Char} (ends : EndsNumber rest) :
    power? rest = some (none, rest) := by
  cases rest with
  | nil => rfl
  | cons c rest =>
    obtain ⟨_, _, lower, upper⟩ := ends c rfl
    simp [Json.power?, lower, upper]

theorem wholeDigits?_toDigits {n : Nat} {rest : List Char} (ends : EndsNumber rest) :
    wholeDigits? (Nat.toDigits 10 n ++ rest) = some (Nat.toDigits 10 n, rest) := by
  unfold wholeDigits?
  rw [Decimal.takeWhile_isDigit_append (fun _ => Decimal.isDigit_toDigits) ends.beginsNoDigit,
    Decimal.dropWhile_isDigit_append (fun _ => Decimal.isDigit_toDigits) ends.beginsNoDigit]
  split
  · next none => exact (Nat.toDigits_ne_nil none).elim
  · next c tail eq =>
    -- Two digits, the first of which is a zero: no number is written so.
    rcases Nat.eq_zero_or_pos n with rfl | positive
    · cases eq
    · exact (Decimal.head?_toDigits positive (by rw [eq]; rfl)).elim
  · rfl

theorem le_foldl_digits (ds : List Char) (n : Nat) :
    n ≤ ds.foldl (fun n c => n * 10 + Decimal.digitValue c) n := by
  induction ds generalizing n with
  | nil => exact Nat.le_refl n
  | cons c ds ih =>
    have step := ih (n * 10 + Decimal.digitValue c)
    rw [List.foldl_cons]
    omega

/-- Digits that stay within 64 bits are all added up. -/
theorem addUp_eq {ds : List Char} {n : Nat}
    (fits : ds.foldl (fun n c => n * 10 + Decimal.digitValue c) n < UInt64.size) :
    addUp n ds = (ds.foldl (fun n c => n * 10 + Decimal.digitValue c) n, ds.length) := by
  induction ds generalizing n with
  | nil => rfl
  | cons c ds ih =>
    rw [List.foldl_cons] at fits
    have small := Nat.lt_of_le_of_lt (le_foldl_digits ds _) fits
    simp only [addUp, small, if_true, ih fits, List.foldl_cons, List.length_cons]

theorem isTooLarge_toDigits {n : Nat} (fits : n < UInt64.size) :
    isTooLarge (Nat.toDigits 10 n) [] 0 = false := by
  have value : (Nat.toDigits 10 n).foldl (fun n c => n * 10 + Decimal.digitValue c) 0 = n :=
    Decimal.ofDigits_toDigits n
  have added : addUp 0 (Nat.toDigits 10 n) = (n, (Nat.toDigits 10 n).length) := by
    rw [addUp_eq (by rw [value]; exact fits), value]
  simp [isTooLarge, digits, added, addUp, isInfinite]

/-- A number of 64 bits is read back from its digits. -/
theorem readNumber_toDigits {n : Nat} (fits : n < UInt64.size) {rest : List Char}
    (ends : EndsNumber rest) :
    readNumber false (Nat.toDigits 10 n ++ rest) = some (.natural n, rest) := by
  unfold readNumber
  rw [wholeDigits?_toDigits ends]
  simp only [ends.fraction?, ends.power?, Option.getD_none, isTooLarge_toDigits fits,
    Bool.false_eq_true, if_false, List.isEmpty_nil, Option.isNone_none, Bool.and_self, if_true,
    Decimal.ofDigits_toDigits]
  simp [wholeNumber, fits]

/-! ## Values without parts -/

/-- A text that is read as a value without parts, unless a number could go on behind it. -/
structure IsScalar (text : List Char) (value : Json) : Prop where
  begins : ∃ c tail, text = c :: tail ∧ isSpace c = false ∧ c ≠ '[' ∧ c ≠ '\x7b'
  reads : ∀ rest, EndsNumber rest → readScalar (text ++ rest) = some (value, rest)

theorem skip_cons {c : Char} (visible : isSpace c = false) (rest : List Char) :
    skip (c :: rest) = c :: rest := by
  unfold skip
  rw [List.dropWhile_cons_of_neg (by rw [visible]; decide)]

theorem isScalar_null : IsScalar "null".toList .null where
  begins := ⟨'n', "ull".toList, rfl, by decide, by decide, by decide⟩
  reads _ _ := rfl

theorem isScalar_quote (s : String) : IsScalar (quote s.toList) (.string s) where
  begins := ⟨'"', quoteBody s.toList ++ ['"'], rfl, by decide, by decide, by decide⟩
  reads := by
    intro rest _
    have shape : quote s.toList ++ rest = '"' :: (quoteBody s.toList ++ '"' :: rest) := by
      simp [quote]
    rw [shape]
    show (readString .plain _).map _ = _
    rw [readString_quoteBody, Option.map_some, String.ofList_toList]

theorem isScalar_toDigits {n : Nat} (fits : n < UInt64.size) :
    IsScalar (Nat.toDigits 10 n) (.number (.natural n)) := by
  obtain ⟨d, ds, shape⟩ := List.exists_cons_of_ne_nil (@Nat.toDigits_ne_nil n 10)
  have digit : d.isDigit = true := Decimal.isDigit_toDigits (n := n) (by
    rw [shape]
    exact List.mem_cons_self)
  have other : ∀ c : Char, c.isDigit = false → d ≠ c := by
    rintro c notDigit rfl
    rw [digit] at notDigit
    cases notDigit
  constructor
  · refine ⟨d, ds, shape, ?_, other _ (by decide), other _ (by decide)⟩
    simp [isSpace, other ' ' (by decide), other '\n' (by decide), other '\t' (by decide),
      other '\r' (by decide)]
  · intro rest ends
    have read := readNumber_toDigits fits ends
    rw [shape, List.cons_append] at read ⊢
    unfold readScalar
    split
    · next eq => exact (other '"' (by decide) (List.cons.inj eq).1).elim
    · next eq => exact (other '-' (by decide) (List.cons.inj eq).1).elim
    · next eq => exact (other 't' (by decide) (List.cons.inj eq).1).elim
    · next eq => exact (other 'f' (by decide) (List.cons.inj eq).1).elim
    · next eq => exact (other 'n' (by decide) (List.cons.inj eq).1).elim
    · rw [read, Option.map_some]

theorem IsScalar.readValue {text : List Char} {value : Json} (scalar : IsScalar text value)
    (fuel depth : Nat) {rest : List Char} (ends : EndsNumber rest) :
    readValue (fuel + 1) depth (text ++ rest) = some (value, rest) := by
  obtain ⟨c, tail, shape, visible, bracket, brace⟩ := scalar.begins
  have read := scalar.reads rest ends
  rw [shape, List.cons_append] at read ⊢
  rw [Json.readValue, skip_cons visible]
  split
  · next eq => exact (bracket (List.cons.inj eq).1).elim
  · next eq => exact (brace (List.cons.inj eq).1).elim
  · exact read

end Json

end BenchCampaign
