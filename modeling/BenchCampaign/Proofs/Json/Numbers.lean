import BenchCampaign.Proofs.Json.Objects

/-!
# Which texts are natural numbers

A document is read as a natural number of 64 bits if it is the digits of that number, with white
space around them at most.  A sign, a leading zero, a point or a power makes it another number or
none.

* `Json.readNumber_eq_natural_iff`: how far a natural number is read.
* `Json.read?_eq_natural_iff`: the documents that are natural numbers.
-/

namespace BenchCampaign

namespace Json

variable {cs rest : List Char} {n : Nat}

/-- The digits before the point are those of a number, as a zero stands alone. -/
theorem wholeDigits?_eq_some {whole : List Char} (read : wholeDigits? cs = some (whole, rest)) :
    cs = whole ++ rest ∧ whole = Nat.toDigits 10 (Decimal.ofDigits whole) ∧
      Decimal.BeginsNoDigit rest := by
  have parts : cs.takeWhile Char.isDigit ++ cs.dropWhile Char.isDigit = cs :=
    List.takeWhile_append_dropWhile
  have ends : Decimal.BeginsNoDigit (cs.dropWhile Char.isDigit) := by
    intro c head
    have first := List.head?_dropWhile_not Char.isDigit cs
    rw [Option.mem_def.1 head] at first
    simpa using first
  have digits : ∀ c ∈ cs.takeWhile Char.isDigit, c.isDigit = true :=
    fun c listed => List.mem_takeWhile_imp listed
  unfold wholeDigits? at read
  split at read
  next => cases read
  next => cases read
  next nonempty noZero =>
    cases read
    refine ⟨parts.symm, ?_, ends⟩
    by_cases zero : (cs.takeWhile Char.isDigit).head? = some '0'
    · obtain ⟨tail, begins⟩ := List.head?_eq_some_iff.1 zero
      cases tail with
      | nil => rw [begins]; rfl
      | cons c tail => exact (noZero c tail begins).elim
    · exact (Decimal.toDigits_ofDigits nonempty digits zero).symm

/-- Nothing is read as a fraction only where there is no point. -/
theorem fraction?_eq_nil {tail : List Char} (read : fraction? cs = some ([], tail)) :
    tail = cs ∧ ∀ c ∈ cs.head?, c ≠ '.' := by
  unfold fraction? at read
  split at read
  next digits =>
    split at read
    next => cases read
    next some =>
      obtain ⟨none, -⟩ := Prod.mk.inj (Option.some.inj read)
      rw [none] at some
      exact (some rfl).elim
  next noPoint =>
    cases read
    refine ⟨rfl, fun c head point => ?_⟩
    obtain ⟨digits, begins⟩ := List.head?_eq_some_iff.1 head
    exact noPoint digits (point ▸ begins)

/-- No power is read only where there is no letter of one. -/
theorem power?_eq_none {tail : List Char} (read : power? cs = some (none, tail)) :
    tail = cs ∧ ∀ c ∈ cs.head?, c ≠ 'e' ∧ c ≠ 'E' := by
  unfold power? at read
  split at read
  next c rest =>
    split at read
    next =>
      dsimp only at read
      split at read <;> cases read
    next noLetter =>
      cases read
      refine ⟨rfl, fun d head => ?_⟩
      cases head
      simpa [not_or] using noLetter
  next =>
    cases read
    exact ⟨rfl, nofun⟩

/-- What a number is read from: digits, a fraction and a power. -/
theorem readNumber_eq_some {negative : Bool} {number : Number}
    (read : readNumber negative cs = some (number, rest)) :
    ∃ whole fraction power afterWhole afterFraction,
      wholeDigits? cs = some (whole, afterWhole) ∧
      fraction? afterWhole = some (fraction, afterFraction) ∧
      power? afterFraction = some (power, rest) ∧
      number = if fraction.isEmpty && power.isNone then
        wholeNumber negative (Decimal.ofDigits whole) else .other := by
  unfold readNumber at read
  split at read
  · cases read
  · split at read
    · cases read
    · split at read
      · cases read
      · split at read
        · cases read
        · split at read
          next whole =>
            cases read
            exact ⟨_, _, _, _, _, ‹_›, ‹_›, ‹_›, (if_pos whole).symm⟩
          next other =>
            cases read
            exact ⟨_, _, _, _, _, ‹_›, ‹_›, ‹_›, (if_neg other).symm⟩

theorem wholeNumber_eq_natural_iff {negative : Bool} {m : Nat} :
    wholeNumber negative m = .natural n ↔ negative = false ∧ m < UInt64.size ∧ m = n := by
  unfold wholeNumber
  cases negative with
  | true =>
    simp only [if_true, Bool.true_eq_false, false_and, iff_false]
    split <;> exact nofun
  | false =>
    simp only [Bool.false_eq_true, if_false, true_and]
    split
    next fits => simp [fits]
    next large => simp [large]

/-- A natural number is read from its digits alone, without a sign. -/
theorem readNumber_eq_natural_iff {negative : Bool} :
    readNumber negative cs = some (.natural n, rest) ↔
      negative = false ∧ n < UInt64.size ∧ cs = Nat.toDigits 10 n ++ rest ∧ EndsNumber rest := by
  constructor
  · intro read
    obtain ⟨whole, fraction, power, _, _, found, found', found'', number⟩ := readNumber_eq_some read
    split at number
    next none =>
      obtain ⟨noFraction, noPower⟩ := Bool.and_eq_true_iff.1 none
      obtain rfl := List.isEmpty_iff.1 noFraction
      obtain rfl := Option.isNone_iff_eq_none.1 noPower
      obtain ⟨parts, digits, noDigit⟩ := wholeDigits?_eq_some found
      obtain ⟨rfl, noPoint⟩ := fraction?_eq_nil found'
      obtain ⟨rfl, noLetter⟩ := power?_eq_none found''
      obtain ⟨positive, fits, rfl⟩ := wholeNumber_eq_natural_iff.1 number.symm
      rw [← digits]
      exact ⟨positive, fits, parts, fun c head => ⟨noDigit c head, noPoint c head, noLetter c head⟩⟩
    next => cases number
  · rintro ⟨rfl, fits, rfl, ends⟩
    exact readNumber_toDigits fits ends

theorem readScalar_eq_natural_iff :
    readScalar cs = some (.number (.natural n), rest) ↔
      n < UInt64.size ∧ cs = Nat.toDigits 10 n ++ rest ∧ EndsNumber rest := by
  constructor
  · intro read
    have number {negative : Bool} {text : List Char}
        (read : ((readNumber negative text).map fun p => (Json.number p.1, p.2)) =
          some (.number (.natural n), rest)) :
        readNumber negative text = some (.natural n, rest) := by
      simpa using read
    unfold readScalar at read
    split at read
    · simp at read
    · exact absurd (readNumber_eq_natural_iff.1 (number read)).1 (by decide)
    · simp at read
    · simp at read
    · simp at read
    · exact (readNumber_eq_natural_iff.1 (number read)).2
  · rintro ⟨fits, rfl, ends⟩
    exact (isScalar_toDigits fits).reads rest ends

/-- A number is no array and no object. -/
theorem readScalar_of_readValue {fuel depth : Nat} {number : Number}
    (read : readValue (fuel + 1) depth cs = some (.number number, rest)) :
    readScalar (skip cs) = some (.number number, rest) := by
  rw [readValue] at read
  split at read
  · split at read
    · cases read
    · split at read <;> simp at read
  · split at read
    · cases read
    · split at read <;> simp at read
  · exact read

/-- The documents that are natural numbers of 64 bits. -/
theorem read?_eq_natural_iff : read? cs = some (.number (.natural n)) ↔
    n < UInt64.size ∧ ∃ before behind, IsSpace before ∧ IsSpace behind ∧
      cs = before ++ Nat.toDigits 10 n ++ behind := by
  constructor
  · intro read
    unfold read? at read
    split at read
    next value rest found =>
      split at read
      next none =>
        cases read
        obtain ⟨fits, digits, -⟩ := readScalar_eq_natural_iff.1 (readScalar_of_readValue found)
        have parts : cs.takeWhile isSpace ++ skip cs = cs := List.takeWhile_append_dropWhile
        have blank : IsSpace rest := List.dropWhile_eq_nil_iff.1 (List.isEmpty_iff.1 none)
        refine ⟨fits, cs.takeWhile isSpace, rest, fun c listed => List.mem_takeWhile_imp listed,
          blank, ?_⟩
        rw [List.append_assoc, ← digits, parts]
      next => cases read
    next => cases read
  · rintro ⟨fits, before, behind, blank, blank', rfl⟩
    exact ((isScalar_toDigits fits).isValue 0).read? (Nat.zero_le _) blank blank'

end Json

end BenchCampaign
