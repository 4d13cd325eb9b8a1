import BenchCampaign.Dispatch

/-!
# Writing to a sink

A sink takes bytes as long as it has room for them, and what it takes does not depend on how
the bytes are divided among writes.

* `Sink.Holds`: whether there is room for some bytes, and `Sink.holds_next_iff`.
* `Sink.write_append_of_refused`: what comes after a write that broke the sink is lost.
* `Sink.write_append_of_taken`: writes one after the other are one write.
-/

namespace BenchCampaign

namespace Sink

variable {n : Nat} {s next : Sink} {a : List UInt8}

theorem write_nil (s : Sink) : s.write [] = ([], some s) := by
  obtain ⟨room⟩ := s
  cases room with
  | none => rfl
  | some n => rfl

/-! ## Sinks with a limit -/

theorem write_of_le (enough : a.length ≤ n) :
    Sink.write ⟨some n⟩ a = (a, some ⟨some (n - a.length)⟩) :=
  if_pos enough

theorem write_of_lt (less : n < a.length) : Sink.write ⟨some n⟩ a = (a.take n, none) :=
  if_neg (Nat.not_le_of_lt less)

theorem write_limited_fst (n : Nat) (a : List UInt8) :
    (Sink.write ⟨some n⟩ a).1 = a.take n := by
  rcases Nat.lt_or_ge n a.length with less | enough
  · rw [write_of_lt less]
  · rw [write_of_le enough, List.take_of_length_le enough]

theorem write_limited_isNone (n : Nat) (a : List UInt8) :
    (Sink.write ⟨some n⟩ a).2.isNone = true ↔ n < a.length := by
  rcases Nat.lt_or_ge n a.length with less | enough
  · rw [write_of_lt less]
    exact iff_of_true rfl less
  · rw [write_of_le enough]
    exact iff_of_false Bool.false_ne_true (Nat.not_lt_of_le enough)

/-! ## Room -/

/-- Whether a sink has room for some bytes. -/
def Holds (s : Sink) (count : Nat) : Prop := ∀ room ∈ s.room, count ≤ room

theorem holds_limited_iff (n count : Nat) : Holds ⟨some n⟩ count ↔ count ≤ n := by
  simp [Holds]

theorem Holds.of_le {small large : Nat} (le : small ≤ large) (holds : s.Holds large) :
    s.Holds small :=
  fun room limit => Nat.le_trans le (holds room limit)

theorem not_holds_of_refused (refused : (s.write a).2 = none) : ¬ s.Holds a.length := by
  intro holds
  obtain ⟨room⟩ := s
  cases room with
  | none => cases refused
  | some n =>
    rw [write_of_le (holds n rfl)] at refused
    cases refused

theorem holds_of_taken (taken : (s.write a).2 = some next) : s.Holds a.length := by
  rintro n limit
  obtain ⟨room⟩ := s
  cases limit
  refine Nat.le_of_not_lt fun less => ?_
  rw [write_of_lt less] at taken
  cases taken

/-- A sink that took some bytes holds as many more as it held behind them. -/
theorem holds_next_iff (taken : (s.write a).2 = some next) (count : Nat) :
    next.Holds count ↔ s.Holds (a.length + count) := by
  have fits := holds_of_taken taken
  obtain ⟨room⟩ := s
  cases room with
  | none =>
    cases taken
    exact iff_of_true nofun nofun
  | some n =>
    have enough := fits n rfl
    rw [write_of_le enough] at taken
    cases taken
    rw [holds_limited_iff, holds_limited_iff]
    omega

/-! ## One write after another -/

theorem write_fst_of_taken (taken : (s.write a).2 = some next) : (s.write a).1 = a := by
  have fits := holds_of_taken taken
  obtain ⟨room⟩ := s
  cases room with
  | none => rfl
  | some n => rw [write_of_le (fits n rfl)]

/-- What comes after a write that broke the sink makes no difference. -/
theorem write_append_of_refused (refused : (s.write a).2 = none) (b : List UInt8) :
    s.write (a ++ b) = s.write a := by
  have full := not_holds_of_refused refused
  obtain ⟨room⟩ := s
  cases room with
  | none => cases refused
  | some n =>
    rw [holds_limited_iff] at full
    have less := Nat.lt_of_not_le full
    have lessBoth : n < (a ++ b).length := by
      rw [List.length_append]
      omega
    rw [write_of_lt lessBoth, write_of_lt less, List.take_append_of_le_length (Nat.le_of_lt less)]

/-- Writes one after the other are one write. -/
theorem write_append_of_taken (taken : (s.write a).2 = some next) (b : List UInt8) :
    s.write (a ++ b) = (a ++ (next.write b).1, (next.write b).2) := by
  have fits := holds_of_taken taken
  obtain ⟨room⟩ := s
  cases room with
  | none =>
    cases taken
    rfl
  | some n =>
    have enough := fits n rfl
    rw [write_of_le enough] at taken
    cases taken
    rcases Nat.lt_or_ge n (a ++ b).length with less | all
    · have rest : n - a.length < b.length := by
        rw [List.length_append] at less
        omega
      rw [write_of_lt less, write_of_lt rest, List.take_append, List.take_of_length_le enough]
    · have rest : b.length ≤ n - a.length := by
        rw [List.length_append] at all
        omega
      rw [write_of_le all, write_of_le rest, List.length_append, Nat.sub_add_eq]

end Sink

end BenchCampaign
