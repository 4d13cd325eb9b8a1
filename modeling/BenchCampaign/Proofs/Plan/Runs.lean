import BenchCampaign.Plan

/-!
# Runs of a plan, found and listed

A plan finds its runs by position; the list of its runs is what they are found in.

* `Plan.length_runs`: how many runs there are.
* `Plan.toNat_len`: how many are counted, if a word of 64 bits can count them.
* `Plan.run?_eq_getElem?`: the run at a position is the one of the list.
-/

namespace BenchCampaign

namespace Plan

section Rows

variable {α β : Type} {f : α → List β} {m : Nat}

theorem length_flatMap_rows (rows : ∀ a, (f a).length = m) (l : List α) :
    (l.flatMap f).length = l.length * m := by
  induction l with
  | nil => rw [List.flatMap_nil, List.length_nil, List.length_nil, Nat.zero_mul]
  | cons a l ih =>
    rw [List.flatMap_cons, List.length_append, rows, ih, List.length_cons, Nat.succ_mul,
      Nat.add_comm]

/-- In rows of one length, division gives the row of a position and its place in the row. -/
theorem getElem?_flatMap_rows (rows : ∀ a, (f a).length = m) (l : List α) (i : Nat) :
    (l.flatMap f)[i]? = l[i / m]?.bind fun a => (f a)[i % m]? := by
  induction l generalizing i with
  | nil => rfl
  | cons a l ih =>
    rw [List.flatMap_cons]
    by_cases first : i < m
    · rw [List.getElem?_append_left (by rw [rows]; exact first), Nat.div_eq_of_lt first,
        Nat.mod_eq_of_lt first]
      rfl
    · have later : m ≤ i := Nat.le_of_not_lt first
      rw [List.getElem?_append_right (by rw [rows]; exact later), rows, ih]
      rcases Nat.eq_zero_or_pos m with none | positive
      · have empty (b : α) : f b = [] := List.eq_nil_of_length_eq_zero ((rows b).trans none)
        simp [empty]
      · rw [Nat.div_eq_sub_div positive later, List.getElem?_cons_succ,
          Nat.mod_eq_sub_mod later]

end Rows

theorem length_samplesOf (p : Plan) (c : Configuration) (d : Driver) :
    (p.samplesOf c d).length = p.samples.toNat := by
  rw [samplesOf, List.length_map, List.length_range]

theorem length_driverRuns (p : Plan) (c : Configuration) :
    (p.drivers.flatMap fun d => p.samplesOf c d).length =
      p.drivers.length * p.samples.toNat :=
  length_flatMap_rows (fun d => p.length_samplesOf c d) p.drivers

/-- A plan lists as many runs as it has. -/
theorem length_runs (p : Plan) : p.runs.length = p.size := by
  rw [runs, length_flatMap_rows p.length_driverRuns, size, Nat.mul_assoc]

theorem size_pos_iff (p : Plan) : 0 < p.size ↔ p.runs ≠ [] := by
  rw [← p.length_runs, List.length_pos_iff]

/-- The run at a position is the one at this position of all runs. -/
theorem run?_eq_getElem? (p : Plan) (i : Nat) : p.run? i = p.runs[i]? := by
  have count := p.length_runs
  by_cases inside : i < p.size
  · have found : p.runs[i]? =
        p.configurations[i / (p.drivers.length * p.samples.toNat)]?.bind fun c =>
          p.drivers[i / p.samples.toNat % p.drivers.length]?.bind fun d =>
            (p.samplesOf c d)[i % p.samples.toNat]? := by
      rw [runs, getElem?_flatMap_rows p.length_driverRuns]
      congr 1
      funext c
      rw [getElem?_flatMap_rows fun d => p.length_samplesOf c d,
        Nat.mul_comm p.drivers.length, Nat.mod_mul_right_div_self, Nat.mod_mul_right_mod]
    have positive : 0 < p.samples.toNat := by
      rw [Nat.pos_iff_ne_zero]
      intro none
      rw [size, none, Nat.mul_zero] at inside
      exact absurd inside (Nat.not_lt_zero i)
    have sample := Nat.mod_lt i positive
    rw [found]
    unfold run?
    dsimp only
    cases p.configurations[i / (p.drivers.length * p.samples.toNat)]? with
    | none => rfl
    | some c =>
      cases p.drivers[i / p.samples.toNat % p.drivers.length]? with
      | none => rfl
      | some d => simp [inside, samplesOf, List.getElem?_range sample]
  · rw [List.getElem?_eq_none (by rw [count]; exact Nat.le_of_not_lt inside)]
    unfold run?
    dsimp only
    split
    · exact if_neg inside
    · rfl

/-! ## Counting in words -/

/-- A word counts runs up to multiples of its range: its products wrap around. -/
theorem toNat_len_eq_mod (p : Plan) : p.len.toNat = p.size % UInt64.size := by
  rw [len, UInt64.toNat_mul, UInt64.toNat_mul, UInt64.toNat_ofNat', UInt64.toNat_ofNat',
    UInt32.toNat_toUInt64, ← Nat.mul_mod, Nat.mod_mul_mod]
  rfl

/-- All runs are counted if a word of 64 bits can count them. -/
theorem toNat_len {p : Plan} (fits : p.size < UInt64.size) : p.len.toNat = p.size := by
  rw [toNat_len_eq_mod, Nat.mod_eq_of_lt fits]

theorem isEmpty_iff {p : Plan} (fits : p.size < UInt64.size) :
    p.isEmpty = true ↔ p.size = 0 := by
  rw [isEmpty, beq_iff_eq, ← UInt64.toNat_inj, toNat_len fits, UInt64.toNat_zero]

end Plan

end BenchCampaign
