import BenchCampaign.Proofs.Dispatch.Stream
import BenchCampaign.Projection

/-!
# Positions in a plan

The runs of a plan are counted through like the digits of a number: the sample changes with every
run, the driver when all samples are done, and the configuration when all drivers are.  So what is
run at a position is told by quotients and remainders, and the number of runs is a product.  The
runs can be gone through from any position on.

* `Plan.GoesThrough`: what the runs of a plan are, by position.
* `Plan.window_eq_drop_take`: the runs from a position on.
* `Plan.runs_counted_resumed`: the runs, whatever counts them, and where they are taken up again.
-/

namespace BenchCampaign

/-! ## Lists -/

/-- In rows of one length, the row of an element stands behind as many rows as the element stands
behind others. -/
theorem take_drop_flatMap_rows {α β : Type} {f : α → List β} {m : Nat}
    (rows : ∀ a, (f a).length = m) {l : List α} {k : Nat} {a : α} (found : l[k]? = some a) :
    ((l.flatMap f).drop (k * m)).take m = f a := by
  induction k generalizing l with
  | zero =>
    obtain ⟨rest, rfl⟩ := List.head?_eq_some_iff.mp (List.head?_eq_getElem? ▸ found)
    rw [Nat.zero_mul, List.drop_zero, List.flatMap_cons, List.take_left' (rows a)]
  | succ k ih =>
    cases l with
    | nil => cases found
    | cons b l =>
      rw [List.flatMap_cons, Nat.succ_mul, Nat.add_comm, ← List.drop_drop,
        List.drop_left' (rows b)]
      exact ih found

theorem filterMap_getElem?_range {α : Type} (l : List α) (n : Nat) :
    (List.range n).filterMap (fun i => l[i]?) = l.take n := by
  induction n with
  | zero => rfl
  | succ n ih =>
    rw [List.range_succ, List.filterMap_append, ih, List.take_add_one, List.filterMap_cons]
    cases l[n]? <;> rfl

namespace Plan

variable {p : Plan} {i : Nat} {r : Run}

/-! ## Positions -/

theorem run?_eq_some_iff :
    p.run? i = some r ↔
      i < p.size ∧
      p.configurations[i / (p.drivers.length * p.samples.toNat)]? = some r.configuration ∧
      p.drivers[i / p.samples.toNat % p.drivers.length]? = some r.driver ∧
      r.sample = UInt32.ofNat (i % p.samples.toNat) := by
  unfold run?
  dsimp only
  cases p.configurations[i / (p.drivers.length * p.samples.toNat)]? with
  | none => exact iff_of_false nofun fun told => nomatch told.2.1
  | some c =>
    cases p.drivers[i / p.samples.toNat % p.drivers.length]? with
    | none => exact iff_of_false nofun fun told => nomatch told.2.2.1
    | some d =>
      obtain ⟨configuration, driver, sample⟩ := r
      by_cases inside : i < p.size <;> simp [inside, eq_comm]

/-- A sample number is a number of 32 bits, as the number of samples is. -/
theorem toNat_sample (p : Plan) (inside : i < p.size) :
    (UInt32.ofNat (i % p.samples.toNat)).toNat = i % p.samples.toNat := by
  have positive : 0 < p.samples.toNat := Nat.pos_of_mul_pos_left (Nat.zero_lt_of_lt inside)
  exact UInt32.toNat_ofNat_of_lt' (Nat.lt_trans (Nat.mod_lt i positive) p.samples.toNat_lt_size)

/-- Runs that go through a plan, position by position. -/
structure GoesThrough (p : Plan) (runs : List Run) : Prop where
  length : runs.length = p.configurations.length * p.drivers.length * p.samples.toNat
  configuration : ∀ i r, runs[i]? = some r →
    p.configurations[i / (p.drivers.length * p.samples.toNat)]? = some r.configuration
  driver : ∀ i r, runs[i]? = some r →
    p.drivers[i / p.samples.toNat % p.drivers.length]? = some r.driver
  sample : ∀ i r, runs[i]? = some r → r.sample.toNat = i % p.samples.toNat

theorem goesThrough_runs (p : Plan) : p.GoesThrough p.runs where
  length := p.length_runs
  configuration i r found := by
    rw [← run?_eq_getElem?] at found
    exact (run?_eq_some_iff.mp found).2.1
  driver i r found := by
    rw [← run?_eq_getElem?] at found
    exact (run?_eq_some_iff.mp found).2.2.1
  sample i r found := by
    rw [← run?_eq_getElem?] at found
    obtain ⟨inside, -, -, sample⟩ := run?_eq_some_iff.mp found
    rw [sample, p.toNat_sample inside]

/-- There is one way through a plan. -/
theorem GoesThrough.unique {runs other : List Run} (goes : p.GoesThrough runs)
    (goes' : p.GoesThrough other) : runs = other := by
  have lengths : runs.length = other.length := goes.length.trans goes'.length.symm
  refine List.ext_getElem lengths fun i inside inside' => ?_
  have here := List.getElem?_eq_getElem inside
  have here' := List.getElem?_eq_getElem inside'
  have configuration := (goes.configuration i _ here).symm.trans (goes'.configuration i _ here')
  have driver := (goes.driver i _ here).symm.trans (goes'.driver i _ here')
  have sample := (goes.sample i _ here).trans (goes'.sample i _ here').symm
  rw [Run.mk.injEq]
  exact ⟨Option.some.inj configuration, Option.some.inj driver, UInt32.toNat.inj sample⟩

/-! ## Windows -/

/-- The runs from a position on, as many as are asked for. -/
theorem window_eq_drop_take (p : Plan) (start count : Nat) :
    p.window start count = (p.runs.drop start).take count := by
  have found (i : Nat) : p.run? (start + i) = (p.runs.drop start)[i]? := by
    rw [run?_eq_getElem?, List.getElem?_drop]
  have rest : p.size - start = (p.runs.drop start).length := by
    rw [List.length_drop, length_runs]
  unfold window
  simp only [found]
  rw [filterMap_getElem?_range, rest, List.take_eq_take_iff, Nat.min_assoc, Nat.min_self]

/-- What the first runs leave is gone through from where they stopped. -/
theorem take_append_window (p : Plan) (start : Nat) :
    p.runs.take start ++ p.window start p.size = p.runs := by
  have short : (p.runs.drop start).length ≤ p.size := by
    rw [List.length_drop, length_runs]
    exact Nat.sub_le p.size start
  rw [window_eq_drop_take, List.take_of_length_le short, List.take_append_drop]

/-! ## Counts -/

theorem dispatched_rehearse {σ : Type} {sink : Sink} {state : σ}
    (intact : (Dispatch.rehearse p sink state).isBroken = false) :
    (Dispatch.rehearse p sink state).dispatched = p.runs.length := by
  obtain ⟨reports, eq⟩ := Dispatch.rehearse_eq p sink state
  rw [eq] at intact ⊢
  exact (Dispatch.realises_listRun.counts_along 0 p.runs sink state intact).1

/-- All that counts the runs of a plan counts so many; a word of 64 bits counts them if it can
count so far. -/
structure Counts (p : Plan) (n : Nat) : Prop where
  size : p.size = n
  len : n < UInt64.size → p.len.toNat = n
  isEmpty : n < UInt64.size → (p.isEmpty = true ↔ n = 0)
  projection : n < UInt64.size →
    ∀ {α : Type} [Arithmetic α] (e : Estimator α) (c : Coefficients α) (o : Option α),
      (Projection.ofPlan e p c o).runs = n
  rehearsal : ∀ {σ : Type} (sink : Sink) (state : σ),
    (Dispatch.rehearse p sink state).isBroken = false →
    (Dispatch.rehearse p sink state).dispatched = n
  unlimited : ∀ {σ : Type} (state : σ), (Dispatch.rehearse p ⟨none⟩ state).isBroken = false

theorem counts_runs (p : Plan) : p.Counts p.runs.length where
  size := p.length_runs.symm
  len := by rw [p.length_runs]; exact toNat_len
  isEmpty := by rw [p.length_runs]; exact isEmpty_iff
  projection := by rw [p.length_runs]; exact fun fits _ _ _ _ _ => toNat_len fits
  rehearsal _ _ := dispatched_rehearse
  unlimited state := (Dispatch.completes_rehearse p state).isBroken

/-- **The runs of a plan are its configurations, each with every driver, each of these with every
sample.**  They are the runs that go through it, found by position or listed; each configuration
is done with before the next one; whatever counts the runs counts these, a word of 64 bits if there
are no more than it can count; and behind any number of them the rest can be taken up. -/
theorem runs_counted_resumed (p : Plan) :
    (∀ runs, p.GoesThrough runs ↔ runs = p.runs) ∧
    (∀ i, p.run? i = p.runs[i]?) ∧
    (∀ k c, p.configurations[k]? = some c →
      (p.runs.drop (k * (p.drivers.length * p.samples.toNat))).take
          (p.drivers.length * p.samples.toNat) =
        p.drivers.flatMap fun d => p.samplesOf c d) ∧
    p.Counts p.runs.length ∧
    (∀ start count, p.window start count = (p.runs.drop start).take count) ∧
    (∀ start, p.runs.take start ++ p.window start p.size = p.runs) := by
  refine ⟨fun runs => ⟨fun goes => goes.unique p.goesThrough_runs, ?_⟩, p.run?_eq_getElem?, ?_,
    p.counts_runs, p.window_eq_drop_take, p.take_append_window⟩
  · rintro rfl
    exact p.goesThrough_runs
  · intro k c found
    exact take_drop_flatMap_rows p.length_driverRuns found

/-- The second of two configurations, with three drivers and two samples of each. -/
theorem runs_secondConfiguration :
    let first : Configuration := ⟨100, 1, .inserts⟩
    let second : Configuration := ⟨100, 1, .mixed⟩
    let drivers : List Driver := ["rust", "cpp", "gocql"].map fun name => ⟨name, none, false⟩
    let p : Plan := ⟨[first, second], drivers, 2⟩
    (p.runs.drop 6).take 6 = drivers.flatMap fun d => [⟨second, d, 0⟩, ⟨second, d, 1⟩] := by
  intro first second drivers p
  obtain ⟨-, -, configuration, -⟩ := runs_counted_resumed p
  exact configuration 1 second rfl

end Plan

end BenchCampaign
