import BenchCampaign.Estimate
import BenchCampaign.Proofs.Binary64.Denotation

/-!
# The order of estimates

More tasks are not estimated to take less, and neither are fewer at a time or a population phase at
a lower concurrency; a run that reads is not estimated to take less than the inserts that it comes
with.  In exact numbers that is what the formula says.  It stays true where every step rounds, since
rounding keeps the order, up to estimates that are infinite.

* `Estimator.OrdersBy`: what it is for estimates to order configurations sensibly.
* `Estimator.estimate_atMost`: estimates grow with the tasks, and shrink with both concurrencies.
* `Estimator.ordersBy_of_finite`: estimates are in order wherever arithmetic rounds, and so they
  are in doubles.
-/

namespace BenchCampaign

namespace Estimator

variable {α : Type}

/-- Estimates that order configurations sensibly: by their tasks, against their concurrency and the
population phase's, and with what a run that reads adds to its inserts. -/
structure OrdersBy [Arithmetic α] (le : α → α → Prop) (e : Estimator α) : Prop where
  tasks : ∀ w {c : UInt32} {t t' : UInt64}, 0 < c → t ≤ t' →
    le (e.estimate ⟨t, c, w⟩) (e.estimate ⟨t', c, w⟩)
  concurrency : ∀ w t {c c' : UInt32}, 0 < c → c ≤ c' →
    le (e.estimate ⟨t, c', w⟩) (e.estimate ⟨t, c, w⟩)
  floor : ∀ w t {c f f' : UInt32}, 0 < c → f ≤ f' →
    le (estimate ⟨e.secondsPerTask, f'⟩ ⟨t, c, w⟩) (estimate ⟨e.secondsPerTask, f⟩ ⟨t, c, w⟩)
  reads : ∀ t c, e.estimate ⟨t, c, .selects⟩ = e.estimate ⟨t, c, .mixed⟩
  inserts : ∀ w t {c : UInt32}, 0 < c → le (e.estimate ⟨t, c, .inserts⟩) (e.estimate ⟨t, c, w⟩)
  population : ∀ w t {c : UInt32}, 0 < c →
    le (e.estimate (e.populationPhase ⟨t, c, w⟩)) (e.estimate ⟨t, c, w⟩)

/-- Estimates in order are in any weaker order. -/
theorem OrdersBy.mono [Arithmetic α] {le le' : α → α → Prop} {e : Estimator α}
    (weaker : ∀ {x y}, le x y → le' x y) (h : e.OrdersBy le) : e.OrdersBy le' where
  tasks w _ _ _ positive more := weaker (h.tasks w positive more)
  concurrency w t _ _ positive more := weaker (h.concurrency w t positive more)
  floor w t _ _ _ positive more := weaker (h.floor w t positive more)
  reads := h.reads
  inserts w t _ positive := weaker (h.inserts w t positive)
  population w t _ positive := weaker (h.population w t positive)

/-! ## Population phases -/

theorem toNat_concurrency_populationPhase (e : Estimator α) (c : Configuration) :
    (e.populationPhase c).concurrency.toNat =
      max c.concurrency.toNat e.populationFloor.toNat := by
  change (if c.concurrency ≤ e.populationFloor then e.populationFloor else c.concurrency).toNat = _
  split
  next raised => exact (Nat.max_eq_right (UInt32.le_iff_toNat_le.1 raised)).symm
  next above =>
    have less : e.populationFloor < c.concurrency := UInt32.not_le.1 above
    exact (Nat.max_eq_left (Nat.le_of_lt (UInt32.lt_iff_toNat_lt.1 less))).symm

theorem concurrency_le_populationPhase (e : Estimator α) (c : Configuration) :
    c.concurrency ≤ (e.populationPhase c).concurrency := by
  rw [UInt32.le_iff_toNat_le, toNat_concurrency_populationPhase]
  exact Nat.le_max_left _ _

theorem populationPhase_pos (e : Estimator α) {c : Configuration} (positive : 0 < c.concurrency) :
    0 < (e.populationPhase c).concurrency :=
  UInt32.lt_of_lt_of_le positive (e.concurrency_le_populationPhase c)

theorem concurrency_populationPhase_le {e e' : Estimator α} {c c' : Configuration}
    (slower : c'.concurrency ≤ c.concurrency) (lower : e'.populationFloor ≤ e.populationFloor) :
    (e'.populationPhase c').concurrency ≤ (e.populationPhase c).concurrency := by
  rw [UInt32.le_iff_toNat_le] at slower lower ⊢
  rw [toNat_concurrency_populationPhase, toNat_concurrency_populationPhase]
  exact max_le_max slower lower

/-! ## Arithmetic that rounds -/

section Rounded

variable [Arithmetic α] {r : Rounding α} {e e' : Estimator α} {c c' : Configuration} {q : ℚ}

/-- What tasks take of their own grows with their number and shrinks with the concurrency. -/
theorem ownSeconds_atMost (finite : r.Denotes e.secondsPerTask q)
    (same : e'.secondsPerTask = e.secondsPerTask) (more : c.tasks ≤ c'.tasks)
    (positive : 0 < c'.concurrency) (slower : c'.concurrency ≤ c.concurrency) :
    r.AtMost (e.ownSeconds c) (e'.ownSeconds c') := by
  have fits : c.concurrency.toNat < 2 ^ 64 := c.concurrency.toNat_lt.trans (by norm_num)
  unfold ownSeconds
  rw [same]
  exact r.atMost_scaled finite (UInt64.le_iff_toNat_le.1 more) c'.tasks.toNat_lt
    (UInt32.lt_iff_toNat_lt.1 positive) (UInt32.le_iff_toNat_le.1 slower) fits

theorem exists_denotes_ownSeconds (finite : r.Denotes e.secondsPerTask q)
    (positive : 0 < c.concurrency) : ∃ u, r.Denotes (e.ownSeconds c) u := by
  obtain ⟨u, -, denotes, -⟩ :=
    ownSeconds_atMost finite rfl (UInt64.le_refl _) positive (UInt32.le_refl _)
  exact ⟨u, denotes⟩

/-- An estimate grows with the tasks, and shrinks with the concurrency and with the one that a
population phase is raised to. -/
theorem estimate_atMost (finite : r.Denotes e.secondsPerTask q)
    (same : e'.secondsPerTask = e.secondsPerTask) (workload : c'.workload = c.workload)
    (more : c.tasks ≤ c'.tasks) (positive : 0 < c'.concurrency)
    (slower : c'.concurrency ≤ c.concurrency) (lower : e'.populationFloor ≤ e.populationFloor) :
    r.AtMost (e.estimate c) (e'.estimate c') := by
  have own := ownSeconds_atMost finite same more positive slower
  unfold estimate
  rw [workload]
  split
  · exact own.add (ownSeconds_atMost finite same more (e'.populationPhase_pos positive)
      (concurrency_populationPhase_le slower lower))
  · exact own

/-- What inserts take, and what the population phase takes, is part of what a workload takes. -/
theorem ownSeconds_atMost_estimate (finite : r.Denotes e.secondsPerTask q)
    (positive : 0 < c.concurrency) :
    r.AtMost (e.ownSeconds c) (e.estimate c) ∧
      r.AtMost (e.ownSeconds (e.populationPhase c)) (e.estimate c) := by
  obtain ⟨u, own⟩ := exists_denotes_ownSeconds finite positive
  obtain ⟨v, population⟩ := exists_denotes_ownSeconds finite (e.populationPhase_pos positive)
  unfold estimate
  split
  · exact ⟨Rounding.atMost_add_right own population, Rounding.atMost_add_left own population⟩
  · exact ⟨⟨u, u, own, own, le_rfl⟩, ownSeconds_atMost finite rfl (UInt64.le_refl _) positive
      (e.concurrency_le_populationPhase c)⟩

/-- Where arithmetic rounds, estimates are in order. -/
theorem ordersBy_atMost (finite : r.Denotes e.secondsPerTask q) : e.OrdersBy r.AtMost where
  tasks _ _ _ _ positive more :=
    estimate_atMost finite rfl rfl more positive (UInt32.le_refl _) (UInt32.le_refl _)
  concurrency _ _ _ _ positive more :=
    estimate_atMost finite rfl rfl (UInt64.le_refl _) positive more (UInt32.le_refl _)
  floor _ _ _ _ _ positive more :=
    estimate_atMost finite rfl rfl (UInt64.le_refl _) positive (UInt32.le_refl _) more
  reads _ _ := rfl
  inserts w t c positive := (ownSeconds_atMost_estimate (c := ⟨t, c, w⟩) finite positive).1
  population w t c positive := (ownSeconds_atMost_estimate (c := ⟨t, c, w⟩) finite positive).2

end Rounded

/-- **Estimates order configurations sensibly, in doubles too.**  All that is asked of an arithmetic
is that its steps are the exact ones, rounded, and that rounding keeps the order and what can be
stood for.  Doubles are such an arithmetic, so with finite positive seconds a task, whatever they
are, an estimate does not shrink when there are more tasks and does not grow when there are more of
them at a time, in the run or in its population phase; reading workloads are estimated alike, and
at no less than their inserts and than their population phase. -/
theorem ordersBy_of_finite :
    (∀ {α : Type} [Arithmetic α] (r : Rounding α) (e : Estimator α) {q : ℚ},
      r.Denotes e.secondsPerTask q → e.OrdersBy r.AtMost) ∧
    (∀ e : Estimator Float, e.secondsPerTask.isFinite = true → 0 < e.secondsPerTask →
      e.OrdersBy (· ≤ ·)) := by
  refine ⟨fun r e q finite => ordersBy_atMost finite, fun e finite positive => ?_⟩
  obtain ⟨q, -, denotes⟩ := Binary64.exists_denotes finite positive
  have rounded : e.OrdersBy Binary64.doubles.AtMost := ordersBy_atMost denotes
  refine rounded.mono ?_
  rintro x y ⟨u, v, first, second, le⟩
  exact Binary64.le_of_denotes first second le

/-- Five milliseconds a task, and more tasks than doubles tell apart. -/
theorem ordersBy_fiveMilliseconds :
    let e : Estimator Float := ⟨0.005, 1024⟩
    let tasks : UInt64 := 2 ^ 53
    e.OrdersBy Binary64.doubles.AtMost ∧
      e.secondsPerTask.isFinite = true ∧ 0 < e.secondsPerTask ∧
      e.estimate ⟨tasks, 64, .mixed⟩ ≤ e.estimate ⟨tasks + 1, 64, .mixed⟩ ∧
      e.estimate ⟨tasks, 65, .mixed⟩ ≤ e.estimate ⟨tasks, 64, .mixed⟩ ∧
      e.estimate ⟨tasks, 64, .inserts⟩ ≤ e.estimate ⟨tasks, 64, .mixed⟩ := by
  intro e tasks
  have finite : e.secondsPerTask.isFinite = true := by decide +kernel
  have positive : 0 < e.secondsPerTask := by decide +kernel
  obtain ⟨q, -, denotes⟩ := Binary64.exists_denotes finite positive
  obtain ⟨rounded, doubles⟩ := ordersBy_of_finite
  have ordered := doubles e finite positive
  exact ⟨rounded Binary64.doubles e denotes, finite, positive,
    ordered.tasks .mixed (by decide) (by decide),
    ordered.concurrency .mixed tasks (by decide) (by decide),
    ordered.inserts .mixed tasks (by decide)⟩

end Estimator

end BenchCampaign
