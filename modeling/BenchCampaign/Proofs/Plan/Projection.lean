import BenchCampaign.Projection
import BenchCampaign.Proofs.Arithmetic.Rational
import BenchCampaign.Proofs.Plan.Runs
import Mathlib.Algebra.BigOperators.Ring.List

/-!
# The projection as the cost of the runs

A projection multiplies sums, one for the configurations and one for the drivers.  The runs of a
plan are the product of these, so in exact arithmetic the projection is what the runs cost one by
one.

* `Plan.sum_runs`: a sum over the runs, by configurations, drivers and samples.
* `Projection.seconds_ofPlan`: the projected time of any plan.
* `Projection.ofPlan_eq_sum_runs`: the projection of a plan whose runs can be counted.
-/

namespace BenchCampaign

/-! ## Sums over the runs of a plan -/

section Sums

variable {α β : Type}

theorem sum_map_flatMap (f : α → List β) (cost : β → ℚ) (l : List α) :
    ((l.flatMap f).map cost).sum = (l.map fun a => ((f a).map cost).sum).sum := by
  rw [List.map_flatMap, List.flatMap_def, List.sum_flatten, List.map_map]
  rfl

theorem sum_map_const (b : ℚ) (l : List α) : (l.map fun _ => b).sum = l.length * b := by
  rw [List.map_const', List.sum_replicate, nsmul_eq_mul]

end Sums

namespace Plan

/-- The samples of a driver cost the same each. -/
theorem sum_samplesOf (p : Plan) (c : Configuration) (d : Driver)
    (cost : Configuration → Driver → ℚ) :
    ((p.samplesOf c d).map fun r => cost r.configuration r.driver).sum =
      p.samples.toNat * cost c d := by
  rw [samplesOf, List.map_map]
  exact (sum_map_const (cost c d) _).trans (by rw [List.length_range])

/-- Where the cost of a run does not depend on its sample, a sum over all runs is one over
configurations and drivers. -/
theorem sum_runs (p : Plan) (cost : Configuration → Driver → ℚ) :
    (p.runs.map fun r => cost r.configuration r.driver).sum =
      (p.configurations.map fun c =>
        (p.drivers.map fun d => p.samples.toNat * cost c d).sum).sum := by
  simp only [runs, sum_map_flatMap, sum_samplesOf]

end Plan

/-! ## Projections -/

namespace Projection

/-- The factored formula, as the sum of what the runs cost. -/
theorem runSeconds_eq_sum_runs (e : Estimator ℚ) (plan : Plan) (c : Coefficients ℚ) :
    runSeconds e plan c =
      (plan.runs.map fun r => e.estimate r.configuration * c.factor r.driver.name).sum := by
  have factored (x : Configuration) :
      (plan.drivers.map fun d => plan.samples.toNat * (e.estimate x * c.factor d.name)).sum =
        e.estimate x * driverFactor plan c * plan.samples.toNat := by
    rw [List.sum_map_mul_left, List.sum_map_mul_left, driverFactor, Arithmetic.sum_rat]
    exact mul_comm _ _
  rw [plan.sum_runs fun x d => e.estimate x * c.factor d.name]
  simp only [factored, runSeconds, Arithmetic.sum_rat, Arithmetic.ofNat_rat]

/-- A restart overhead counts as often as a word of 64 bits says. -/
theorem seconds_ofPlan (e : Estimator ℚ) (plan : Plan) (c : Coefficients ℚ)
    (overhead : Option ℚ) :
    (ofPlan e plan c overhead).seconds =
      (plan.runs.map fun r => e.estimate r.configuration * c.factor r.driver.name).sum +
        plan.len.toNat * overhead.getD 0 := by
  rw [← runSeconds_eq_sum_runs]
  cases overhead with
  | none => simp [ofPlan]
  | some h => rfl

/-- Restarts cost the overhead once for every run. -/
theorem sum_runs_add (e : Estimator ℚ) (plan : Plan) (c : Coefficients ℚ) (h : ℚ) :
    (plan.runs.map fun r => e.estimate r.configuration * c.factor r.driver.name + h).sum =
      (plan.runs.map fun r => e.estimate r.configuration * c.factor r.driver.name).sum +
        plan.size * h := by
  rw [List.sum_map_add, sum_map_const, plan.length_runs]

/-- **A projection is the cost of the plan.**  In exact arithmetic the projected time is the sum,
over all runs of the plan, of the estimate of the run's configuration times the coefficient of
its driver, and of the overhead of a restart if there is one; and the plan is as large as the
projection says.  No driver has to have a coefficient or a name of its own, and any part of the
plan may be empty, but a word of 64 bits has to be able to count the runs. -/
theorem ofPlan_eq_sum_runs (e : Estimator ℚ) (plan : Plan) (c : Coefficients ℚ)
    (overhead : Option ℚ) (fits : plan.size < UInt64.size) :
    (ofPlan e plan c overhead).seconds =
        (plan.runs.map fun r =>
          e.estimate r.configuration * c.factor r.driver.name + overhead.getD 0).sum ∧
      (ofPlan e plan c overhead).configurations = plan.configurations.length ∧
      (ofPlan e plan c overhead).runs = plan.runs.length := by
  have counted : plan.len.toNat = plan.size := Plan.toNat_len fits
  refine ⟨?_, rfl, counted.trans plan.length_runs.symm⟩
  rw [seconds_ofPlan, sum_runs_add, counted]

/-- Two drivers of one name and one without a coefficient, restarted before each sample. -/
theorem ofPlan_sameNames :
    let e : Estimator ℚ := ⟨1 / 2, 4⟩
    let c : Coefficients ℚ := ⟨[("a", 2)]⟩
    let drivers : List Driver := ["a", "a", "b"].map fun name => ⟨name, none, false⟩
    let plan : Plan := ⟨[⟨10, 1, .inserts⟩, ⟨8, 2, .mixed⟩], drivers, 3⟩
    plan.size < UInt64.size ∧ (ofPlan e plan c (some 7)).seconds = 246 ∧
      (ofPlan e plan c (some 7)).runs = 18 := by
  intro e c drivers plan
  have fits : plan.size < UInt64.size := by decide
  obtain ⟨seconds, -, runs⟩ := ofPlan_eq_sum_runs e plan c (some 7) fits
  refine ⟨fits, ?_, runs⟩
  rw [seconds]
  decide +kernel

/-- Of as many runs as a word of 64 bits has values, none is counted, and no restart is. -/
theorem ofPlan_uncounted :
    let e : Estimator ℚ := ⟨1, 1⟩
    let c : Coefficients ℚ := ⟨[]⟩
    let plan : Plan := ⟨List.replicate 8192 ⟨1, 1, .inserts⟩,
      List.replicate 1048576 ⟨"a", none, false⟩, 2147483648⟩
    let p := ofPlan e plan c (some 1)
    plan.runs.length = UInt64.size ∧ p.runs = 0 ∧
      p.seconds ≠
        (plan.runs.map fun r =>
          e.estimate r.configuration * c.factor r.driver.name + 1).sum := by
  intro e c plan p
  have size : plan.size = UInt64.size := by
    unfold Plan.size
    rw [List.length_replicate, List.length_replicate]
    decide
  have counted : plan.len.toNat = 0 := by
    rw [Plan.toNat_len_eq_mod, size, Nat.mod_self]
  refine ⟨plan.length_runs.trans size, counted, ?_⟩
  rw [seconds_ofPlan, sum_runs_add, size, counted]
  intro same
  have count : ((0 : ℕ) : ℚ) * 1 = (UInt64.size : ℚ) * 1 := add_left_cancel same
  rw [mul_one, mul_one, Nat.cast_inj] at count
  exact absurd count (by decide)

end Projection

end BenchCampaign
