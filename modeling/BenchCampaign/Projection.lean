import BenchCampaign.Baseline
import BenchCampaign.Decimal.Text
import BenchCampaign.Plan

/-!
# Projected time

The wall-clock time of a whole plan: each configuration's estimate times the
coefficients of all drivers times the samples, and a restart before every run
if the cluster is restarted between runs.  Runs are counted in a word of 64
bits.

* `Projection.ofPlan`: the projection of a plan.
* `Projection.reports`: what computing it reports.
-/

namespace BenchCampaign

/-- The projected size and time of a plan. -/
structure Projection (α : Type) where
  configurations : Nat
  runs : Nat
  seconds : α
deriving Repr

namespace Projection

section
variable {α : Type} [Arithmetic α]

/-- The coefficients of all drivers, added up. -/
def driverFactor (plan : Plan) (coefficients : Coefficients α) : α :=
  Arithmetic.sum (plan.drivers.map fun d => coefficients.factor d.name)

/-- Seconds of all runs, without restarts. -/
def runSeconds (estimator : Estimator α) (plan : Plan) (coefficients : Coefficients α) : α :=
  Arithmetic.sum (plan.configurations.map fun c =>
    estimator.estimate c * driverFactor plan coefficients * Arithmetic.ofNat plan.samples.toNat)

/-- The projection of a plan; a restart overhead counts once for every run. -/
def ofPlan (estimator : Estimator α) (plan : Plan) (coefficients : Coefficients α)
    (restartOverhead : Option α) : Projection α :=
  let seconds := runSeconds estimator plan coefficients
  { configurations := plan.configurations.length
    runs := plan.len.toNat
    seconds := match restartOverhead with
      | some overhead => seconds + Arithmetic.ofNat plan.len.toNat * overhead
      | none => seconds }

/-- The projected time in hours. -/
def hours (p : Projection α) : α :=
  p.seconds / Arithmetic.ofNat 60 / Arithmetic.ofNat 60

end

/-- What a projection reports. -/
inductive Report where
  | guessed (coefficient : GuessedCoefficient)
  | estimated (configuration : Configuration) (seconds : Float)
deriving Repr

/-- A report in words. -/
def Report.notice : Report → Notice
  | guessed g => g.notice
  | estimated c seconds =>
    ⟨.debug, c.describe ++ ": " ++ Decimal.fixed 1 seconds ++ " s per sample", none⟩

/-- The reports of a projection: guessed coefficients, then every estimate. -/
def reports (estimator : Estimator Float) (plan : Plan) (coefficients : Coefficients Float) :
    List Report :=
  (plan.drivers.flatMap fun d => (coefficients.reports d.name).map Report.guessed) ++
    plan.configurations.map fun c => Report.estimated c (estimator.estimate c)

end Projection

end BenchCampaign
