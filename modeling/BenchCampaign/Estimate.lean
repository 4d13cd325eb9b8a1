import BenchCampaign.Configuration
import BenchCampaign.Decimal.Binary64

/-!
# Estimated cost

The wall-clock time of one sample of a configuration, calibrated on one
reference driver.  A run that reads is preceded by an insert run that fills
the table, at a concurrency of its own.

* `Estimator.estimate`: seconds for one sample.
* `Estimator.sort`: cheapest configurations first, ties in their given order.
-/

namespace BenchCampaign

/-- The calibration of the estimate. -/
structure Estimator (α : Type) where
  /-- Seconds that one task takes at concurrency 1. -/
  secondsPerTask : α
  /-- The lowest concurrency that a population phase runs at. -/
  populationFloor : UInt32
deriving Repr

namespace Estimator

variable {α : Type} [Arithmetic α]

/-- The insert run that precedes a run that reads. -/
def populationPhase (e : Estimator α) (c : Configuration) : Configuration :=
  { c with concurrency := max c.concurrency e.populationFloor, workload := .inserts }

/-- Seconds of a configuration's own tasks, without a population phase. -/
def ownSeconds (e : Estimator α) (c : Configuration) : α :=
  Arithmetic.ofNat c.tasks.toNat / Arithmetic.ofNat c.concurrency.toNat * e.secondsPerTask

/-- Seconds for one sample of a configuration. -/
def estimate (e : Estimator α) (c : Configuration) : α :=
  if c.workload.needsPopulation then e.ownSeconds c + e.ownSeconds (e.populationPhase c)
  else e.ownSeconds c

/-- Cheapest first; configurations of equal cost keep their order. -/
def sort (e : Estimator Float) (cs : List Configuration) : List Configuration :=
  cs.mergeSort fun a b => Binary64.precedes (e.estimate a) (e.estimate b)

end Estimator

end BenchCampaign
