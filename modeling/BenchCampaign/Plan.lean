import BenchCampaign.Driver
import BenchCampaign.Estimate

/-!
# Plans

A plan lists the runs of a campaign: the configurations in order of cost, each
with every driver, each of these with every sample, so that all drivers finish
a configuration before the next one starts.  A plan can be far too long to be
written out, so its runs are found by position.

* `Plan.size`, `Plan.len`: how many runs there are, and how many a word of 64 bits counts.
* `Plan.run?`: the run at a position.
* `Plan.runs`: all runs, in order.
* `Plan.window`: some runs from a position on.
-/

namespace BenchCampaign

/-- One planned invocation of a driver's runner. -/
structure Run where
  configuration : Configuration
  driver : Driver
  sample : UInt32
deriving DecidableEq, Repr

/-- Ordered configurations, drivers in the order of the settings, and a number of samples. -/
structure Plan where
  configurations : List Configuration
  drivers : List Driver
  samples : UInt32
deriving Repr

namespace Plan

/-- The plan of some configurations, cheapest first. -/
def ofConfigurations (e : Estimator Float) (configurations : List Configuration)
    (drivers : List Driver) (samples : UInt32) : Plan :=
  ⟨e.sort configurations, drivers, samples⟩

/-- How many runs there are to go through. -/
def size (p : Plan) : Nat :=
  p.configurations.length * p.drivers.length * p.samples.toNat

/-- The number of runs as a word of 64 bits, which starts again from zero where there are more
runs than it can count. -/
def len (p : Plan) : UInt64 :=
  UInt64.ofNat p.configurations.length * UInt64.ofNat p.drivers.length * p.samples.toUInt64

/-- Whether no run is counted. -/
def isEmpty (p : Plan) : Bool := p.len == 0

/-- The run at a position. -/
def run? (p : Plan) (i : Nat) : Option Run :=
  let samples := p.samples.toNat
  match p.configurations[i / (p.drivers.length * samples)]?,
      p.drivers[i / samples % p.drivers.length]? with
  | some configuration, some driver =>
    if i < p.size then some ⟨configuration, driver, UInt32.ofNat (i % samples)⟩ else none
  | _, _ => none

/-- The samples of one driver at one configuration. -/
def samplesOf (p : Plan) (c : Configuration) (d : Driver) : List Run :=
  (List.range p.samples.toNat).map fun s => ⟨c, d, UInt32.ofNat s⟩

/-- All runs: configurations outermost, samples innermost. -/
def runs (p : Plan) : List Run :=
  p.configurations.flatMap fun c => p.drivers.flatMap fun d => p.samplesOf c d

/-- At most `count` runs from position `start` on. -/
def window (p : Plan) (start count : Nat) : List Run :=
  (List.range (min count (p.size - start))).filterMap fun i => p.run? (start + i)

end Plan

end BenchCampaign
