import BenchCampaign.Notice
import BenchCampaign.Settings

/-!
# Checks before a campaign

A campaign takes hours, so what is wrong with its settings is found before it
starts, and all of it at once: each rule is checked whatever the others say.  A
driver without reference time is no fault, but worth a warning where other
drivers have one.

* `Settings.findings`: everything that the checks find, in order.
* `Settings.isFlawed`: whether there is a fault among it.
-/

namespace BenchCampaign

/-- What a check can find in settings. -/
inductive Finding where
  | noDriver
  | repeatedDriver (name : String) (count : Nat)
  | noSample
  | noHost
  | emptyOptions
  | zeroOption
  | repeatedTasks
  | repeatedConcurrency
  | repeatedWorkload
  | secondsNotPositive
  | floorNotPositive
  | negativeOverhead
  | noBaseline (driver : String)
deriving DecidableEq, Repr

namespace Finding

/-- Whether no campaign can be run before this is mended. -/
def isFault : Finding → Bool
  | noBaseline _ => false
  | _ => true

/-- A finding in words. -/
def message : Finding → String
  | noDriver => "No driver was defined, unable to build a run plan"
  | repeatedDriver name count =>
    "Driver " ++ name ++ " is defined " ++ toString count ++ " times"
  | noSample => "samples must be at least 1"
  | noHost => "nodes.hosts must contain at least one host"
  | emptyOptions => "space.tasks, space.concurrency and space.workloads must not be empty"
  | zeroOption => "space.tasks and space.concurrency must only contain positive values"
  | repeatedTasks => "space.tasks contains duplicates"
  | repeatedConcurrency => "space.concurrency contains duplicates"
  | repeatedWorkload => "space.workloads contains duplicates"
  | secondsNotPositive => "estimate.seconds_per_task must be positive"
  | floorNotPositive => "estimate.population_concurrency_floor must be positive"
  | negativeOverhead => "estimate.restart_overhead cannot be negative"
  | noBaseline driver =>
    "Driver " ++ driver ++ " has no baseline, estimates treat it like the fastest driver"

/-- A finding as a notice: an error if it is a fault, else a warning. -/
def notice (f : Finding) : Notice :=
  ⟨if f.isFault then .error else .warning, f.message, none⟩

/-- The finding, if it is there. -/
def ifFound (found : Bool) (f : Finding) : List Finding :=
  if found then [f] else []

end Finding

namespace Settings

open Finding

/-- The names of the drivers, in the order of the settings. -/
def driverNames (s : Settings) : List String := s.drivers.map Driver.name

/-- The names that are given to more than one driver, ordered by what is told of them. -/
def repeatedDrivers (s : Settings) : List Finding :=
  let names := s.driverNames
  let repeated := (names.eraseDups.filter fun name => 1 < names.count name).map fun name =>
    repeatedDriver name (names.count name)
  repeated.mergeSort fun f g => decide (f.message ≤ g.message)

/-- What is found in the options of the space. -/
def spaceFindings (o : SpaceOptions) : List Finding :=
  ifFound (o.tasks.isEmpty || o.concurrency.isEmpty || o.workloads.isEmpty) emptyOptions ++
  ifFound (o.tasks.contains 0 || o.concurrency.contains 0) zeroOption ++
  ifFound (!decide o.tasks.Nodup) repeatedTasks ++
  ifFound (!decide o.concurrency.Nodup) repeatedConcurrency ++
  ifFound (!decide o.workloads.Nodup) repeatedWorkload

/-- What is found in the calibration; a number that is none is not positive, and not
negative either. -/
def calibrationFindings (c : Calibration) : List Finding :=
  ifFound (!decide (0 < c.secondsPerTask)) secondsNotPositive ++
  ifFound (c.populationFloor == 0) floorNotPositive ++
  ifFound (decide (c.restartOverhead < 0)) negativeOverhead

/-- The drivers without a reference time, if there is any such time. -/
def baselineFindings (s : Settings) : List Finding :=
  s.drivers.flatMap fun d =>
    ifFound (!s.calibration.baseline.isEmpty && !s.calibration.baseline.contains d.name)
      (noBaseline d.name)

/-- Everything that the checks find. -/
def findings (s : Settings) : List Finding :=
  ifFound s.drivers.isEmpty noDriver ++ s.repeatedDrivers ++
  ifFound (s.samples == 0) noSample ++
  ifFound s.nodes.hosts.isEmpty noHost ++
  spaceFindings s.space ++ calibrationFindings s.calibration ++ s.baselineFindings

/-- Whether the checks find a fault. -/
def isFlawed (s : Settings) : Bool := s.findings.any isFault

end Settings

end BenchCampaign
