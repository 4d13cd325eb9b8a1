import BenchCampaign.Baseline
import BenchCampaign.Plan
import BenchCampaign.Space

/-!
# The settings of a campaign

Everything that a campaign is planned from: the runners and the cluster, the
drivers in the order in which they are run, the options of the space, and the
calibration of the estimate.

* `Settings.space`, `Settings.plan`, `Settings.coefficients`.
-/

namespace BenchCampaign

/-- The options of the space as they are given, not yet checked. -/
structure SpaceOptions where
  tasks : List UInt64
  concurrency : List UInt32
  workloads : List Workload
  largeTaskMinConcurrency : UInt32
deriving Repr

/-- The calibration of the estimate, and what restarts cost. -/
structure Calibration where
  secondsPerTask : Float := 0.005
  populationFloor : UInt32 := 1024
  /-- Whether the cluster is restarted before every run. -/
  restarts : Bool := false
  /-- Seconds that a restart takes. -/
  restartOverhead : Float := 240
  baseline : Baseline := NameTable.empty
deriving Repr

/-- The settings of a campaign. -/
structure Settings where
  /-- The directory that holds a runner for every driver. -/
  runners : String
  /-- How often each configuration is run with each driver. -/
  samples : UInt32
  nodes : Nodes
  drivers : List Driver
  space : SpaceOptions
  calibration : Calibration
deriving Repr

/-- The port of a cluster that names none. -/
def Nodes.defaultPort : UInt16 := 9042

namespace Settings

/-- The space of the options. -/
def spaceOf (s : Settings) : Except SpaceFault Space :=
  Space.ofOptions s.space.tasks s.space.concurrency s.space.workloads
    s.space.largeTaskMinConcurrency

/-- The estimate of the calibration. -/
def estimator (s : Settings) : Estimator Float :=
  ⟨s.calibration.secondsPerTask, s.calibration.populationFloor⟩

/-- What a restart costs each run, if there are restarts. -/
def restartOverhead (s : Settings) : Option Float :=
  if s.calibration.restarts then some s.calibration.restartOverhead else none

/-- The relative speeds of the baseline. -/
def coefficients (s : Settings) : Coefficients Float :=
  Coefficients.ofBaseline s.calibration.baseline

/-- The plan of the configurations of a space. -/
def planOf (s : Settings) (space : Space) : Plan :=
  Plan.ofConfigurations s.estimator space.configurations s.drivers s.samples

/-- The runner of a driver. -/
def runnerOf (s : Settings) (d : Driver) : String := d.runner s.runners

/-- The nodes as a driver's runner is told of them. -/
def nodesFor (s : Settings) (d : Driver) : String := s.nodes.render d.bareHosts

end Settings

end BenchCampaign
