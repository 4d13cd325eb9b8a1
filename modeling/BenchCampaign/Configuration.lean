import BenchCampaign.Workload

/-!
# Configurations

A configuration is the point of the option space that one run measures: how
many tasks, how many of them at a time, and which workload.
-/

namespace BenchCampaign

/-- What a run is measured at. -/
structure Configuration where
  tasks : UInt64
  concurrency : UInt32
  workload : Workload
deriving DecidableEq, Repr

namespace Configuration

/-- A configuration in words, as progress messages name it. -/
def describe (c : Configuration) : String :=
  c.workload.name ++ " tasks=" ++ toString c.tasks.toNat ++
    " concurrency=" ++ toString c.concurrency.toNat

end Configuration

end BenchCampaign
