/-!
# Workloads

A workload is the mix of operations that one benchmark run performs.  It is
known by one lower-case name, in settings, on the command line, in tags and in
records alike.

* `Workload.ofName?_name`: the name of a workload reads back as that workload.
-/

namespace BenchCampaign

/-- The mix of operations that a run performs. -/
inductive Workload where
  | inserts
  | selects
  | mixed
deriving DecidableEq, Repr

namespace Workload

/-- The name of a workload. -/
def name : Workload → String
  | inserts => "inserts"
  | selects => "selects"
  | mixed => "mixed"

/-- The workload of a name. -/
def ofName? (s : String) : Option Workload :=
  if s = "inserts" then some inserts
  else if s = "selects" then some selects
  else if s = "mixed" then some mixed
  else none

/-- The workload of a name whose ASCII letters may be of either case. -/
def ofNameAnyCase? (s : String) : Option Workload :=
  ofName? (String.ofList (s.toList.map Char.toLower))

/-- Reads need a filled table, so they are preceded by a population phase. -/
def needsPopulation : Workload → Bool
  | inserts => false
  | selects => true
  | mixed => true

theorem ofName?_name (w : Workload) : ofName? w.name = some w := by
  cases w <;> decide

end Workload

end BenchCampaign
