/-!
# Drivers, nodes and runner paths

A driver is the subject of a benchmark; its runner is the program that is
started for each run.  Nodes are the hosts of the cluster under test, handed to
the runner as one comma-separated list.

* `Path.join`: where a relative path lies below another.
* `Driver.runner`: the path of a driver's runner.
* `Nodes.render`: the node list as an argument.
-/

namespace BenchCampaign

/-! ## Paths -/

namespace Path

/-- Whether a path starts at the root. -/
def isAbsolute (p : String) : Bool :=
  p.toList.head? == some '/'

/-- The path of `p` seen from `base`: an absolute path stands for itself. -/
def join (base p : String) : String :=
  if isAbsolute p || base.isEmpty then p
  else if base.toList.getLast? == some '/' then base ++ p
  else base ++ "/" ++ p

end Path

/-! ## Drivers -/

/-- A driver under test. -/
structure Driver where
  name : String
  /-- The runner to use in place of the one below the runners' directory. -/
  exec : Option String
  /-- Whether the runner wants hosts without a port. -/
  bareHosts : Bool
deriving DecidableEq, Repr

/-- The runner of a driver: its own, or `run.sh` in the directory of its name. -/
def Driver.runner (d : Driver) (runners : String) : String :=
  d.exec.getD (Path.join (Path.join runners d.name) "run.sh")

/-! ## Nodes -/

/-- The cluster under test. -/
structure Nodes where
  hosts : List String
  port : UInt16
deriving DecidableEq, Repr

/-- One host as a runner is told of it. -/
def Nodes.hostText (n : Nodes) (bare : Bool) (host : String) : String :=
  if bare then host else host ++ ":" ++ toString n.port.toNat

/-- The hosts, comma separated, each with the port unless bare hosts are asked for. -/
def Nodes.render (n : Nodes) (bare : Bool) : String :=
  String.intercalate "," (n.hosts.map (n.hostText bare))

end BenchCampaign
