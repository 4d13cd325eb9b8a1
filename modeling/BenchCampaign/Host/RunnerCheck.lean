import BenchCampaign.Host.FileTree
import BenchCampaign.Notice
import BenchCampaign.Settings

/-!
# Checking runners

Before a cluster is touched, the runner of every driver has to be there and to
be executable.  All drivers are looked at, also behind one that fails.

* `Settings.runnerFindings`: what is wrong with runners, in the order of the drivers.
* `Settings.checkRunners`: the first driver whose runner will not do.
-/

namespace BenchCampaign

/-- What is wrong with a driver's runner. -/
structure RunnerFinding where
  driver : String
  path : String
  /-- Whether a file is there, but one that nobody may execute. -/
  isThere : Bool
deriving DecidableEq, Repr

namespace RunnerFinding

/-- A finding in words. -/
def message (f : RunnerFinding) : String :=
  if f.isThere then "Runner " ++ f.path ++ " for " ++ f.driver ++ " is not executable"
  else "Failed to determine if runner " ++ f.path ++ " for " ++ f.driver ++
    " is executable: File not found: " ++ f.path

/-- A finding as an error. -/
def notice (f : RunnerFinding) : Notice := ⟨.error, f.message, none⟩

end RunnerFinding

namespace Settings

/-- What is wrong with the runner of one driver. -/
def runnerFinding? (s : Settings) (h : Host) (d : Driver) : Option RunnerFinding :=
  let path := s.runnerOf d
  match h.file? path with
  | none => some ⟨d.name, path, false⟩
  | some f => if f.isExecutable then none else some ⟨d.name, path, true⟩

/-- What is wrong with the runners. -/
def runnerFindings (s : Settings) (h : Host) : List RunnerFinding :=
  s.drivers.filterMap (s.runnerFinding? h)

/-- Nothing if every runner will do, else the first driver of which it will not. -/
def checkRunners (s : Settings) (h : Host) : Except String Unit :=
  match s.runnerFindings h with
  | [] => .ok ()
  | f :: _ => .error f.driver

end Settings

end BenchCampaign
