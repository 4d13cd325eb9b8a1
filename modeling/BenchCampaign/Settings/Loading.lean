import BenchCampaign.Host.FileTree
import BenchCampaign.Settings.Reader

/-!
# Loading settings

* `Settings.load`: the settings of a host's file.
* `SettingsFault`: why no campaign can be planned from a file.
-/

namespace BenchCampaign

/-- Why no campaign can be run from settings. -/
inductive SettingsFault where
  | unreadable
  | malformed
  | invalidSpace (fault : SpaceFault)
  | flawed
  | runnerNotExecutable (driver : String)
deriving DecidableEq, Repr

/-- A fault in words. -/
def SettingsFault.message : SettingsFault → String
  | unreadable => "Failed to read config"
  | malformed => "Failed to parse config"
  | invalidSpace fault => "Configuration space is invalid: " ++ fault.reason
  | flawed => "Config failed preflight checks"
  | runnerNotExecutable driver => "Runner for " ++ driver ++ " is missing or not executable"

namespace Settings

/-- The settings of the file at a path. -/
def load (h : Host) (path : String) : Except SettingsFault Settings :=
  match h.decodeFile path Settings.read? with
  | .ok (some s) => .ok s
  | .ok none => .error .malformed
  | .error _ => .error .unreadable

/-- The space of the options, or what is wrong with the settings because of it. -/
def checkedSpace (s : Settings) : Except SettingsFault Space :=
  match s.spaceOf with
  | .ok space => .ok space
  | .error fault => .error (.invalidSpace fault)

end Settings

end BenchCampaign
