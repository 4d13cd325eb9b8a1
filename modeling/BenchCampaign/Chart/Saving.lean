import BenchCampaign.Chart.Fault
import BenchCampaign.Chart.Svg
import BenchCampaign.Host.FileTree
import BenchCampaign.Notice
import BenchCampaign.Text.Utf8

/-!
# Saving charts

* `Chart.draw`: a chart, or why there is none.
* `Chart.save`: puts a chart into a file of the host.
-/

namespace BenchCampaign

namespace Chart

/-- The document of a chart, or why there is none. -/
def draw (size : Size Float) (results : ResultSet Float) (title : String) :
    Except Fault String :=
  match render? size results title with
  | some svg => .ok svg
  | none => .error .noResults

/-- Puts a chart into the file at a path.  It is drawn first, and only then is the host
changed; a fault comes with the host as it is by then. -/
def save (size : Size Float) (results : ResultSet Float) (title path : String) :
    EStateM Fault Host Unit := do
  let svg ← MonadExcept.ofExcept (draw size results title)
  match (← get).write path (Text.utf8 svg.toList) with
  | .ok after => set after
  | .error _ => throw .files

/-- What is told of a chart that was saved. -/
def savedNotice (results : ResultSet Float) (path : String) : Notice :=
  ⟨.info, "Wrote chart for " ++ toString results.size ++ " drivers to " ++ path, none⟩

end Chart

end BenchCampaign
