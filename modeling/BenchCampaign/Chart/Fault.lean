import BenchCampaign.Selection

/-!
# Why a chart is not drawn

* `Chart.Fault`, `Chart.Fault.message`.
-/

namespace BenchCampaign

namespace Chart

/-- Why a chart is not drawn. -/
inductive Fault where
  /-- There is no driver to draw a bar for. -/
  | noResults
  /-- Nothing is named that could be drawn. -/
  | noSource
  /-- A selection is asked for without one of its parts. -/
  | missingPart (part : SelectionPart)
  /-- Something in a chart file is no number; it is called by its name. -/
  | notNumeric (name : String)
  /-- A file cannot be read or written. -/
  | files
  | malformedFile
  | malformedRecord
deriving DecidableEq, Repr

/-- A fault in words. -/
def Fault.message : Fault → String
  | noResults => "No results to draw"
  | noSource => "Either --config or --records is required"
  | missingPart part => "Records need --" ++ part.name ++ " to select a configuration"
  | notNumeric name => "Result for " ++ name ++ " is not a number"
  | files => "Failed to read or write chart data"
  | malformedFile => "Failed to parse chart config"
  | malformedRecord => "Failed to parse result record"

end Chart

end BenchCampaign
