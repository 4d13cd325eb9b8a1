import BenchCampaign.Chart.Fault
import BenchCampaign.ResultSet
import BenchCampaign.Yaml.Fields
import BenchCampaign.Yaml.Reader
import BenchCampaign.Yaml.Value

/-!
# Chart files

A chart can be drawn from a file that holds a title and one number per driver.
The file is read first, whatever its results are; that they are numbers under
names is found when a result set is made of them.

* `Chart.File.read?`: the file of a text.
* `Chart.File.resultSet`: its results, or the first entry that is none.
-/

namespace BenchCampaign

namespace Chart

open Yaml

/-- A title, and entries that should be numbers under names. -/
structure File where
  title : String
  results : List (Value × Value)
deriving Repr

namespace File

/-- The entries of a mapping of any values under different keys. -/
def entriesOf? (n : Node) : Option (List (Value × Value)) :=
  n.entries?.bind fun entries =>
    (Value.ofEntries? entries).bind fun es =>
      if Value.allDifferent (es.map Prod.fst) then some es else none

def titleField : Field := .required "title" Node.text?

def resultsField : Field := .required "results" entriesOf?

/-- The chart file of a tree. -/
def ofNode? (n : Node) : Option File := do
  let fs ← Fields.ofNode? ([titleField, resultsField].map Field.name) n
  some {
    title := ← titleField.read fs
    results := ← resultsField.read fs }

/-- The chart file of a YAML text. -/
def read? (text : List Char) : Option File :=
  (Node.read? text).bind ofNode?

/-- One entry as a driver's number. -/
def result (e : Value × Value) : Except Fault (String × Float) :=
  match e.1.string? with
  | none => .error (.notNumeric e.1.describe)
  | some name =>
    match e.2.float? with
    | none => .error (.notNumeric name)
    | some x => .ok (name, x)

/-- The results in the order of the file. -/
def resultSet (f : File) : Except Fault (ResultSet Float) :=
  (f.results.mapM result).map NameTable.ofList

end File

end Chart

end BenchCampaign
