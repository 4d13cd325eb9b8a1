import BenchCampaign.Json.Printer
import BenchCampaign.Plan

/-!
# Tags

A tag stands in the output of a campaign before everything that a run writes,
and says which run that is.  It is one line: a fixed word, a blank, and the run
as a JSON object.

* `Tag.line`: the line of a tag, without its line feed.
* `Tag.block`: what is written before a run starts.
-/

namespace BenchCampaign

/-- The run that a piece of output belongs to. -/
structure Tag where
  driver : String
  workload : Workload
  concurrency : UInt32
  tasks : UInt64
  sample : UInt32
deriving DecidableEq, Repr

namespace Tag

/-- The tag of a run. -/
def ofRun (r : Run) : Tag :=
  { driver := r.driver.name
    workload := r.configuration.workload
    concurrency := r.configuration.concurrency
    tasks := r.configuration.tasks
    sample := r.sample }

/-- The word that every tag line begins with. -/
def word : List Char := "BENCHMARK".toList

/-- What tells a tag line from other lines. -/
def lead : List Char := word ++ [' ']

/-- A member of a JSON object. -/
def member (key : String) (value : List Char) : List Char :=
  Json.quote key.toList ++ [':'] ++ value

/-- The members of a tag's object. -/
def members (t : Tag) : List (List Char) :=
  [ member "driver" (Json.quote t.driver.toList),
    member "workload" (Json.quote t.workload.name.toList),
    member "concurrency" (Nat.toDigits 10 t.concurrency.toNat),
    member "tasks" (Nat.toDigits 10 t.tasks.toNat),
    member "sample" (Nat.toDigits 10 t.sample.toNat) ]

/-- A JSON object of written members. -/
def braced (members : List (List Char)) : List Char :=
  ['\x7b'] ++ List.intercalate [','] members ++ ['\x7d']

/-- A tag as a JSON object. -/
def json (t : Tag) : List Char := braced t.members

/-- The line of a tag, without its line feed. -/
def line (t : Tag) : List Char := lead ++ t.json

/-- What is written before a run: an empty line, so that the tag starts a line
whatever came before, and the tag's line. -/
def block (t : Tag) : List Char := ['\n'] ++ t.line ++ ['\n']

end Tag

end BenchCampaign
