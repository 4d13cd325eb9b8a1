import BenchCampaign.Record
import BenchCampaign.Tag.Reader
import BenchCampaign.Text.Blank
import BenchCampaign.Text.Lines

/-!
# Reading records

A record is an object in which the members of a tag and the time each stand
exactly once; other members are ignored.  The members of the tag are set aside
before they are looked at, and there a workload's name may also hold an empty
object.

* `Record.ofJson?`, `Record.read?`, `Record.readLines?`.
-/

namespace BenchCampaign

/-- Whether a value says nothing, once set aside. -/
def Json.isNothing : Json → Bool
  | .null => true
  | .object [] => true
  | _ => false

namespace Record

/-- The record of a JSON value. -/
def ofJson? : Json → Option Record
  | .object ms => do
    let time ← (← Json.member? ms "time").word64?
    let tag ← Tag.ofMembers? (Workload.ofJsonWith? Json.isNothing) ms
    some ⟨tag, time⟩
  | _ => none

/-- The record of a JSON text. -/
def read? (cs : List Char) : Option Record :=
  (Json.read? cs).bind ofJson?

/-- The records of a text with one a line; blank lines are skipped, and one line
that holds no record spoils all. -/
def readLines? (text : List Char) : Option (List Record) :=
  ((Text.lineContents text).filter fun l => !(Text.trim l).isEmpty).mapM read?

end Record

end BenchCampaign
