import BenchCampaign.Tag

/-!
# Records

A record is a tag with the time that its run reported.  Records are kept one a
line, each as a JSON object.

* `Record.json`: the text of a record.
* `Record.lines`: a list of records as lines.
-/

namespace BenchCampaign

/-- A run and the milliseconds that it took. -/
structure Record where
  tag : Tag
  time : UInt64
deriving DecidableEq, Repr

namespace Record

/-- A record as a JSON object. -/
def json (r : Record) : List Char :=
  Tag.braced (r.tag.members ++ [Tag.member "time" (Nat.toDigits 10 r.time.toNat)])

/-- A record on a line of its own. -/
def line (r : Record) : List Char := r.json ++ ['\n']

/-- Records, one a line. -/
def lines (rs : List Record) : List Char := rs.flatMap line

end Record

end BenchCampaign
