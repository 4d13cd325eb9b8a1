import BenchCampaign.Json.Reader
import BenchCampaign.Tag

/-!
# Reading tags

A tag is an object with exactly its five members in any order, or an array of
the five values in their order.  Numbers are whole and in range; a workload is
its name, or an object with that name alone and nothing under it.

* `Tag.ofJson?`, `Tag.read?`.
-/

namespace BenchCampaign

/-! ## Values of single members -/

/-- A number of 32 bits. -/
def Json.word32? (v : Json) : Option UInt32 :=
  v.natural?.bind fun n => if n < UInt32.size then some (UInt32.ofNat n) else none

/-- A number of 64 bits. -/
def Json.word64? (v : Json) : Option UInt64 :=
  v.natural?.bind fun n => if n < UInt64.size then some (UInt64.ofNat n) else none

/-- Whether a value says nothing. -/
def Json.isNull : Json → Bool
  | .null => true
  | _ => false

/-- A workload: its name, or an object that holds `isNothing` under its name. -/
def Workload.ofJsonWith? (isNothing : Json → Bool) : Json → Option Workload
  | .string s => ofName? s
  | .object [(name, value)] => if isNothing value then ofName? name else none
  | _ => none

/-- A workload that stands alone or in a tag. -/
def Workload.ofJson? (v : Json) : Option Workload :=
  ofJsonWith? Json.isNull v

/-! ## Tags -/

namespace Tag

/-- The keys of a tag's object. -/
def keys : List String := ["driver", "workload", "concurrency", "tasks", "sample"]

/-- The tag of five values. -/
def ofValues? (workload? : Json → Option Workload)
    (driver workload concurrency tasks sample : Json) : Option Tag := do
  some {
    driver := ← driver.string?
    workload := ← workload? workload
    concurrency := ← concurrency.word32?
    tasks := ← tasks.word64?
    sample := ← sample.word32? }

/-- The tag of five members, each of which stands exactly once. -/
def ofMembers? (workload? : Json → Option Workload) (ms : List (String × Json)) : Option Tag := do
  ofValues? workload? (← Json.member? ms "driver") (← Json.member? ms "workload")
    (← Json.member? ms "concurrency") (← Json.member? ms "tasks") (← Json.member? ms "sample")

/-- The tag of a JSON value. -/
def ofJson? : Json → Option Tag
  | .object ms =>
    if ms.all fun m => keys.contains m.1 then ofMembers? Workload.ofJson? ms else none
  | .array [driver, workload, concurrency, tasks, sample] =>
    ofValues? Workload.ofJson? driver workload concurrency tasks sample
  | _ => none

/-- The tag of a JSON text. -/
def read? (cs : List Char) : Option Tag :=
  (Json.read? cs).bind ofJson?

end Tag

end BenchCampaign
