import BenchCampaign.Arithmetic
import BenchCampaign.NameTable
import BenchCampaign.Selection

/-!
# Result sets

A result set holds one number per driver, in the order in which the drivers
came.  The numbers of a selection are the mean times of the drivers over the
records that the selection accepts.

* `ResultSet.max?`: the greatest number of a set.
* `ResultSet.groupByDriver`, `ResultSet.mean`: groups of records and their mean times.
* `ResultSet.ofRecords`: the mean times of a selection.
-/

namespace BenchCampaign

/-- One number per driver. -/
abbrev ResultSet (α : Type) := NameTable α

namespace ResultSet

variable {α : Type} [Arithmetic α]

/-- The numbers of a set, in order. -/
def values (r : ResultSet α) : List α := r.entries.map Prod.snd

/-- The greatest number of a set. -/
def max? (r : ResultSet α) : Option α :=
  match values r with
  | [] => none
  | v :: rest => some (rest.foldl Arithmetic.greater v)

/-- Puts a record at the end of the group of its driver. -/
def addToGroup (groups : NameTable (List Record)) (r : Record) : NameTable (List Record) :=
  groups.insert r.tag.driver ((groups.get? r.tag.driver).getD [] ++ [r])

/-- Records by driver, those of a driver in their order. -/
def groupByDriver (records : List Record) : NameTable (List Record) :=
  records.foldl addToGroup NameTable.empty

/-- The mean time of some records; the times are added as integers. -/
def mean (runs : List Record) : α :=
  Arithmetic.ofNat (runs.foldl (fun total r => total + r.time) (0 : UInt64)).toNat /
    Arithmetic.ofNat runs.length

/-- Takes the group of a driver out of the groups and its mean into the set. -/
def takeMean (state : ResultSet α × NameTable (List Record)) (driver : String) :
    ResultSet α × NameTable (List Record) :=
  match state.2.get? driver with
  | some runs => (state.1.insert driver (mean runs), state.2.erase driver)
  | none => state

/-- The mean time of every driver over the records of a selection, the drivers
in the order of their first record. -/
def ofRecords (records : List Record) (selection : Selection) : ResultSet α :=
  let matching := records.filter selection.accepts
  let drivers := (matching.map fun r => r.tag.driver).eraseDups
  (drivers.foldl takeMean (NameTable.empty, groupByDriver matching)).1

end ResultSet

end BenchCampaign
