import BenchCampaign.Record

/-!
# Selections

A chart compares drivers at one configuration.  A selection names it, and picks
the records that were measured there.

* `Selection.ofParts`: a selection needs all three of its parts.
* `Selection.accepts`: whether a record was measured at the selection.
-/

namespace BenchCampaign

/-- A part of a selection. -/
inductive SelectionPart where
  | workload
  | concurrency
  | tasks
deriving DecidableEq, Repr

/-- The name of a part, as an option is named. -/
def SelectionPart.name : SelectionPart → String
  | workload => "workload"
  | concurrency => "concurrency"
  | tasks => "tasks"

/-- The configuration that a chart is drawn for. -/
structure Selection where
  workload : Workload
  concurrency : UInt32
  tasks : UInt64
deriving DecidableEq, Repr

namespace Selection

/-- The selection of three parts, or the first part that is missing. -/
def ofParts : Option Workload → Option UInt32 → Option UInt64 → Except SelectionPart Selection
  | some workload, some concurrency, some tasks => .ok ⟨workload, concurrency, tasks⟩
  | none, _, _ => .error .workload
  | _, none, _ => .error .concurrency
  | _, _, none => .error .tasks

/-- Whether a record was measured at the selection. -/
def accepts (s : Selection) (r : Record) : Bool :=
  r.tag.workload = s.workload && r.tag.concurrency = s.concurrency && r.tag.tasks = s.tasks

/-- The title of a chart of the selection. -/
def title (s : Selection) : String :=
  toString s.tasks.toNat ++ " " ++ s.workload.name ++ ", concurrency = " ++
    toString s.concurrency.toNat

end Selection

end BenchCampaign
