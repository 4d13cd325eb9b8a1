import BenchCampaign.Log.Reading

/-!
# Reconciling a log with its tags

Every tag of a log came to something: its run reported a time, it never did, or
what stands there cannot be read.  A reconciliation sorts the segments of a log
into these three lists, each in the order of the log.

* `Log.reconcile`, `Log.Reconciliation.isComplete`.
-/

namespace BenchCampaign

namespace Log

/-- What became of a tag's run. -/
inductive Fate where
  | completed (record : Record)
  | missing (tag : Tag)
  | faulty (fault : Fault)
deriving DecidableEq, Repr

/-- The fate of a segment. -/
def Segment.fate (s : Segment) : Fate :=
  match s.record? with
  | some (.ok record) => .completed record
  | some (.error fault) => .faulty fault
  | none =>
    match s.readTag with
    | .ok tag => .missing tag
    | .error fault => .faulty fault

/-- The fates of a log's tags, sorted. -/
structure Reconciliation where
  completed : List Record
  missing : List Tag
  faults : List Fault
deriving Repr

namespace Reconciliation

/-- No tag at all. -/
def empty : Reconciliation := ⟨[], [], []⟩

/-- Puts a fate in front. -/
def cons (f : Fate) (r : Reconciliation) : Reconciliation :=
  match f with
  | .completed record => { r with completed := record :: r.completed }
  | .missing tag => { r with missing := tag :: r.missing }
  | .faulty fault => { r with faults := fault :: r.faults }

/-- The sorted fates of some segments. -/
def ofSegments (segments : List Segment) : Reconciliation :=
  segments.foldr (fun s r => cons s.fate r) empty

/-- Whether every run reported a time. -/
def isComplete (r : Reconciliation) : Bool :=
  r.missing.isEmpty && r.faults.isEmpty

end Reconciliation

/-- What became of every tag of a log. -/
def reconcile (text : List Char) : Reconciliation :=
  Reconciliation.ofSegments (segments text)

/-- What reconciling a log reports. -/
def reconcileReports (text : List Char) : List Report :=
  skipReports text ++ (reconcile text).missing.map Report.missing

end Log

end BenchCampaign
