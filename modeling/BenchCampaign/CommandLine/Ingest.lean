import BenchCampaign.CommandLine.Options
import BenchCampaign.Host.FileTree
import BenchCampaign.Log.Reconciliation
import BenchCampaign.Text.Utf8

/-!
# Turning a log into records

A log is read from a file or from the input, and its records are written one a
line.  Faults do not keep back the records around them; they are told at the end
by the code.

* `IngestCommand.ofArguments`, `IngestCommand.perform`.
-/

namespace BenchCampaign

namespace CommandLine

/-- Which log is read, and how it is judged. -/
structure IngestCommand where
  /-- The file that is read in place of the input. -/
  file : Option String
  /-- Whether runs that never reported a time count as faults. -/
  reconciles : Bool
deriving DecidableEq, Repr

/-- What was written, the code, and what was told. -/
structure IngestResult where
  code : Nat
  output : List UInt8
  notices : List Notice

namespace IngestCommand

/-- The options of the command. -/
def options : Options :=
  ⟨[pathOption "input" 'i', switch "reconcile"], [helpInquiry, versionInquiry]⟩

/-- The command of a command line. -/
def ofArguments (arguments : List String) : Except Refusal IngestCommand := do
  let given ← options.read arguments
  return ⟨given.value? "input", given.has "reconcile"⟩

/-- The bytes that are read. -/
def source (c : IngestCommand) (h : Host) (input : List UInt8) : Option (List UInt8) :=
  match c.file with
  | none => some input
  | some path => (h.read path).toOption

/-- Records as they are written. -/
def recordLines (rs : List Record) : List UInt8 := Text.utf8 (Record.lines rs)

/-- A fault as an error. -/
def faultNotice (f : Log.Fault) : Notice := ⟨.error, f.message, none⟩

/-- The code of a command that ended well or not. -/
def code (isClean : Bool) : Nat := if isClean then successCode else failureCode

/-- The records of a log, and whether every run has one. -/
def reconciled (text : List Char) : IngestResult :=
  let r := Log.reconcile text
  let summary := toString r.completed.length ++ " runs completed, " ++
    toString r.missing.length ++ " without benchmark time, " ++
    toString r.faults.length ++ " malformed"
  ⟨code r.isComplete, recordLines r.completed,
    (Log.reconcileReports text).map Log.Report.notice ++ r.faults.map faultNotice ++
      [⟨.info, summary, none⟩]⟩

/-- The records of a log, and whether none is faulty. -/
def plain (text : List Char) : IngestResult :=
  let results := Log.read text
  let records := results.filterMap Except.toOption
  let faults := results.filterMap fun r => match r with
    | .error f => some f
    | .ok _ => none
  ⟨code faults.isEmpty, recordLines records,
    (Log.readReports text).map Log.Report.notice ++ faults.map faultNotice⟩

/-- Carries out the command; what cannot be read as text is no log. -/
def perform (c : IngestCommand) (h : Host) (input : List UInt8) : IngestResult :=
  match (c.source h input).bind Text.ofUtf8? with
  | none => ⟨failureCode, [], []⟩
  | some text => if c.reconciles then reconciled text else plain text

/-- Carries out a command line. -/
def performArguments (h : Host) (arguments : List String) (input : List UInt8) : IngestResult :=
  match ofArguments arguments with
  | .ok c => c.perform h input
  | .error refusal => ⟨refusal.code, [], []⟩

end IngestCommand

end CommandLine

end BenchCampaign
