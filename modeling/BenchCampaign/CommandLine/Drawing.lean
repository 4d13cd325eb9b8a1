import BenchCampaign.Chart.File
import BenchCampaign.Chart.Saving
import BenchCampaign.CommandLine.Options
import BenchCampaign.Record.Reader

/-!
# Drawing a chart from files

A chart is drawn from a chart file, or from the records of a selection.  It is
written to its file only when nothing is wrong with what it is drawn from.

* `DrawCommand.ofArguments`: the command of a command line, which names one source.
* `DrawCommand.perform`: the host with the chart.
-/

namespace BenchCampaign

namespace CommandLine

/-- What a chart is drawn from, and where it goes. -/
structure DrawCommand where
  chartFile : Option String
  records : Option String
  workload : Option Workload
  concurrency : Option UInt32
  tasks : Option UInt64
  /-- The title in place of the one that belongs to the source. -/
  title : Option String
  output : String
deriving DecidableEq, Repr

/-- The code, what was told, and the host after it. -/
structure DrawResult where
  code : Nat
  notices : List Notice
  host : Host

namespace DrawCommand

/-! ## Arguments -/

/-- The options of the command. -/
def options : Options :=
  ⟨[ pathOption "config" 'c',
      pathOption "records" 'r',
      ⟨"workload", none, some fun v => (Workload.ofName? v).isSome⟩,
      ⟨"concurrency", none, some fun v => (word32? v).isSome⟩,
      ⟨"tasks", none, some fun v => (word64? v).isSome⟩,
      ⟨"title", none, some fun _ => true⟩,
      pathOption "output" 'o' ],
    [helpInquiry, versionInquiry]⟩

/-- The file that a chart goes to unless another is named. -/
def defaultOutput : String := "chart.svg"

/-- The command that options ask for. -/
def ofGiven (given : Given) : DrawCommand :=
  { chartFile := given.value? "config"
    records := given.value? "records"
    workload := (given.value? "workload").bind Workload.ofName?
    concurrency := (given.value? "concurrency").bind word32?
    tasks := (given.value? "tasks").bind word64?
    title := given.value? "title"
    output := (given.value? "output").getD defaultOutput }

/-- Whether there is one source, and a whole selection if that is records. -/
def isDetermined (c : DrawCommand) : Bool :=
  match c.chartFile, c.records with
  | some _, none => true
  | none, some _ => c.workload.isSome && c.concurrency.isSome && c.tasks.isSome
  | _, _ => false

/-- The command of a command line. -/
def ofArguments (arguments : List String) : Except Refusal DrawCommand := do
  let given ← options.read arguments
  if (ofGiven given).isDetermined then return ofGiven given
  else throw .usage

/-! ## Carrying out -/

/-- The chart file at a path. -/
def loadChartFile (h : Host) (path : String) : Except Chart.Fault Chart.File :=
  match h.decodeFile path Chart.File.read? with
  | .ok (some f) => .ok f
  | .ok none => .error .malformedFile
  | .error _ => .error .files

/-- The records of the file at a path. -/
def loadRecords (h : Host) (path : String) : Except Chart.Fault (List Record) :=
  match h.read path with
  | .error _ => .error .files
  | .ok bytes =>
    match Text.ofUtf8? bytes with
    | none => .error .files
    | some text =>
      match Record.readLines? text with
      | some rs => .ok rs
      | none => .error .malformedRecord

/-- The results of the source and the title that belongs to them. -/
def content (c : DrawCommand) (h : Host) : Except Chart.Fault (ResultSet Float × String) :=
  match c.chartFile, c.records with
  | some path, _ => do
    let f ← loadChartFile h path
    return (← f.resultSet, f.title)
  | none, some path =>
    match Selection.ofParts c.workload c.concurrency c.tasks with
    | .error part => .error (.missingPart part)
    | .ok selection => do
      let rs ← loadRecords h path
      return (ResultSet.ofRecords rs selection, selection.title)
  | none, none => .error .noSource

/-- Draws the chart and writes it. -/
def run (c : DrawCommand) : EStateM Chart.Fault Host Notice := do
  let (results, title) ← MonadExcept.ofExcept (c.content (← get))
  Chart.save Chart.standardSize results (c.title.getD title) c.output
  return Chart.savedNotice results c.output

/-- Carries out the command. -/
def perform (c : DrawCommand) (h : Host) : DrawResult :=
  match c.run h with
  | .ok notice after => ⟨successCode, [notice], after⟩
  | .error fault after => ⟨failureCode, [⟨.error, fault.message, none⟩], after⟩

/-- Carries out a command line. -/
def performArguments (h : Host) (arguments : List String) : DrawResult :=
  match ofArguments arguments with
  | .ok c => c.perform h
  | .error refusal => ⟨refusal.code, [], h⟩

end DrawCommand

end CommandLine

end BenchCampaign
