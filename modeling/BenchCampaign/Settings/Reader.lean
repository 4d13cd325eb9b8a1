import BenchCampaign.Settings
import BenchCampaign.Yaml.Fields
import BenchCampaign.Yaml.Reader

/-!
# Reading settings

Settings are a YAML mapping of declared fields, and so are the parts of it.
Numbers may not be quoted; a name may be any scalar, and stands for its text.
Each field is declared once, with its name, what it is where it is omitted, and
the way to read it.

* `Settings.declared`, `Nodes.declared` and so on: the fields of each part.
* `Settings.ofNode?`: the settings of a tree.
* `Settings.read?`: the settings of a text.
-/

namespace BenchCampaign

open Yaml

/-! ## Values -/

/-- A number of 16 bits. -/
def Yaml.Node.word16? (n : Node) : Option UInt16 := (n.natural? UInt16.size).map UInt16.ofNat

/-- A number of 32 bits. -/
def Yaml.Node.word32? (n : Node) : Option UInt32 := (n.natural? UInt32.size).map UInt32.ofNat

/-- A number of 64 bits. -/
def Yaml.Node.word64? (n : Node) : Option UInt64 := (n.natural? UInt64.size).map UInt64.ofNat

/-- A text that may be left out by writing nothing. -/
def Yaml.Node.optionalText? (n : Node) : Option (Option String) :=
  match n with
  | .scalar tag .plain text =>
    match tag with
    | none => if text.isEmpty || Meaning.isNull text then some none else some (some text)
    | some t =>
      if t = NodeTag.standard "null" then
        if Meaning.isNull text then some none else none
      else some (some text)
  | .scalar _ _ text => some (some text)
  | _ => none

/-- A workload: its name as text, or as the tag of nothing. -/
def Workload.ofNode? : Node → Option Workload
  | .scalar tag style text =>
    match tag.bind NodeTag.own? with
    | none => ofName? text
    | some name =>
      if style = .plain && (text.isEmpty || Meaning.isNull text) then ofName? name else none
  | _ => none

/-- Reference times: a mapping from names; the last of a repeated name holds. -/
def Baseline.ofNode? (n : Node) : Option Baseline := do
  let entries ← n.entries?
  let times ← entries.mapM fun e => do return (← e.1.text?, ← e.2.word64?)
  some (NameTable.ofList times)

/-! ## Parts -/

namespace Nodes

def hostsField : Field := .required "hosts" (Node.list? Node.text?)

def portField : Field := .optional "port" defaultPort Node.word16?

/-- The fields of a cluster. -/
def declared : List Field := [hostsField, portField]

/-- The cluster. -/
def ofNode? (n : Node) : Option Nodes := do
  let fs ← Fields.ofNode? (declared.map Field.name) n
  some {
    hosts := ← hostsField.read fs
    port := ← portField.read fs }

end Nodes

namespace Driver

def nameField : Field := .required "name" Node.text?

def execField : Field := .optional "exec" none Node.optionalText?

def bareHostsField : Field := .optional "bare_hosts" false Node.bool?

/-- The fields of a driver. -/
def declared : List Field := [nameField, execField, bareHostsField]

/-- A driver. -/
def ofNode? (n : Node) : Option Driver := do
  let fs ← Fields.ofNode? (declared.map Field.name) n
  some {
    name := ← nameField.read fs
    exec := ← execField.read fs
    bareHosts := ← bareHostsField.read fs }

end Driver

namespace SpaceOptions

def tasksField : Field := .required "tasks" (Node.list? Node.word64?)

def concurrencyField : Field := .required "concurrency" (Node.list? Node.word32?)

def workloadsField : Field := .required "workloads" (Node.list? Workload.ofNode?)

def largeTaskMinConcurrencyField : Field :=
  .optional "large_task_min_concurrency" 512 Node.word32?

/-- The fields of the options of a space. -/
def declared : List Field :=
  [tasksField, concurrencyField, workloadsField, largeTaskMinConcurrencyField]

/-- The options of the space. -/
def ofNode? (n : Node) : Option SpaceOptions := do
  let fs ← Fields.ofNode? (declared.map Field.name) n
  some {
    tasks := ← tasksField.read fs
    concurrency := ← concurrencyField.read fs
    workloads := ← workloadsField.read fs
    largeTaskMinConcurrency := ← largeTaskMinConcurrencyField.read fs }

end SpaceOptions

namespace Calibration

/-- The calibration that holds unless another is given. -/
def standard : Calibration := {}

def secondsPerTaskField : Field :=
  .optional "seconds_per_task" standard.secondsPerTask Node.float?

def populationFloorField : Field :=
  .optional "population_concurrency_floor" standard.populationFloor Node.word32?

def restartsField : Field := .optional "restarts" standard.restarts Node.bool?

def restartOverheadField : Field :=
  .optional "restart_overhead" standard.restartOverhead Node.float?

def baselineField : Field := .optional "baseline" standard.baseline Baseline.ofNode?

/-- The fields of a calibration. -/
def declared : List Field :=
  [secondsPerTaskField, populationFloorField, restartsField, restartOverheadField, baselineField]

/-- The calibration. -/
def ofNode? (n : Node) : Option Calibration := do
  let fs ← Fields.ofNode? (declared.map Field.name) n
  some {
    secondsPerTask := ← secondsPerTaskField.read fs
    populationFloor := ← populationFloorField.read fs
    restarts := ← restartsField.read fs
    restartOverhead := ← restartOverheadField.read fs
    baseline := ← baselineField.read fs }

end Calibration

/-! ## The whole -/

namespace Settings

/-- The directory of runners that holds unless another is given. -/
def defaultRunners : String := "benchmarks/basic"

def runnersField : Field := .optional "runners" defaultRunners Node.text?

def samplesField : Field := .optional "samples" 3 Node.word32?

def nodesField : Field := .required "nodes" Nodes.ofNode?

def driversField : Field := .required "drivers" (Node.list? Driver.ofNode?)

def spaceField : Field := .required "space" SpaceOptions.ofNode?

def calibrationField : Field := .optional "estimate" Calibration.standard Calibration.ofNode?

/-- The fields of settings. -/
def declared : List Field :=
  [runnersField, samplesField, nodesField, driversField, spaceField, calibrationField]

/-- The settings of a tree. -/
def ofNode? (n : Node) : Option Settings := do
  let fs ← Fields.ofNode? (declared.map Field.name) n
  some {
    runners := ← runnersField.read fs
    samples := ← samplesField.read fs
    nodes := ← nodesField.read fs
    drivers := ← driversField.read fs
    space := ← spaceField.read fs
    calibration := ← calibrationField.read fs }

/-- The settings of a YAML text. -/
def read? (text : List Char) : Option Settings :=
  (Node.read? text).bind ofNode?

end Settings

end BenchCampaign
