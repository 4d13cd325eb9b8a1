import BenchCampaign.Host.Executable
import BenchCampaign.NameTable
import BenchCampaign.Shell.Channel
import BenchCampaign.Shell.Complaint
import BenchCampaign.Shell.Numeral
import BenchCampaign.Shell.Pattern
import BenchCampaign.Shell.Script

/-!
# The state of a shell

What a script can see and change: variables, arguments, the files of the host,
and where its descriptors lead.  Time passes where a script waits.  A script that
does not end of itself is stopped after a number of commands.

* `State`, `Flow`.
* `State.write`, `State.capture`, `State.detached`.
* `State.complain`, `State.fail`: what happens when something cannot be done.
-/

namespace BenchCampaign

namespace Shell

/-- How it goes on after a command. -/
inductive Flow where
  | running
  | breaking (loops : Nat)
  | continuing (loops : Nat)
  | returning
  /-- Something failed that a script does not go on after. -/
  | failing
  | exiting
  /-- A signal ended the shell of a number. -/
  | killed (process signal : Nat)
  /-- More commands were run than a script may run. -/
  | exhausted
deriving DecidableEq, Repr

/-- A variable. -/
structure Variable where
  value : Option Octets
  isExported : Bool
  isReadOnly : Bool
deriving DecidableEq, Repr

/-- A command in the background. -/
structure Job where
  /-- What the job is called by, behind a percent sign. -/
  number : Nat
  process : Nat
  /-- The last process that the command started. -/
  lastProcess : Nat
  status : Nat
  /-- The signal that ended the command. -/
  signal : Option Nat
  /-- When the command ends. -/
  ending : Nat
  /-- Whether somebody has waited for the end of the command. -/
  isWaited : Bool
deriving DecidableEq, Repr

/-- A signal on its way. -/
structure SentSignal where
  /-- The process that it is sent to. -/
  process : Nat
  signal : Nat
  /-- When it arrives. -/
  arrival : Nat
deriving DecidableEq, Repr

/-- The state of a shell. -/
structure State where
  host : Host
  /-- The number of the shell among those that run inside each other. -/
  process : Nat
  /-- The numbers of the shells that the shell was started from, the nearest one first. -/
  ancestors : List Nat
  /-- The number that `$$` stands for. -/
  mainProcess : Nat
  /-- What the script was called by. -/
  name : Octets
  arguments : List Octets
  /-- The line of the present command. -/
  line : Nat
  /-- The line that is read next. -/
  readerLine : Nat
  /-- The command of the shell that is being run. -/
  command : Option Octets
  /-- The options that are set. -/
  options : List Char
  bindings : NameTable Variable
  functions : NameTable Command
  aliases : NameTable Octets
  /-- Where programs were found that have been run. -/
  tracked : NameTable Octets
  /-- Variables that are put back when the present function ends, the last one first. -/
  saved : List (String × Option Variable)
  /-- Commands for the end of the script and for signals. -/
  traps : NameTable Octets
  status : Nat
  /-- The status with which a trap was entered. -/
  statusBefore : Option Nat
  /-- The status of the last command whose output was put into a word of the present one. -/
  statusInWords : Option Nat
  flow : Flow
  /-- How many loops the present command stands in. -/
  loops : Nat
  /-- How many functions the present command stands in. -/
  calls : Nat
  /-- Whether a failure is what a command is tested for. -/
  isTested : Bool
  /-- Whether output of the present command was lost. -/
  isLost : Bool
  channels : List (Nat × Channel)
  /-- What was written, the last part first. -/
  outputs : Array (List Written)
  inputs : Array Input
  files : Array OpenFile
  /-- The permissions that new files do not get. -/
  mask : Nat
  /-- The commands in the background, the last one first. -/
  jobs : List Job
  /-- The number of the last command in the background. -/
  lastJob : Option Nat
  /-- Signals that are still to be received. -/
  pending : List SentSignal
  /-- How many processes there have been. -/
  processes : Nat
  /-- The time, in millionths of a second. -/
  clock : Nat
  /-- The argument in which options are looked for next. -/
  optionIndex : Nat
  /-- Where the letters of the argument before it go on, if it holds several options. -/
  optionPlace : Option Nat
  /-- How many commands more may be run. -/
  budget : Nat

/-- Runs commands. -/
abbrev Runner := Script → State → State

namespace State

/-! ## Going on -/

/-- Whether the next command is to be run. -/
def isRunning (st : State) : Bool := st.flow == .running

/-- With a status. -/
def withStatus (st : State) (status : Nat) : State := { st with status := status }

/-- Whether an option is set. -/
def has (st : State) (option : Char) : Bool := st.options.contains option

/-- Sets or clears an option. -/
def setOption (st : State) (option : Char) (on : Bool) : State :=
  let others := st.options.filter (· ≠ option)
  { st with options := if on then option :: others else others }

/-- Ends the script with a status. -/
def exit (st : State) (status : Nat) : State :=
  { st with status := status, flow := .exiting }

/-- One command further. -/
def spend (st : State) : State :=
  if st.budget = 0 then { st with flow := .exhausted } else { st with budget := st.budget - 1 }

/-- Ends the script if it stops at failures and there is one. -/
def checkFailure (st : State) : State :=
  if st.has 'e' && !st.isTested && st.status ≠ 0 && st.isRunning then
    { st with flow := .exiting }
  else st

/-! ## Variables -/

/-- The variable of a name. -/
def entryOf? (st : State) (name : String) : Option Variable := st.bindings.get? name

/-- The value of a variable. -/
def binding? (st : State) (name : String) : Option Octets := (st.entryOf? name).bind (·.value)

/-- Whether a variable keeps its value. -/
def isReadOnly (st : State) (name : String) : Bool :=
  ((st.entryOf? name).map (·.isReadOnly)).getD false

/-- The search for options begins anew. -/
def resetOptions (st : State) (index : Nat) : State :=
  { st with optionIndex := max index 1, optionPlace := none }

/-- Gives a variable a value. -/
def setVariable (st : State) (name : String) (value : Octets) : State :=
  let old := (st.entryOf? name).getD ⟨none, false, false⟩
  let new := { old with value := some value, isExported := old.isExported || st.has 'a' }
  let st := { st with bindings := st.bindings.insert name new }
  if name = "PATH" then { st with tracked := NameTable.empty } else st

/-- Takes a variable away. -/
def removeVariable (st : State) (name : String) : State :=
  { st with bindings := st.bindings.erase name }

/-- Gives a variable back what it was, or takes it away. -/
def restoreVariable (st : State) (name : String) : Option Variable → State
  | some v => { st with bindings := st.bindings.insert name v }
  | none => st.removeVariable name

/-- Changes how a variable is kept. -/
def changeVariable (st : State) (name : String) (change : Variable → Variable) : State :=
  let old := (st.entryOf? name).getD ⟨none, false, false⟩
  { st with bindings := st.bindings.insert name (change old) }

/-- Hands a variable on to programs. -/
def exportVariable (st : State) (name : String) : State :=
  st.changeVariable name fun v => { v with isExported := true }

/-- What is handed on to programs. -/
def environment (st : State) : List (String × Octets) :=
  st.bindings.entries.filterMap fun (name, v) =>
    if v.isExported then v.value.map fun value => (name, value) else none

/-- The characters that separate fields. -/
def separators (st : State) : Octets := (st.binding? "IFS").getD [' ', '\t', '\n']

/-- The text between joined arguments. -/
def joint (st : State) : Octets :=
  match st.binding? "IFS" with
  | none => [' ']
  | some cs => cs.take 1

/-- The letters of the options that are set, in their order. -/
def optionLetters (st : State) : Octets :=
  "ubaCEVvxsnmiIfe".toList.filter st.has

/-- The value of a parameter, if it is set. -/
def value? (st : State) : Parameter → Option Octets
  | .named name => st.binding? name
  | .argument 0 => some st.name
  | .argument (k + 1) => st.arguments[k]?
  | .joined => if st.arguments.isEmpty then none else some (st.joint.intercalate st.arguments)
  | .each => if st.arguments.isEmpty then none else some ([' '].intercalate st.arguments)
  | .count => some (Octets.ofNat st.arguments.length)
  | .status => some (Octets.ofNat st.status)
  | .process => some (Octets.ofNat st.mainProcess)
  | .background => st.lastJob.map Octets.ofNat
  | .options => some st.optionLetters

/-! ## Descriptors -/

/-- Where a descriptor leads. -/
def channel (st : State) (descriptor : Nat) : Channel :=
  ((st.channels.find? fun c => c.1 = descriptor).map Prod.snd).getD .closed

/-- Lets a descriptor lead elsewhere. -/
def connect (st : State) (descriptor : Nat) (c : Channel) : State :=
  { st with channels := (descriptor, c) :: st.channels.filter fun old => old.1 ≠ descriptor }

/-- Writes to a descriptor, unless it takes nothing. -/
def write? (st : State) (descriptor : Nat) (cs : Octets) : Except String State :=
  match st.channel descriptor with
  | .output i =>
    .ok { st with outputs := st.outputs.modify i fun parts => ⟨st.clock, st.process, cs⟩ :: parts }
  | .file i _ true =>
    match st.files[i]? with
    | none => .ok st
    | some f =>
      let (tree, f) := f.write st.host.tree (Octets.toBytes cs)
      .ok { st with
        host := { st.host with tree := tree }
        files := st.files.modify i fun _ => f }
  | .device .full => .error "No space left on device"
  | .device _ => .ok st
  | _ => .error "Bad file descriptor"

/-- Writes to a descriptor; what it does not take is lost. -/
def write (st : State) (descriptor : Nat) (cs : Octets) : State :=
  if cs.isEmpty then st
  else match st.write? descriptor cs with
    | .ok st => st
    | .error _ => st

/-- Writes what a command of the shell has to tell. -/
def tell (st : State) (cs : Octets) : State :=
  if cs.isEmpty then st
  else match st.write? 1 cs with
    | .ok st => st
    | .error _ => { st with isLost := true }

/-- What was written to an output. -/
def outputText (st : State) (i : Nat) : Octets :=
  Written.inOrder ((st.outputs[i]?).getD [])

/-- What is left to read from a descriptor. -/
def input (st : State) (descriptor : Nat) : Input :=
  match st.channel descriptor with
  | .input i => (st.inputs[i]?).getD Input.empty
  | .file i true _ =>
    match st.files[i]? with
    | some f => ⟨f.rest st.host.tree, false, true, none⟩
    | none => Input.empty
  | .device .null => Input.empty
  | .device _ => ⟨[], true, true, none⟩
  | .directory => Input.ofFault "Is a directory"
  | _ => Input.ofFault "Bad file descriptor"

/-- Leaves something else to be read from a descriptor. -/
def setInput (st : State) (descriptor : Nat) (rest : Input) : State :=
  match st.channel descriptor with
  | .input i => { st with inputs := st.inputs.modify i fun _ => rest }
  | .file i true _ =>
    let size := ((st.files[i]?).map fun f => (f.content st.host.tree).length).getD 0
    { st with files := st.files.modify i fun f =>
        { f with offset := max f.offset (size - rest.text.length) } }
  | _ => st

/-- Lets a descriptor read from an input of its own. -/
def openInput (st : State) (descriptor : Nat) (i : Input) : State :=
  { st with inputs := st.inputs.push i }.connect descriptor (.input st.inputs.size)

/-- Lets a descriptor lead to a file. -/
def openFile (st : State) (descriptor : Nat) (l : Location) (isRead isWritten appends : Bool) :
    State :=
  { st with files := st.files.push ⟨l, 0, appends, none⟩ }.connect descriptor
    (.file st.files.size isRead isWritten)

/-- With a host on which files may have come and gone. -/
def withHost (st : State) (h : Host) : State :=
  { st with host := h, files := st.files.map fun f => f.follow st.host.tree h.tree }

/-! ## Failing -/

/-- Tells what cannot be done. -/
def complain (st : State) (c : Complaint) : State :=
  let command := (st.command.map fun cs => cs ++ [':', ' ']).getD []
  st.write 2 (st.name ++ [':', ' '] ++ Octets.ofNat st.line ++ [':', ' '] ++ command ++ c.text ++
    ['\n'])

/-- Tells what cannot be done, and does not go on after it. -/
def fail (st : State) (c : Complaint) : State :=
  { st.complain c with status := 2, flow := .failing }

/-- The natural number of a text, which is not too large. -/
def number? (text : Octets) : Option Nat :=
  match Numeral.decimal? text with
  | some n => if 0 ≤ n && n < 2147483648 then some n.toNat else none
  | none => none

/-- Gives a variable a value, which fails if it keeps its own. -/
def assign (st : State) (name : String) (value : Octets) : State :=
  if st.isReadOnly name then st.fail (.readOnly (Octets.ofString name))
  else if name = "OPTIND" then
    match number? value with
    | some n => (st.setVariable name value).resetOptions n
    | none => st.fail (.illegalNumber value)
  else st.setVariable name value

/-- Gives a variable a value whose name may be none. -/
def assignNamed (st : State) (name : Octets) (value : Octets) : State :=
  if isName name then st.assign (String.ofList name) value else st.fail (.badName name)

/-- Takes a variable away that has to have a name and must not keep its value. -/
def unsetNamed (st : State) (name : Octets) : State :=
  if !isName name then st.fail (.badName name)
  else if st.isReadOnly (String.ofList name) then st.fail (.readOnly name)
  else st.removeVariable (String.ofList name)

/-! ## Parts of a script that run apart -/

/-- Runs something with a descriptor that leads to an output of its own, and tells what
was written there. -/
def capture (st : State) (run : State → State) : Octets × State :=
  let index := st.outputs.size
  let inner := { st with outputs := st.outputs.push [] }.connect 1 (.output index)
  let after := run inner
  (after.outputText index, { after with channels := st.channels, outputs := after.outputs.pop })

/-- The state of a shell after another one that ran beside it: only what the two share has
changed. -/
def detached (st after : State) : State :=
  { st with
    host := { after.host with directory := st.host.directory }
    status := after.status
    outputs := after.outputs
    inputs := after.inputs
    files := after.files
    processes := after.processes
    pending := after.pending
    clock := after.clock
    budget := after.budget
    flow := match after.flow with
      | .killed process signal => .killed process signal
      | .exhausted => .exhausted
      | _ => st.flow }

end State

end Shell

end BenchCampaign
