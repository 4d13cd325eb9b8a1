import BenchCampaign.Shell.Builtin
import BenchCampaign.Shell.Redirection
import BenchCampaign.Shell.Utility

/-!
# Running programs

A program of the system works on what it reads and writes, or it is a shell, or
it runs another program.  It runs in place of the process that launches it; a
shell launches programs in processes of their own.

* `State.launch`: runs a program in place of the present process.
* `State.external`: runs one in a process of its own.
-/

namespace BenchCampaign

namespace Shell

/-- Runs a program in place of the present process, or tells why there is none. -/
abbrev Launching := Octets → List Octets → State → Except LaunchFault State

namespace State

/-! ## Programs that work -/

/-- How long it takes to run a program. -/
def programTime : Nat := 1000

/-- How a program tells that what it wrote was not taken, and its status then. -/
def writeFault (program : String) (fault : String) : String × Nat :=
  match program with
  | "cat" =>
    (if fault = "Bad file descriptor" then "standard output: " ++ fault else "write error: " ++ fault, 1)
  | "grep" => ("write error: " ++ fault, 2)
  | "ls" => ("write error: " ++ fault, 2)
  | "expr" => ("write error: " ++ fault, 3)
  | "sed" => ("couldn't flush stdout: " ++ fault, 4)
  | "sort" => ("fflush failed: 'standard output': " ++ fault ++ "\nsort: write error", 2)
  | "wc" => ("write error", 1)
  | _ => ("write error: " ++ fault, 1)

/-- Whether a program keeps what it writes until its end, while it tells at once what is
wrong. -/
def keepsOutput (program : String) : Bool := program = "sed"

/-- Runs a program that works. -/
def work (program : String) (u : Utility) (name : Octets) (arguments : List Octets) (st : State) :
    State :=
  let before : Work :=
    { name := name
      environment := st.environment
      mask := st.mask
      clock := st.clock
      host := st.host
      input := st.input 0
      written := []
      status := 0 }
  let after := (u arguments before).2
  let st := { st.withHost after.host with clock := after.clock + programTime }
  let st := (st.setInput 0 after.input).withStatus after.status
  let parts := after.written.reverse
  let parts := if keepsOutput program then
    parts.filter (fun part => part.1 ≠ 1) ++ parts.filter fun part => part.1 = 1 else parts
  let (st, fault) := parts.foldl
    (fun ((st, fault) : State × Option String) (descriptor, cs) =>
      match st.write? descriptor cs with
      | .ok st => (st, fault)
      | .error e => (st, if descriptor = 1 then some e else fault)) (st, none)
  match fault with
  | none => st
  | some e =>
    let (text, status) := writeFault program e
    (st.write 2 (name ++ [':', ' '] ++ text.toList ++ ['\n'])).withStatus status

/-- A process that has come to its end. -/
def ended (st : State) : State :=
  { st with
    traps := NameTable.empty
    flow := match st.flow with
      | .killed process signal => .killed process signal
      | .exhausted => .exhausted
      | _ => .exiting }

/-! ## Shells -/

/-- The programs that are shells. -/
def shells : List String := ["sh", "dash"]

/-- The variables that every shell starts with. -/
def ownVariables (st : State) : List (String × Octets) :=
  [("IFS", [' ', '\t', '\n']), ("OPTIND", ['1']), ("PPID", Octets.ofNat (st.ancestors.head?.getD 1)),
    ("PS1", ['#', ' ']), ("PS2", ['>', ' ']), ("PS4", ['+', ' '])]

/-- Where a shell searches programs that is handed no search path. -/
def defaultPath : Octets := "/usr/local/sbin:/usr/local/bin:/usr/sbin:/usr/bin:/sbin:/bin".toList

/-- The state that a shell starts from: what is handed on to it, and nothing else. -/
def fresh (st : State) (name : Octets) : State :=
  let handedOn : NameTable Variable := NameTable.mk (st.bindings.entries.filter fun v =>
    v.2.isExported && v.2.value.isSome)
  let bindings := (ownVariables st).foldl (fun (t : NameTable Variable) v =>
    t.insert v.1 ⟨some v.2, false, false⟩) handedOn
  let bindings := if bindings.contains "PATH" then bindings
    else bindings.insert "PATH" ⟨some defaultPath, false, false⟩
  let directory := Builtin.pathOf st.host.directory
  { st.resetOptions 1 with
    mainProcess := st.process
    name := name
    arguments := []
    line := 0
    readerLine := 0
    command := none
    options := []
    bindings := bindings.insert "PWD" ⟨some directory, true, false⟩
    functions := NameTable.empty
    aliases := NameTable.empty
    tracked := NameTable.empty
    saved := []
    traps := st.inheritedTraps
    status := 0
    statusBefore := none
    statusInWords := none
    flow := .running
    loops := 0
    calls := 0
    isTested := false
    jobs := []
    lastJob := none }

/-- Sets the options of a shell: the state with them, whether a text is run, and the
operands. -/
def shellOptions : (fuel : Nat) → List Octets → State → State × Bool × List Octets
  | 0, rest, st => (st, false, rest)
  | _, [], st => (st, false, [])
  | fuel + 1, a :: rest, st =>
    let further := fun (on : Bool) (letters : Octets) =>
      let (st, rest) := Builtin.setLetters on (letters.filter fun c => c ≠ 'c' && c ≠ 'l') rest st
      if !st.isRunning then (st, false, rest)
      else
        let (st, isText, rest) := shellOptions fuel rest st
        (st, isText || letters.contains 'c', rest)
    match a with
    | ['-'] => (st, false, rest)
    | ['-', '-'] => (st, false, rest)
    | '-' :: cs => further true cs
    | '+' :: cs => further false cs
    | _ => (st, false, a :: rest)

/-- The text of a script in a file, or why there is none. -/
def scriptAt (st : State) (path : Octets) : Except Complaint Octets :=
  match st.openToRead 0 path with
  | .ok st => .ok (st.input 0).text
  | .error cause => .error (.unopened path false cause)

/-- Runs a shell. -/
def shell (run : Runner) (name : Octets) (arguments : List Octets) (st : State) : State :=
  let script := fun (text name : Octets) (arguments : List Octets) (st : State) =>
    ({ st with name := name, arguments := arguments }.runText run text).finish run
  let (st, isText, operands) := shellOptions (arguments.length + 1) arguments (st.fresh name)
  let after :=
    if !st.isRunning then st
    else match isText, operands with
      | true, [] => st.fail (.usage "-c requires an argument")
      | true, text :: rest => script text (rest.head?.getD st.name) (rest.drop 1) st
      | false, path :: rest =>
        if st.has 's' then script (st.input 0).text st.name (path :: rest)
          (st.setInput 0 (st.input 0).drained)
        else match st.scriptAt path with
          | .ok text => script text path rest st
          | .error c => st.fail c
      | false, [] =>
        script (st.input 0).text st.name []
          ((st.setInput 0 (st.input 0).drained).setOption 's' true)
  after.ended

/-! ## Launching -/

/-- The status of a program that cannot be launched. -/
def faultStatus : LaunchFault → Nat
  | .missing => 127
  | .notDirectory => 127
  | .nameTooLong => 127
  | .tooManyInterpreters => 127
  | _ => 126

/-- The host with the search path of a process. -/
def hostToSearch (st : State) : Host :=
  { st.host with
    searchPath := match st.binding? "PATH" with
      | some path => (Octets.partsAt ':' path).map Octets.toText
      | none => ["/bin", "/usr/bin"] }

/-- The programs that run others: from how to launch one, and their names. -/
abbrev Runners := Launching → String → Option (Octets → List Octets → State → State)

/-- Runs what a launch comes to, with arguments that stand behind those from a script's first
line. -/
def perform (run : Runner) (runners : Runners) (launching : Launching) (i : Invocation)
    (name : Octets) (arguments : List Octets) (st : State) : Except LaunchFault State :=
  let (name, arguments) := match i.arguments with
    | called :: more :: rest =>
      (Octets.ofString called, (more :: rest).map Octets.ofString ++ arguments)
    | _ => (name, arguments)
  if shells.contains i.program then .ok (shell run name arguments st)
  else match runners launching i.program with
    | some act => .ok (act name arguments st).ended
    | none =>
      match Utility.named? i.program with
      | some u => .ok (work i.program u name arguments st).ended
      | none => .error .denied

/-- Runs a program in place of the present process. -/
def launch (run : Runner) (runners : Runners) : (fuel : Nat) → Launching
  | 0 => fun _ _ _ => .error .tooManyInterpreters
  | fuel + 1 => fun name arguments st =>
    if arguments.any fun a => Host.maxArgument < a.length then .error .argumentsTooLong
    else match st.hostToSearch.search (Octets.toText name) [] with
      | .error .notExecutableFormat =>
        let path := match st.search name with
          | .ok path => path
          | .error _ => name
        .ok (shell run ['s', 'h'] (path :: arguments) st)
      | .error fault => .error fault
      | .ok i => perform run runners (launch run runners fuel) i name arguments st

/-- Runs something in a process of its own, and tells if there is no program to be run. -/
def started (run : Runner) (act : State → Except LaunchFault State) (onFault : LaunchFault → State →
    State) (st : State) : State :=
  st.beside run fun inner =>
    match act inner with
    | .ok after => after
    | .error fault => (onFault fault inner).ended

/-- Runs a program for a shell in a process of its own. -/
def external (run : Runner) (launching : Launching) (name : Octets) (arguments : List Octets)
    (st : State) : State :=
  match st.search name with
  | .error fault => (st.complain (.unlaunched name fault)).withStatus 127
  | .ok _ =>
    (st.track name).started run (launching name arguments) fun fault st =>
      (st.complain (.unlaunched name fault)).withStatus (faultStatus fault)

/-- Runs a program for a shell in place of it. -/
def replace (launching : Launching) (name : Octets) (arguments : List Octets) (st : State) : State :=
  match launching name arguments st with
  | .ok after => after
  | .error fault =>
    { (st.complain (.unlaunched name fault)).withStatus (faultStatus fault) with flow := .exiting }

end State

end Shell

end BenchCampaign
