import BenchCampaign.Shell.Program
import BenchCampaign.Shell.Utility.Sequence

/-!
# Programs that run others

Some programs only prepare what another program runs in: its environment, its
arguments, or how long it may run.

* `Launcher.named?`: the program of a name.
-/

namespace BenchCampaign

namespace Shell

namespace Launcher

open State

/-- Tells something behind the name of a program. -/
def warn (name text : Octets) (st : State) : State :=
  st.write 2 (name ++ [':', ' '] ++ text ++ ['\n'])

/-- Tells where to find out more about a program. -/
def suggestHelp (name : Octets) (st : State) : State :=
  st.write 2 ("Try '".toList ++ name ++ " --help' for more information.\n".toList)

/-- Tells what is wrong with the arguments of a program, and ends it. -/
def usage (name : Octets) (status : Nat) (text : Octets) (st : State) : State :=
  (suggestHelp name (warn name text st)).withStatus status

/-- Does something with the options and operands of a program. -/
def withOptions (name : Octets) (status : Nat) (s : OptionSet) (arguments : List Octets)
    (act : Options → State → State) (st : State) : State :=
  match Options.read s.ordered arguments with
  | .ok o => act o st
  | .error fault => usage name status fault.text st

/-- The status of a program that could not run another one. -/
def faultStatus (fault : LaunchFault) : Nat := if fault = .missing then 127 else 126

/-- Tells that a program cannot be run. -/
def refuse (name lead program : Octets) (fault : LaunchFault) (st : State) : State :=
  (warn name (lead ++ program ++ ": ".toList ++ fault.description.toList) st).withStatus
    (faultStatus fault)

/-- Runs a program in place of the present one. -/
def replace (launching : Launching) (name lead : Octets) (command : List Octets) (st : State) :
    State :=
  match command with
  | [] => st
  | program :: arguments =>
    match launching program arguments st with
    | .ok after => after
    | .error fault => refuse name lead (Work.quote program) fault st

/-! ## The environment -/

/-- Runs a program in another environment, or shows the environment. -/
def env (launching : Launching) (name : Octets) (arguments : List Octets) (st : State) : State :=
  let known := OptionSet.of "iu:0C:" [("ignore-environment", 'i'), ("unset", 'u'), ("null", '0'),
    ("chdir", 'C')]
  withOptions name 125 known arguments (fun o st =>
    let st := if o.has 'i' || o.operands.head? = some ['-'] then
      { st with bindings := NameTable.empty } else st
    let st := (o.values 'u').foldl (fun st v => st.removeVariable (String.ofList v)) st
    let operands := if o.operands.head? = some ['-'] then o.operands.drop 1 else o.operands
    let assignments := operands.takeWhile (·.contains '=')
    let st := assignments.foldl (fun st a =>
      let key := String.ofList (a.takeWhile (· ≠ '='))
      (st.setVariable key (a.drop (key.length + 1))).exportVariable key) st
    match operands.drop assignments.length with
    | [] =>
      let ending := if o.has '0' then '\x00' else '\n'
      (st.withStatus 0).tell (st.environment.flatMap fun (n, v) => n.toList ++ '=' :: v ++ [ending])
    | command => replace launching name [] command st) st

/-! ## Priority -/

/-- Runs a program with another priority, or tells the priority. -/
def nice (launching : Launching) (name : Octets) (arguments : List Octets) (st : State) : State :=
  withOptions name 125 (OptionSet.of "n:" [("adjustment", 'n')]) arguments (fun o st =>
    match (o.values 'n').find? fun v => (Numeral.decimal? v).isNone with
    | some v => (warn name ("invalid adjustment ".toList ++ Work.quote v) st).withStatus 125
    | none =>
      if o.operands.isEmpty then (st.withStatus 0).tell "0\n".toList
      else replace launching name [] o.operands st) st

/-- Runs a program that a lost connection does not end. -/
def nohup (launching : Launching) (name : Octets) (arguments : List Octets) (st : State) : State :=
  withOptions name 125 (OptionSet.of "" []) arguments (fun o st =>
    if o.operands.isEmpty then usage name 125 Work.missingOperand st
    else replace launching name "failed to run command ".toList o.operands
      { st with traps := st.traps.insert "HUP" [] }) st

/-! ## Time -/

/-- Takes back what processes from a number on have written after a time. -/
def takeBack (process time : Nat) (st : State) : State :=
  { st with outputs := st.outputs.map fun parts =>
      parts.filter fun w => w.process < process || w.time ≤ time }

/-- Runs a program for some time at most. -/
def timeout (run : Runner) (launching : Launching) (name : Octets) (arguments : List Octets)
    (st : State) : State :=
  let known := OptionSet.of "s:k:v" [("signal", 's'), ("kill-after", 'k'), ("verbose", 'v'),
    ("preserve-status", 'p'), ("foreground", 'f')]
  withOptions name 125 known arguments (fun o st =>
    let signal := (o.value? 's').elim (some 15) Signal.named?
    match o.operands, signal with
    | text :: program :: rest, some signal =>
      match Utility.duration? text with
      | none => usage name 125 ("invalid time interval ".toList ++ Work.quote text) st
      | some time =>
        let after := st.started run (launching program rest)
          (refuse name "failed to run command ".toList (Work.quote program))
        if time = 0 || after.clock ≤ st.clock + time then after
        else
          let stopped := { takeBack (st.processes + 1) (st.clock + time) after with
            clock := st.clock + time, flow := st.flow }
          if signal = 9 then { stopped with flow := .killed st.process 9 }
          else stopped.withStatus (if o.has 'p' then 128 + signal else 124)
    | _, none =>
      usage name 125 (Work.quote ((o.value? 's').getD []) ++ ": invalid signal".toList) st
    | _, _ => (suggestHelp name st).withStatus 125) st

/-! ## Arguments -/

/-- The words of a text, which blanks separate; quotation marks and backslashes hide blanks.
None if a quotation mark is not closed. -/
def words : (fuel : Nat) → (current : Option Octets) → Octets → Except Char (List Octets)
  | 0, current, _ => .ok current.toList
  | _, current, [] => .ok current.toList
  | fuel + 1, current, c :: rest =>
    if c = ' ' || c = '\t' || c = '\n' then (words fuel none rest).map (current.toList ++ ·)
    else if c = '\\' then
      match rest with
      | [] => .ok current.toList
      | d :: rest => words fuel (some (current.getD [] ++ [d])) rest
    else if c = '"' || c = '\'' then
      let inner := rest.takeWhile fun d => d ≠ c && d ≠ '\n'
      match rest.drop inner.length with
      | d :: rest => if d = c then words fuel (some (current.getD [] ++ inner)) rest else .error c
      | [] => .error c
    else words fuel (some (current.getD [] ++ [c])) rest

/-- The lines of a text without blanks in front, those that are empty apart. -/
def items (text : Octets) : List Octets :=
  ((Octets.partsAt '\n' text).map fun l => l.dropWhile fun c => c = ' ' || c = '\t').filter (!·.isEmpty)

/-- A text with another one in place of each part that is a mark. -/
def replaceAll (mark value : Octets) : (fuel : Nat) → Octets → Octets
  | 0, text => text
  | _, [] => []
  | fuel + 1, c :: rest =>
    if mark.isPrefixOf (c :: rest) then
      value ++ replaceAll mark value fuel ((c :: rest).drop (max mark.length 1))
    else c :: replaceAll mark value fuel rest

/-- The items of a list in groups. -/
def groups {α : Type} (size : Nat) : (fuel : Nat) → List α → List (List α)
  | 0, _ => []
  | _, [] => []
  | fuel + 1, xs => xs.take size :: groups size fuel (xs.drop size)

/-- Runs a program once for each group of arguments, and tells how it went. -/
def runEach (run : Runner) (launching : Launching) (name : Octets) (isShown : Bool) :
    List (List Octets) → State → State
  | [], st => st
  | command :: rest, st =>
    let st := if isShown then st.write 2 ([' '].intercalate command ++ ['\n']) else st
    let program := command.head?.getD []
    let inner := st.openInput 0 Input.empty
    let before := st.status
    let after := inner.started run (launching program (command.drop 1)) fun fault st =>
      (refuse name [] program fault st)
    let after := { after with channels := st.channels }
    if !after.isRunning then after
    else if after.status = 126 || after.status = 127 then after
    else if after.status = 255 then
      (warn name (program ++ ": exited with status 255; aborting".toList) after).withStatus 124
    else runEach run launching name isShown rest
      (after.withStatus (if after.status = 0 then before else 123))

/-- The character that a text stands for. -/
def delimiter : Octets → Char
  | '\\' :: rest => (Escape.inFormat rest).1
  | c :: _ => c
  | [] => '\n'

/-- Runs a program with what is read as arguments. -/
def xargs (run : Runner) (launching : Launching) (name : Octets) (arguments : List Octets)
    (st : State) : State :=
  let known := OptionSet.of "0n:I:rd:tL:P:s:ipxa:" [("null", '0'), ("max-args", 'n'),
    ("replace", 'I'), ("no-run-if-empty", 'r'), ("delimiter", 'd'), ("verbose", 't'),
    ("max-lines", 'L'), ("max-procs", 'P')]
  withOptions name 1 known arguments (fun o st =>
    let text := (st.input 0).text
    let st := (st.setInput 0 (st.input 0).drained).withStatus 0
    let command := if o.operands.isEmpty then ["echo".toList] else o.operands
    let separated := fun (c : Char) =>
      let parts := Octets.partsAt c text
      if parts.getLast? = some [] then parts.dropLast else parts
    let read : Except Char (List (List Octets)) :=
      if o.has '0' then .ok ((separated '\x00').map ([·]))
      else match o.value? 'd' with
        | some d => .ok ((separated (delimiter d)).map ([·]))
        | none =>
          if o.has 'I' then .ok ((items text).map ([·]))
          else if o.has 'L' then (items text).mapM fun l => words (l.length + 1) none l
          else (words (text.length + 1) none text).map fun ws => ws.map ([·])
    match read with
    | .error c =>
      let kind := if c = '"' then "double" else "single"
      (warn name ("unmatched " ++ kind ++ " quote; by default quotes are special to xargs unless " ++
        "you use the -0 option").toList st).withStatus 1
    | .ok parts =>
      let size := fun (c : Char) => (o.value? c).bind Octets.natural?
      let commands := match o.value? 'I' with
        | some mark => parts.map fun p =>
            command.map fun a => replaceAll mark p.flatten (a.length + 1) a
        | none =>
          let grouped := match (size 'n').or (size 'L') with
            | some n => groups (max n 1) (parts.length + 1) parts
            | none => if parts.isEmpty then [] else [parts]
          let grouped := if grouped.isEmpty && !o.has 'r' then [[]] else grouped
          grouped.map fun g => command ++ g.flatten
      runEach run launching name (o.has 't') commands st) st

/-! ## Names -/

/-- The names of the programs. -/
def names : List String := ["env", "nice", "nohup", "timeout", "xargs"]

/-- The program of a name. -/
def named? (run : Runner) (launching : Launching) (name : String) :
    Option (Octets → List Octets → State → State) :=
  match name with
  | "env" => some (env launching)
  | "nice" => some (nice launching)
  | "nohup" => some (nohup launching)
  | "timeout" => some (timeout run launching)
  | "xargs" => some (xargs run launching)
  | _ => none

end Launcher

end Shell

end BenchCampaign
