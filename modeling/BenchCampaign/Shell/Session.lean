import BenchCampaign.Shell.Reader
import BenchCampaign.Shell.Signal
import BenchCampaign.Shell.State

/-!
# Shells that run inside each other

A shell reads its script line by line.  Some parts of a script run in a shell of
their own, which changes nothing of the one that it was started from.  A signal
that has a trap is received when the command at hand has ended.

* `State.runText`: the state after the text of a script.
* `State.finish`: what is done at the end of a script.
* `State.beside`: runs something in a shell of its own.
-/

namespace BenchCampaign

namespace Shell

namespace State

/-! ## Scripts -/

/-- Runs a script line by line. -/
def runLines (run : Runner) : (fuel : Nat) → Source → State → State
  | 0, _, st => st
  | fuel + 1, source, st =>
    if !st.isRunning then st
    else
      let shown : Octets → State := fun rest =>
        if st.has 'v' then st.write 2 (source.rest.take (source.rest.length - rest.length)) else st
      match Reader.line? st.aliases source with
      | .error fault => { shown [] with line := fault.line }.fail (.unreadable fault.cause)
      | .ok none => shown []
      | .ok (some (script, rest)) =>
        let st := { shown rest.rest with readerLine := rest.line }
        runLines run fuel rest (if st.has 'n' then st else run script st)

/-- Runs the text of a script; zero bytes in it count for nothing. -/
def runText (run : Runner) (text : Octets) (st : State) : State :=
  runLines run (text.length + 1) (Source.ofText (text.filter (· ≠ '\x00'))) st

/-- Whether a text has any command in front of its first fault. -/
def hasCommand (aliases : NameTable Octets) : (fuel : Nat) → Source → Bool
  | 0, _ => false
  | fuel + 1, source =>
    match Reader.line? aliases source with
    | .error _ => true
    | .ok none => false
    | .ok (some (script, rest)) => !script.isEmpty || hasCommand aliases fuel rest

/-- Runs the text of a script that succeeds if there is nothing in it. -/
def runPart (run : Runner) (text : Octets) (st : State) : State :=
  if hasCommand st.aliases (text.length + 1) (Source.ofText text) then st.runText run text
  else st.withStatus 0

/-! ## Signals and the end -/

/-- The name by which a trap is kept. -/
def trap? (st : State) (signal : Nat) : Option Octets := st.traps.get? (Signal.name signal)

/-- Runs the command of a trap, after which the status is what it was. -/
def runTrap (run : Runner) (action : Octets) (st : State) : State :=
  let inner := { st with statusBefore := some st.status, isTested := false }
  let after := { inner.runText run action with
    statusBefore := st.statusBefore, line := st.line, isTested := st.isTested }
  if after.isRunning then after.withStatus st.status else after

/-- Whether a signal ends the shell, which has no trap for it or can have none. -/
def isFatal (st : State) (signal : Nat) : Bool :=
  let name := Signal.name signal
  name = "KILL" || ((st.trap? signal).isNone && !Signal.harmless.contains name)

/-- Receives a signal: it ends the shell, or a trap for it is run. -/
def receive (run : Runner) (signal : Nat) (st : State) : State :=
  if st.isFatal signal then { st with flow := .killed st.process signal }
  else
    match st.trap? signal with
    | some action => st.runTrap run action
    | none => st

/-- Whether a signal has come to the present shell. -/
def hasArrived (st : State) (s : SentSignal) : Bool :=
  s.process = st.process && s.arrival ≤ st.clock

/-- Receives the signals that have come to the present shell. -/
def receiveAll (run : Runner) (st : State) : State :=
  if !st.pending.any st.hasArrived then st
  else
    (st.pending.filter st.hasArrived).foldl (fun st s =>
      match st.flow with
      | .killed _ _ => st
      | .exhausted => st
      | _ => st.receive run s.signal)
      { st with pending := st.pending.filter fun s => !st.hasArrived s }

/-- Receives a signal that ends the shell, also in the middle of a command. -/
def receiveFatal (st : State) : State :=
  match st.pending.find? fun s => st.hasArrived s && st.isFatal s.signal with
  | some s => if st.isRunning then { st with flow := .killed st.process s.signal } else st
  | none => st

/-- What is done at the end of a script. -/
def finish (run : Runner) (st : State) : State :=
  match st.flow with
  | .killed _ _ => st
  | .exhausted => st
  | _ =>
    match st.traps.get? "EXIT" with
    | none => st
    | some action =>
      let inner := { st with
        flow := .running
        traps := st.traps.erase "EXIT"
        statusBefore := some st.status
        loops := 0 }
      let after := inner.runText run action
      if after.isRunning then { after with status := st.status, flow := .exiting } else after

/-! ## Shells beside each other -/

/-- A shell after a part of it ran beside it.  A signal that ended that part becomes a
status, and is told. -/
def join (number : Nat) (st after : State) : State :=
  let joined := (st.detached after).withStatus (after.status % 256)
  match after.flow with
  | .killed process signal =>
    if process = number then
      let told := { joined with flow := st.flow, status := 128 + signal }
      if Signal.isSilent signal then told
      else told.write 2 ((Signal.description signal).toList ++ ['\n'])
    else joined
  | _ => joined

/-- The traps that also hold in other shells: those that only ignore a signal. -/
def inheritedTraps (st : State) : NameTable Octets :=
  ⟨st.traps.entries.filter fun e => e.2.isEmpty && e.1 ≠ "EXIT"⟩

/-- A shell of a number that starts inside of another one. -/
def inner (st : State) (number : Nat) : State :=
  { st with
    process := number
    processes := number
    ancestors := st.process :: st.ancestors
    traps := st.inheritedTraps
    jobs := [] }

/-- Tells a shell that has a trap for it that a process has ended. -/
def noticeEnd (st : State) : State :=
  if (st.traps.get? "CHLD").any (!·.isEmpty) then
    { st with pending := st.pending ++ [⟨st.process, 17, st.clock⟩] }
  else st

/-- Runs something in a shell of its own, which can change nothing of the present one. -/
def beside (run : Runner) (act : State → State) (st : State) : State :=
  let number := st.processes + 1
  (st.join number ((act (st.inner number)).finish run)).noticeEnd

end State

end Shell

end BenchCampaign
