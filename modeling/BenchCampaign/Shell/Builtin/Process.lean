import BenchCampaign.Shell.Builtin.Letters
import BenchCampaign.Shell.Job
import BenchCampaign.Shell.Permission

/-!
# Processes

Commands that send signals and say what is done about them, that wait for
commands in the background, and that limit what processes may do.

* `Builtin.kill`, `Builtin.trap`.
* `Builtin.wait`, `Builtin.jobs`, `Builtin.resume`.
* `Builtin.umask`, `Builtin.ulimit`, `Builtin.times`.
-/

namespace BenchCampaign

namespace Shell

namespace Builtin

open State

/-! ## Signals -/

/-- How signals are sent. -/
def killUsage : Complaint :=
  .usage "Usage: kill [-s sigspec | -signum | -sigspec] [pid | job]... or\nkill -l [exitstatus]"

/-- The number of a signal to be sent that is named in either way. -/
def sentSignal? (text : Octets) : Option Nat :=
  match Signal.named? text with
  | some 0 => if (Octets.natural? text).isSome then some 0 else none
  | found => found

/-- Sends a signal to processes. -/
def sendAll (signal : Nat) (targets : List Octets) (st : State) : State :=
  let missing := fun (st : State) => (st.complain .noProcess).withStatus 1
  let one := fun (st : State) (process : Nat) => match st.send? signal process with
    | some st => st
    | none => missing st
  (st.withStatus 0).forEach targets fun t st =>
    match t with
    | '%' :: _ =>
      match st.job? t with
      | .ok _ => missing st
      | .error c => st.fail c
    | '-' :: digits => st.withNumber digits fun _ st => missing st
    | _ => st.withNumber t fun n st => if n = 0 then one st st.process else one st n

/-- Lists the names of signals, or names the one that a status stands for. -/
def listSignals (operands : List Octets) (st : State) : State :=
  match operands with
  | [] =>
    (st.withStatus 0).tell ("0\n".toList ++
      (Signal.names.drop 1).flatMap fun name => name.toList ++ ['\n'])
  | a :: _ =>
    st.withNumber a fun n st =>
      let signal := if 128 < n then n - 128 else n
      if 0 < signal && signal ≤ Signal.last then
        (st.withStatus 0).tell ((Signal.name signal).toList ++ ['\n'])
      else st.fail (.usage ("invalid signal number or exit status: " ++ Octets.toText a))

/-- Sends a signal. -/
def kill : Builtin := fun _ arguments st =>
  let sendTo := fun (signal : Nat) (targets : List Octets) (st : State) =>
    if targets.isEmpty then st.fail killUsage else sendAll signal targets st
  match arguments with
  | [] => st.fail killUsage
  | ('-' :: text) :: targets =>
    match sentSignal? text with
    | some signal => sendTo signal targets st
    | none =>
      st.withLetters "ls:" arguments fun o st =>
        if o.has 'l' then listSignals o.operands st
        else match o.value? 's' with
          | none => sendTo 15 o.operands st
          | some name =>
            match sentSignal? name with
            | some signal => sendTo signal o.operands st
            | none => st.fail (.usage ("invalid signal number or name: " ++ Octets.toText name))
  | targets => sendAll 15 targets st

/-- Says what is run at the end or at a signal. -/
def trap : Builtin := fun _ arguments st =>
  st.withLetters "" arguments fun o st =>
    let st := st.withStatus 0
    let isNumber := fun a : Octets => (Octets.natural? a).any fun n => n ≤ Signal.last
    let set := fun (action : Option Octets) (names : List Octets) (st : State) =>
      (names.foldl (fun (st, goesOn) name =>
        if !goesOn then (st, false)
        else match Signal.named? name with
          | none => ((st.write 2 ("trap: ".toList ++ name ++ ": bad trap\n".toList)).withStatus 1,
              false)
          | some n =>
            let key := Signal.name n
            let traps := match action with
              | none => st.traps.erase key
              | some ['-'] => st.traps.erase key
              | some text => st.traps.insert key text
            ({ st with traps := traps }, true)) (st, true)).1
    match o.operands with
    | [] =>
      let held := Signal.names.filterMap fun name => (st.traps.get? name).map fun t => (name, t)
      st.tell (held.flatMap fun (name, action) =>
        "trap -- ".toList ++ shellQuote action ++ [' '] ++ name.toList ++ ['\n'])
    | [name] => set none [name] st
    | action :: names =>
      if isNumber action then set none (action :: names) st else set (some action) names st

/-! ## Jobs -/

/-- Waits for commands in the background. -/
def wait : Builtin := fun _ arguments st =>
  st.withLetters "" arguments fun o st =>
    if o.operands.isEmpty then st.waitForAll
    else
      (st.withStatus 127).forEach o.operands fun a st =>
        if a.head? = some '%' then
          match st.job? a with
          | .ok job => st.waitFor job
          | .error c => st.fail c
        else
          st.withNumber a fun n st =>
            match st.jobOf? n with
            | some job => st.waitFor job
            | none => st.withStatus 127

/-- A job as it is listed. -/
def jobLine (place : Nat) (job : Job) (withProcess : Bool) (clock : Nat) : Octets :=
  let mark := if place = 0 then '+' else if place = 1 then '-' else ' '
  let process := if withProcess then Octets.ofNat job.process ++ [' '] else []
  let cs := '[' :: Octets.ofNat job.number ++ [']', ' ', mark, ' '] ++ process ++
    (job.description clock).toList
  cs ++ List.replicate (33 - cs.length) ' ' ++ ['\n']

/-- Lists the commands in the background. -/
def jobs : Builtin := fun _ arguments st =>
  st.withLetters "lp" arguments fun o st =>
    let all := st.jobs.zipIdx
    let listed := if o.operands.isEmpty then all
      else all.filter fun j => o.operands.any fun a => match st.job? a with
        | .ok job => job.number = j.1.number
        | .error _ => false
    let text := (listed.mergeSort fun a b => decide (a.1.number ≤ b.1.number)).flatMap fun (j, k) =>
      if o.last? ['l', 'p'] = some 'p' then Octets.ofNat j.process ++ ['\n']
      else jobLine k j (o.has 'l') st.clock
    let st := { st with jobs := st.jobs.filter fun j => j.isRunning st.clock }
    (st.withStatus 0).tell text

/-- Takes up a job again, of which none is held. -/
def resume : Builtin := fun _ arguments st =>
  match st.job? (arguments.head?.getD []) with
  | .ok job => st.fail (.usage ("job " ++ toString job.number ++ " not created under job control"))
  | .error c => st.fail c

/-! ## Limits -/

/-- The permissions that new files get, for one kind of user. -/
def maskLetters (mask shift : Nat) : Octets :=
  let bits := 7 - mask / shift % 8
  (if bits / 4 % 2 = 1 then ['r'] else []) ++ (if bits / 2 % 2 = 1 then ['w'] else []) ++
    (if bits % 2 = 1 then ['x'] else [])

/-- Shows or sets the permissions that new files do not get. -/
def umask : Builtin := fun _ arguments st =>
  st.withLetters "S" arguments fun o st =>
    let st := st.withStatus 0
    match o.operands with
    | [] =>
      if o.has 'S' then
        st.tell ("u=".toList ++ maskLetters st.mask 64 ++ ",g=".toList ++ maskLetters st.mask 8 ++
          ",o=".toList ++ maskLetters st.mask 1 ++ ['\n'])
      else
        let digits := Nat.toDigits 8 st.mask
        st.tell (List.replicate (4 - digits.length) '0' ++ digits ++ ['\n'])
    | a :: _ =>
      if a.head?.any Char.isDigit then
        if a.all Numeral.isOctal then { st with mask := Numeral.ofDigits 8 a % 0o1000 }
        else st.fail (.illegalNumber a)
      else match Permission.changed? 0 false a (0o777 - st.mask) with
        | some mode => { st with mask := 0o777 - mode % 0o1000 }
        | none => st.fail (.illegalMode a)

/-- Shows limits, of which there are none, or sets them. -/
def ulimit : Builtin := fun _ arguments st =>
  st.withLetters "HSatfdsmcnlpvwr" arguments fun o st =>
    let isNumber := fun a : Octets => !a.isEmpty && a.all Char.isDigit
    match o.operands with
    | [] => (st.withStatus 0).tell "unlimited\n".toList
    | [a] =>
      if isNumber a || a = "unlimited".toList then st.withStatus 0
      else st.fail (.usage "bad number")
    | _ => st.fail (.usage "too many arguments")

/-- Tells how much time was used. -/
def times : Builtin := fun _ _ st =>
  let line := "0m0.000000s 0m0.000000s\n".toList
  (st.withStatus 0).tell (line ++ line)

end Builtin

end Shell

end BenchCampaign
