import BenchCampaign.Shell.Session

/-!
# Commands in the background

A command in the background runs at once, with a clock of its own, and ends at
some later time for the shell that started it.  What it writes counts from the
time when it is written; so a signal that ends it early takes back what it would
have written later.

* `State.background`: starts a command.
* `State.waitFor`: waits for the end of one.
* `State.send`: sends a signal to a process.
-/

namespace BenchCampaign

namespace Shell

namespace Job

/-- Whether a job has not ended at a time. -/
def isRunning (j : Job) (clock : Nat) : Bool := clock < j.ending

/-- Whether the number of a job may be given to another one. -/
def isFree (j : Job) (clock : Nat) : Bool := j.isWaited && !j.isRunning clock

/-- How a job stands, in words. -/
def description (j : Job) (clock : Nat) : String :=
  if j.isRunning clock then "Running"
  else match j.signal with
    | some signal => Signal.description signal
    | none => if j.status = 0 then "Done" else "Done(" ++ toString j.status ++ ")"

end Job

namespace State

/-! ## Starting -/

/-- How long it takes until a command in the background begins. -/
def startDelay : Nat := 500

/-- How many commands one in the background may run. -/
def backgroundBudget : Nat := 5000

/-- How long a command runs that does not end of itself. -/
def forever : Nat := 1000000000000

/-- The smallest number that no job has. -/
def freeNumber (jobs : List Job) : Nat :=
  ((List.range (jobs.length + 1)).map (· + 1)).find? (fun n => jobs.all fun j => j.number ≠ n)
    |>.getD (jobs.length + 1)

/-- Starts a command in the background, which reads nothing. -/
def background (run : Runner) (act : State → State) (st : State) : State :=
  let number := st.processes + 1
  let budget := min st.budget backgroundBudget
  let inner := { st.inner number with
    clock := st.clock + startDelay
    isTested := false
    budget := budget }
  let after := (act (inner.openInput 0 Input.empty)).finish run
  let signal := match after.flow with
    | .killed process signal => if process = number then some signal else none
    | _ => none
  let jobs := st.jobs.filter fun j => !j.isFree st.clock
  let job : Job :=
    { number := freeNumber jobs
      process := number
      lastProcess := after.processes
      status := (signal.map (128 + ·)).getD (after.status % 256)
      signal := signal
      ending := if after.flow == .exhausted then forever else max after.clock (st.clock + 1)
      isWaited := false }
  { st.detached after with
    flow := st.flow
    status := 0
    clock := st.clock
    budget := st.budget - (budget - after.budget)
    jobs := job :: jobs
    lastJob := some number
    pending := after.pending.filter fun s => s.process < number || after.processes < s.process }

/-! ## Finding -/

/-- The job that a text with a percent sign stands for. -/
def job? (st : State) (text : Octets) : Except Complaint Job :=
  let current := fun (k : Nat) => match st.jobs[k]? with
    | some j => .ok j
    | none => .error .noCurrentJob
  match text with
  | [] => current 0
  | ['%'] => current 0
  | ['%', '%'] => current 0
  | ['%', '+'] => current 0
  | ['%', '-'] => current 1
  | '%' :: digits =>
    match (Octets.natural? digits).bind fun n => st.jobs.find? fun j => j.number = n with
    | some j => .ok j
    | none => .error (.noJob text)
  | _ => .error (.noJob text)

/-- The job of a process. -/
def jobOf? (st : State) (process : Nat) : Option Job :=
  st.jobs.find? fun j => j.process = process

/-- Puts a job in place of the one with its number. -/
def setJob (st : State) (job : Job) : State :=
  { st with jobs := st.jobs.map fun j => if j.number = job.number then job else j }

/-! ## Waiting -/

/-- Waits for the end of a job; a signal that ended it is told. -/
def waitFor (job : Job) (st : State) : State :=
  let st := if job.isRunning st.clock then { st with clock := job.ending }.noticeEnd else st
  let st := (st.setJob { job with isWaited := true }).withStatus job.status
  match job.signal with
  | some signal =>
    if job.isWaited || Signal.isSilent signal then st
    else st.write 2 ((Signal.description signal).toList ++ ['\n'])
  | none => st

/-- Waits for the end of all jobs. -/
def waitForAll (st : State) : State :=
  let ended := st.jobs.foldl (fun (st : State) j =>
    if j.isRunning st.clock then { st with clock := j.ending }.noticeEnd else st) st
  { ended with jobs := st.jobs.map fun j => { j with isWaited := true }, status := 0 }

/-! ## Sending signals -/

/-- Ends a job by a signal, and takes back what it would have written later. -/
def endJob (job : Job) (signal : Nat) (st : State) : State :=
  let isLater := fun w : Written =>
    job.process ≤ w.process && w.process ≤ job.lastProcess && st.clock < w.time
  { st.setJob { job with status := 128 + signal, signal := some signal, ending := st.clock } with
    outputs := st.outputs.map fun parts => parts.filter fun w => !isLater w
    pending := st.pending.filter fun s => s.arrival ≤ st.clock }

/-- Sends a signal to a process; the number zero only asks whether there is one. -/
def send? (signal process : Nat) (st : State) : Option State :=
  if process = st.process || st.ancestors.contains process then
    if signal = 0 then some st
    else some { st with pending := st.pending ++ [⟨process, signal, st.clock⟩] }
  else match st.jobOf? process with
    | none => none
    | some job =>
      if !job.isRunning st.clock then none
      else if signal = 0 || Signal.harmless.contains (Signal.name signal) then some st
      else some (st.endJob job signal)

end State

end Shell

end BenchCampaign
