import BenchCampaign.Shell.Launcher

/-!
# Running scripts

How a shell runs the commands of a script, and how a host launches programs: the
programs of the system as functions, and scripts by the shell.  A campaign knows
nothing of this but the launcher at the end, and takes any other one as well.

* `State.run`: the state after a script.
* `Host.launch`: what comes of launching a program on a host.
-/

namespace BenchCampaign

namespace Shell

/-- Running scripts and expanding words, as parts of other commands and words. -/
structure Abilities where
  run : Runner
  expand : Expander
  launch : Launching

namespace State

/-! ## Simple commands -/

/-- How many functions can stand in each other. -/
def maxCalls : Nat := 1000

/-- Runs a function. -/
def call (run : Runner) (body : Command) (arguments : List Octets) (st : State) : State :=
  if maxCalls ≤ st.calls then st.fail .tooManyCalls
  else
  let inner := { st.resetOptions 1 with
    arguments := arguments
    saved := []
    loops := 0
    calls := st.calls + 1 }
  let after := run [body] inner
  let after := after.saved.foldl (fun st v => st.restoreVariable v.1 v.2) after
  { after with
    arguments := st.arguments
    optionIndex := st.optionIndex
    optionPlace := st.optionPlace
    saved := st.saved
    loops := st.loops
    calls := st.calls
    flow := if after.flow == .returning then .running else after.flow }

/-- How a command is to be run that stands behind others which only say so. -/
structure Addressed where
  /-- The name of the command, and its arguments. -/
  fields : List Octets
  /-- Whether no function and no alias stands in for the command, and failures are its own. -/
  isPlain : Bool

/-- What is left of the fields of a command behind those that only say how to run it; none
if they ask for something else. -/
def address : (fuel : Nat) → List Octets → Addressed
  | 0, fields => ⟨fields, false⟩
  | fuel + 1, fields =>
    match fields with
    | name :: rest =>
      if String.ofList name ≠ "command" then ⟨fields, false⟩
      else
        let letters := rest.takeWhile fun a => a.head? = some '-' && a.length ≠ 1 && a ≠ ['-', '-']
        let rest := rest.drop letters.length
        let command := if rest.head? = some ['-', '-'] then rest.drop 1 else rest
        if command.isEmpty || letters.any (fun a => !(a.drop 1).all (· = 'p')) then ⟨fields, true⟩
        else { address fuel command with isPlain := true }
    | [] => ⟨[], false⟩

/-- Runs a command with its arguments. -/
def runFields (a : Abilities) (name : Octets) (arguments : List Octets) (isPlain : Bool)
    (st : State) : State :=
  let text := String.ofList name
  match Builtin.special? text with
  | some b =>
    let after := Builtin.run b a.run name arguments st
    if isPlain then after.recovered else after
  | none =>
    match if isPlain then none else st.functions.get? text with
    | some body => call a.run body arguments st
    | none =>
      match Builtin.regular? text with
      | some b => (Builtin.run b a.run name arguments st).recovered
      | none => external a.run a.launch name arguments st

/-- Makes assignments: what was assigned, and the state. -/
def assignAll (expand : Expander) (assignments : List (String × Word)) (st : State) :
    List (String × Octets) × State :=
  let (made, st) := assignments.foldl (fun ((made, st) : List (String × Octets) × State) a =>
    if !st.isRunning then (made, st)
    else
      let (value, st) := st.assignedText expand a.2
      if st.isRunning then ((a.1, value) :: made, st.assign a.1 value) else (made, st)) ([], st)
  (made.reverse, st)

/-- The commands of which arguments can be assignments. -/
def assigningCommands : List String := ["alias", "export", "local", "readonly"]

/-- The fields of a command; arguments that are assignments are not split. -/
def commandFields (expand : Expander) (words : List Word) (st : State) : List Octets × State :=
  words.foldl (fun ((fields, st) : List Octets × State) w =>
    if !st.isRunning then (fields, st)
    else
      let assigns := (address fields.length fields).fields.head?.any fun name =>
        assigningCommands.contains (String.ofList name)
      match if assigns then Reader.assignment? w else none with
      | some (name, value) =>
        let (text, st) := st.assignedText expand value
        (fields ++ [name.toList ++ '=' :: text], st)
      | none =>
        let (more, st) := st.wordFields expand w
        (fields ++ more, st)) ([], st)

/-- The text in front of commands that are shown, as it is written if it means nothing. -/
def traceLead (expand : Expander) (st : State) : Octets × State :=
  let text := (st.binding? "PS4").getD []
  match Reader.quotedWord st.aliases text with
  | .ok word =>
    let (lead, after) := st.text expand word
    if after.flow == .failing then (text, { after with flow := .running, status := st.status })
    else (lead, after)
  | .error fault =>
    let told := { st with line := fault.line }.complain (.unreadable fault.cause)
    (text, { told with line := st.line })

/-- Shows a command that is about to be run, where `outer` tells such things. -/
def trace (expand : Expander) (outer : State) (made : List (String × Octets))
    (fields : List Octets) (st : State) : State :=
  if !st.has 'x' || !st.isRunning then st
  else
    let (lead, after) := traceLead expand { st with options := st.options.filter (· ≠ 'x') }
    let shown := [' '].intercalate (made.map (fun v => v.1.toList ++ '=' :: v.2) ++ fields)
    let told := if after.isRunning then
        { after with channels := outer.channels }.write 2 (lead ++ shown ++ ['\n'])
      else after
    { told with channels := st.channels, options := st.options }

/-- Runs a program in place of the shell; without one, only redirections have a meaning. -/
def exec (a : Abilities) (arguments : List Octets) (st : State) : State :=
  let st := { st with command := some "exec".toList }
  st.withLetters "" arguments fun o st =>
    match o.operands with
    | [] => { st with command := none }.withStatus 0
    | name :: rest => replace a.launch name rest st

/-- Runs a command without a name: the status is that of the last command in its words. -/
def runNameless (a : Abilities) (outer : State) (assignments : List (String × Word)) (st : State) :
    State :=
  let (made, st) := assignAll a.expand assignments st
  let st := trace a.expand outer made [] st
  if st.isRunning then st.withStatus (st.statusInWords.getD 0) else st

/-- Runs a command that changes the shell with assignments that stay. -/
def runKeeping (a : Abilities) (outer : State) (assignments : List (String × Word))
    (fields : List Octets) (act : State → State) (st : State) : State :=
  let (made, st) := assignAll a.expand assignments st
  let st := trace a.expand outer made fields st
  if st.isRunning then act st else st

/-- Runs a command with assignments that hold for it alone, and are handed on to programs. -/
def runWith (a : Abilities) (outer : State) (assignments : List (String × Word))
    (fields : List Octets) (act : State → State) (st : State) : State :=
  let (made, inner) := assignAll a.expand assignments st
  let inner := trace a.expand outer made fields inner
  if !inner.isRunning then inner
  else
    let inner := made.foldl (fun inner v => inner.exportVariable v.1) inner
    let after := act inner
    made.foldl (fun after v => after.restoreVariable v.1 (st.entryOf? v.1)) after

/-- Runs a simple command. -/
def runSimple (a : Abilities) (line : Nat) (assignments : List (String × Word))
    (words : List Word) (rs : List Redirection) (st : State) : State :=
  let st := { st.spend with line := line, statusInWords := none }
  if !st.isRunning then st
  else
    let (fields, st) := commandFields a.expand words st
    let (openings, st) := if st.isRunning then st.targets a.expand rs else ([], st)
    if !st.isRunning then st
    else
      let addressed := address (fields.length + 1) fields
      let name := addressed.fields.head?.getD []
      let changesShell := !addressed.isPlain && specialCommands.contains (String.ofList name)
      let inner := st.openAll a.expand openings
      if !inner.isRunning then
        let failed := { inner with channels := st.channels }
        if changesShell then failed else failed.recovered.checkFailure
      else
        let act := runFields a name (addressed.fields.drop 1) addressed.isPlain
        let after :=
          if fields.isEmpty then runNameless a st assignments inner
          else if name = "exec".toList then
            runKeeping a st assignments fields (exec a (addressed.fields.drop 1)) inner
          else if changesShell then runKeeping a st assignments fields act inner
          else runWith a st assignments fields act inner
        let after := if name = "exec".toList then after else { after with channels := st.channels }
        after.checkFailure

/-! ## Loops -/

/-- Runs something of which a failure is no reason to stop. -/
def tested (act : State → State) (st : State) : State :=
  { act { st with isTested := true } with isTested := st.isTested }

/-- Runs something that stands in one loop more. -/
def looped (act : State → State) (st : State) : State :=
  { act { st with loops := st.loops + 1 } with loops := st.loops }

/-- How a loop goes on after a round: the state, and whether there is another one. -/
def afterRound (st : State) : State × Bool :=
  match st.flow with
  | .running => (st, true)
  | .breaking n => ({ st with flow := if n ≤ 1 then .running else .breaking (n - 1) }, false)
  | .continuing n =>
    if n ≤ 1 then ({ st with flow := .running }, true)
    else ({ st with flow := .continuing (n - 1) }, false)
  | _ => (st, false)

/-- Repeats a script while a test succeeds, or until it does; `status` is that of the last
round. -/
def repeatScript (run : Runner) (untilSuccess : Bool) (test body : Script) :
    (rounds : Nat) → (status : Nat) → State → State
  | 0, _, st => { st with flow := .exhausted }
  | rounds + 1, status, st =>
    let st := tested (run test) st
    if !st.isRunning then
      let (st, goesOn) := afterRound st
      if goesOn then repeatScript run untilSuccess test body rounds status st else st
    else if (st.status == 0) == untilSuccess then st.withStatus status
    else
      let (st, goesOn) := afterRound (run body st)
      if goesOn then repeatScript run untilSuccess test body rounds st.status st else st

/-- Repeats a script for every value of a variable. -/
def repeatEach (run : Runner) (name : String) (body : Script) : List Octets → State → State
  | [], st => st
  | value :: rest, st =>
    let st := st.assign name value
    if !st.isRunning then st
    else
      let (st, goesOn) := afterRound (run body st)
      if goesOn then repeatEach run name body rest st else st

/-! ## Choices -/

/-- Runs a script, or succeeds if it is empty. -/
def runBody (run : Runner) (body : Script) (st : State) : State :=
  if body.isEmpty then st.withStatus 0 else run body st

/-- Whether one of some patterns stands for a text. -/
def matchesAny (expand : Expander) (subject : Octets) : List Word → State → Bool × State
  | [], st => (false, st)
  | w :: rest, st =>
    let (p, st) := st.pattern expand w
    if !st.isRunning then (false, st)
    else if p.accepts subject then (true, st)
    else matchesAny expand subject rest st

/-- Runs the first arm of which a pattern stands for a text. -/
def runArms (a : Abilities) (subject : Octets) : List (List Word × Script) → State → State
  | [], st => st.withStatus 0
  | (patterns, body) :: rest, st =>
    let (fits, st) := matchesAny a.expand subject patterns st
    if !st.isRunning then st
    else if fits then runBody a.run body st
    else runArms a subject rest st

/-! ## Commands beside each other -/

/-- How many commands a command may run that writes to another one. -/
def stageBudget : Nat := 20000

/-- Remembers where the program lies that is about to run beside others. -/
def trackStage (c : Command) (st : State) : State :=
  match c with
  | .simple _ _ (w :: _) _ =>
    match (Reader.literal? w).filter isName with
    | none => st
    | some name =>
      match st.meaning name with
      | .program _ => st.track name
      | _ => st
  | _ => st

/-- Runs commands of which each reads what the one before it writes.  One that would write
without end is stopped when nobody reads any more. -/
def runStages (run : Runner) : List Command → State → State
  | [], st => st
  | [c], st => (st.trackStage c).beside run (run [c])
  | c :: rest, st =>
    let st := st.trackStage c
    let budget := min st.budget stageBudget
    let (text, after) := { st with budget := budget }.capture fun st => st.beside run (run [c])
    let after := { after with
      budget := st.budget - (budget - after.budget)
      flow := if after.flow == .exhausted then st.flow else after.flow }
    if !after.isRunning then after
    else { runStages run rest (after.openInput 0 (Input.ofText text)) with channels := st.channels }

/-- Runs commands in a shell of their own. -/
def runSubshell (a : Abilities) (line : Nat) (body : Script) (rs : List Redirection) (st : State) :
    State :=
  let (openings, st) := { st with line := line }.targets a.expand rs
  if !st.isRunning then st
  else
    (st.beside a.run fun inner =>
      let inner := inner.openAll a.expand openings
      if inner.isRunning then a.run body inner else inner).checkFailure

/-! ## Commands -/

/-- Runs a command. -/
def runCommand (a : Abilities) (c : Command) (st : State) : State :=
  match c with
  | .simple line assignments words rs => runSimple a line assignments words rs st
  | .group body => a.run body st
  | .subshell line body rs => runSubshell a line body rs st
  | .redirected line body rs => { st with line := line }.redirected a.expand rs (a.run [body])
  | .choice test body otherwise =>
    let st := tested (a.run test) st
    if !st.isRunning then st
    else if st.status = 0 then runBody a.run body st
    else runBody a.run otherwise st
  | .loop untilSuccess test body =>
    looped (repeatScript a.run untilSuccess test body (st.budget + 1) 0) st
  | .each line name words body =>
    let (values, st) := { st with line := line }.fields a.expand words
    if !st.isRunning then st
    else
      let after := looped (repeatEach a.run name body values) st
      if values.isEmpty then after.withStatus 0 else after
  | .cases line subject arms =>
    let (text, st) := { st with line := line }.text a.expand subject
    if st.isRunning then runArms a text arms st else st
  | .define name body => { st with functions := st.functions.insert name body, status := 0 }
  | .pipeline stages => (runStages a.run stages st).checkFailure
  | .negation body =>
    let st := tested (a.run [body]) st
    if st.isRunning then st.withStatus (if st.status = 0 then 1 else 0) else st
  | .chain onSuccess first second =>
    let st := tested (a.run [first]) st
    if st.isRunning && (st.status == 0) == onSuccess then a.run [second] st else st
  | .background line c => { st with line := line }.background a.run (a.run [c])

/-- Runs commands one after the other, and receives signals after each. -/
def runScript (a : Abilities) (script : Script) (st : State) : State :=
  script.foldl (fun st c =>
    if st.isRunning && !st.has 'n' then (runCommand a c st).receiveAll a.run else st) st

end State

/-! ## Scripts -/

/-- How many programs can run each other in place of themselves. -/
def maxLaunches : Nat := 16

/-- Running, expanding and launching, to a depth of nesting. -/
def abilities : (depth : Nat) → Abilities
  | 0 =>
    ⟨fun _ st => { st with flow := .exhausted }, fun _ st => ([], { st with flow := .exhausted }),
      fun _ _ st => .ok { st with flow := .exhausted }⟩
  | depth + 1 =>
    let run : Runner := fun script st => (abilities depth).run script st
    ⟨fun script st => State.runScript (abilities depth) script st,
      fun word st => State.expandWord run (fun word st => (abilities depth).expand word st) word st,
      State.launch run (Launcher.named? run) maxLaunches⟩

/-- How deep commands can be nested. -/
def maxDepth : Nat := 12000

/-- How many commands a script can run. -/
def maxCommands : Nat := 200000

/-- The state after a script. -/
def State.run (script : Script) (st : State) : State := (abilities maxDepth).run script st

/-- The number of the first process. -/
def firstProcess : Nat := 4242

/-- The state in which a host runs a program. -/
def State.initial (h : Host) : State :=
  let path := Octets.ofString (String.intercalate ":" h.searchPath)
  let exported := fun (value : Octets) => (⟨some value, true, false⟩ : Variable)
  { host := h
    process := firstProcess
    ancestors := [firstProcess - 1]
    mainProcess := firstProcess
    name := []
    arguments := []
    line := 0
    readerLine := 0
    command := none
    options := []
    bindings := NameTable.ofList [("PATH", exported path), ("HOME", exported "/root".toList)]
    functions := NameTable.empty
    aliases := NameTable.empty
    tracked := NameTable.empty
    saved := []
    traps := NameTable.empty
    status := 0
    statusBefore := none
    statusInWords := none
    flow := .running
    loops := 0
    calls := 0
    isTested := false
    isLost := false
    channels := [(0, .input 0), (1, .output 0), (2, .device .null)]
    outputs := #[[]]
    inputs := #[Input.empty]
    files := #[]
    mask := 0o022
    jobs := []
    lastJob := none
    pending := []
    processes := firstProcess
    clock := 0
    optionIndex := 1
    optionPlace := none
    budget := maxCommands }

/-- How a program ended that left a state behind. -/
def State.ending (st : State) : Ending :=
  match st.flow with
  | .killed _ signal => .killed signal
  | _ => .exited (st.status % 256)

end Shell

/-- Launches a program on a host; of what the program does only the files are left behind. -/
def Host.launch : Launcher Host := fun h l =>
  let run := Shell.State.run
  let runners := Shell.Launcher.named? run
  let performed := do
    let _ ← h.search l.program l.arguments
    let i ← h.search l.program []
    Shell.State.perform run runners (Shell.State.launch run runners Shell.maxLaunches) i
      (Shell.Octets.ofString l.program) (l.arguments.map Shell.Octets.ofString)
      (Shell.State.initial h)
  match performed with
  | .error fault => (.notStarted fault, h)
  | .ok st =>
    (.finished (Shell.Octets.toBytes (st.outputText 0)) st.ending,
      { h with tree := st.host.tree })

end BenchCampaign
