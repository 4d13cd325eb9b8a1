import BenchCampaign.Shell.Channel

/-!
# Programs at work

A program of the system sees the host, what it reads, its environment and its
arguments.  It writes to two descriptors, changes files, and ends with a status.

* `Work`: what a program sees and has done.
* `Utility`: a program.
* `Work.complain`, `Work.usage`: how a program tells what is wrong.
-/

namespace BenchCampaign

namespace Shell

/-- What a program sees and has done. -/
structure Work where
  /-- What the program is called by. -/
  name : Octets
  environment : List (String × Octets)
  /-- The permissions that new files do not get. -/
  mask : Nat
  /-- The time, in millionths of a second. -/
  clock : Nat
  host : Host
  input : Input
  /-- What was written to which descriptor, the last part first. -/
  written : List (Nat × Octets)
  status : Nat

/-- A program: what it does with its arguments. -/
abbrev Utility := List Octets → StateM Work Unit

namespace Work

/-! ## Writing -/

/-- Writes to a descriptor. -/
def write (descriptor : Nat) (cs : Octets) : StateM Work Unit :=
  if cs.isEmpty then pure ()
  else modify fun w => { w with written := (descriptor, cs) :: w.written }

/-- Writes what was asked for. -/
def print (cs : Octets) : StateM Work Unit := write 1 cs

/-- Writes a line. -/
def printLine (cs : Octets) : StateM Work Unit := print (cs ++ ['\n'])

/-- With a status. -/
def setStatus (status : Nat) : StateM Work Unit := modify fun w => { w with status := status }

/-- Tells something, behind the name of the program. -/
def warn (cs : Octets) : StateM Work Unit := do
  write 2 ((← get).name ++ [':', ' '] ++ cs ++ ['\n'])

/-- Tells what is wrong, and ends with a status. -/
def complain (status : Nat) (cs : Octets) : StateM Work Unit := do
  warn cs
  setStatus status

/-- Tells where to find out more. -/
def suggestHelp : StateM Work Unit := do
  write 2 ("Try '".toList ++ (← get).name ++ " --help' for more information.\n".toList)

/-- Tells what is wrong with the arguments, and ends with a status. -/
def usage (status : Nat) (cs : Octets) : StateM Work Unit := do
  complain status cs
  suggestHelp

/-- A text between quotation marks. -/
def quote (cs : Octets) : Octets :=
  let isPlain := fun c : Char => ' ' ≤ c && c ≤ '~' && c ≠ '\'' && c ≠ '\\'
  let shown := fun c : Char =>
    if isPlain c then [c]
    else if c = '\n' then ['\\', 'n']
    else if c = '\t' then ['\\', 't']
    else if c = '\'' || c = '\\' then ['\\', c]
    else
      let ds := Nat.toDigits 8 c.toNat
      '\\' :: List.replicate (3 - ds.length) '0' ++ ds
  '\'' :: cs.flatMap shown ++ ['\'']

/-- What is wrong if an operand is missing. -/
def missingOperand : Octets := "missing operand".toList

/-- What is wrong if an operand is missing behind another one. -/
def missingOperandAfter (operand : Octets) : Octets := "missing operand after ".toList ++ quote operand

/-- What is wrong with an operand that is too much. -/
def extraOperand (operand : Octets) : Octets := "extra operand ".toList ++ quote operand

/-! ## Reading -/

/-- What can be read at a path. -/
def openPath (w : Work) (path : Octets) : Except PathFault Input :=
  if path = "/dev/stdin".toList || path = "/dev/fd/0".toList then .ok w.input
  else match w.host.resolve (Octets.toText path) with
    | .error fault => .error fault
    | .ok l =>
      match w.host.tree.entry? l with
      | some (.file f) => .ok ⟨Octets.ofBytes f.content.toBytes, false, true, none⟩
      | some (.device .null) => .ok Input.empty
      | some (.device _) => .ok ⟨[], true, true, none⟩
      | some .directory => .ok (Input.ofFault PathFault.isDirectory.description)
      | none => .error .missing

/-- Takes what there is to be read. -/
def takeInput : StateM Work Input := do
  let w ← get
  set { w with input := w.input.drained }
  return w.input

/-- Leaves something to be read. -/
def leaveInput (i : Input) : StateM Work Unit := modify fun w => { w with input := i }

/-- What is read under a name: a hyphen stands for what is there to be read. -/
def read (path : Octets) : StateM Work (Except String Input) := do
  let found ← if path = ['-'] then (do return .ok (← takeInput)) else
    (do return (openPath (← get) path))
  match found with
  | .ok i =>
    match i.fault? with
    | some fault => return .error fault
    | none => return .ok i
  | .error fault => return .error fault.description

/-- The text under a name; what is wrong is told, with a status. -/
def readText? (status : Nat) (path : Octets) : StateM Work (Option Octets) := do
  match ← read path with
  | .ok i => return some i.text
  | .error fault =>
    complain status (path ++ [':', ' '] ++ fault.toList)
    return none

/-- The names of what is read: what is there to be read, if there are none. -/
def sources (operands : List Octets) : List Octets := if operands.isEmpty then [['-']] else operands

/-- The texts of all that is read; what is wrong is told, with a status. -/
def texts (status : Nat) (operands : List Octets) : StateM Work (List Octets) := do
  return (← (sources operands).mapM (readText? status)).filterMap id

/-- The text of all that is read, joined. -/
def wholeText (status : Nat) (operands : List Octets) : StateM Work Octets := do
  return (← texts status operands).flatten

/-! ## Files -/

/-- Where an entry lies that may have to be made first. -/
def placeFor (w : Work) (path : Octets) : Except PathFault Location :=
  w.host.resolveNew (Octets.toText path)

/-- With another tree of files. -/
def setTree (t : FileTree) : StateM Work Unit :=
  modify fun w => { w with host := { w.host with tree := t } }

/-- The permissions of a new file. -/
def newMode (w : Work) : Nat := 0o666 &&& (0o777 - w.mask % 0o1000)

end Work

/-- A line without its line feed. -/
def Octets.withoutLineFeed (line : Octets) : Octets :=
  if line.getLast? = some '\n' then line.dropLast else line

/-- The lines of a text, without their line feeds. -/
def Octets.plainLines (text : Octets) : List Octets :=
  (Octets.lines text).map Octets.withoutLineFeed

end Shell

end BenchCampaign
