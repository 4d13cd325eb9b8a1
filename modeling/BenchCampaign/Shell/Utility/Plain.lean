import BenchCampaign.Shell.Condition
import BenchCampaign.Shell.Format
import BenchCampaign.Shell.Utility.Options

/-!
# Plain programs

Programs that only tell something, and those that do outside of a shell what the
commands of the shell do.

* `Utility.echo`, `Utility.printf`, `Utility.test`.
* `Utility.yes`, `Utility.printenv`, `Utility.id` and the like.
-/

namespace BenchCampaign

namespace Shell

namespace Utility

/-! ## Statuses -/

/-- Ends with a status, whatever the arguments. -/
def ends (status : Nat) : Utility := fun _ => Work.setStatus status

/-! ## Texts -/

/-- How arguments are echoed: whether backslashes have a meaning, whether a line feed follows,
and the arguments behind the options. -/
def echoOptions (escapes lineEnd : Bool) : List Octets → Bool × Bool × List Octets
  | [] => (escapes, lineEnd, [])
  | a :: rest =>
    match a with
    | '-' :: c :: cs =>
      let letters := c :: cs
      if letters.all fun c => c = 'n' || c = 'e' || c = 'E' then
        let last := (letters.filter (· ≠ 'n')).getLast?
        echoOptions ((last.map (· == 'e')).getD escapes) (lineEnd && !letters.contains 'n') rest
      else (escapes, lineEnd, a :: rest)
    | _ => (escapes, lineEnd, a :: rest)

/-- Echoes its arguments. -/
def echo : Utility := fun arguments =>
  let (escapes, lineEnd, arguments) := echoOptions false true arguments
  let text := Format.joined arguments
  let (text, ends) := if escapes then Escape.inText Escape.extended (text.length + 1) text
    else (text, false)
  Work.print (text ++ (if lineEnd && !ends then ['\n'] else []))

/-- What a program tells of a complaint about a format. -/
def formatComplaint : Complaint → Octets
  | .notNumeric text => Work.quote text ++ ": expected a numeric value".toList
  | .notConverted text => Work.quote text ++ ": value not completely converted".toList
  | .outOfRange text => Work.quote text ++ ": Numerical result out of range".toList
  | .badDirective text => text ++ ": invalid conversion specification".toList
  | .noDirective => "%: invalid conversion specification".toList
  | c => c.text

/-- Writes a format with arguments put in. -/
def printf : Utility := fun arguments => do
  match if arguments.head? = some ['-', '-'] then arguments.drop 1 else arguments with
  | [] => Work.usage 1 Work.missingOperand
  | format :: rest =>
    let p := Format.print (rest.length + 1) format rest
    for c in p.complaints do
      Work.complain 1 (formatComplaint c)
    Work.print p.text
    match p.fault, p.arguments with
    | some c, _ => Work.complain 1 (formatComplaint c)
    | none, extra :: _ =>
      if !p.ends then
        Work.warn ("warning: ignoring excess arguments, starting with ".toList ++ Work.quote extra)
    | none, [] => pure ()

/-- Repeats a line without end. -/
def yes : Utility := fun arguments =>
  let line := (if arguments.isEmpty then ['y'] else Format.joined arguments) ++ ['\n']
  Work.print (List.replicate 65536 line).flatten

/-! ## Conditions -/

/-- What a program tells of a condition that is none. -/
def conditionComplaint (arguments : List Octets) : Complaint → Octets
  | .illegalNumber text => "invalid integer ".toList ++ Work.quote text
  | .unexpectedOperator text =>
    match arguments with
    | [a, b] =>
      if a.head? = some '-' && a.length = 2 then Work.quote a ++ ": unary operator expected".toList
      else "missing argument after ".toList ++ Work.quote b
    | [_, op, _] => Work.quote op ++ ": binary operator expected".toList
    | _ => "extra argument ".toList ++ Work.quote text
  | c => c.text

/-- Tests a condition. -/
def test : Utility := fun arguments => do
  let host := (← get).host
  let same := fun a b =>
    match host.resolve (Octets.toText a), host.resolve (Octets.toText b) with
    | .ok l, .ok m => l == m
    | _, _ => false
  match Condition.test ⟨host, same⟩ arguments with
  | .ok holds => Work.setStatus (if holds then 0 else 1)
  | .error c => Work.complain 2 (conditionComplaint arguments c)

/-- Tests a condition in front of a closing bracket. -/
def bracket : Utility := fun arguments =>
  if arguments.getLast? = some [']'] then test arguments.dropLast
  else Work.complain 2 "missing ']'".toList

/-! ## What is the case -/

/-- Tells the values of variables that are handed on, or all of them. -/
def printenv : Utility := fun arguments =>
  Work.withOptions 2 (OptionSet.of "0" [("null", '0')]).ordered arguments fun o => do
    let handedOn := (← get).environment
    let ending := if o.has '0' then '\x00' else '\n'
    if o.operands.isEmpty then
      for (name, value) in handedOn do
        Work.print (name.toList ++ '=' :: value ++ [ending])
    for name in o.operands do
      match handedOn.find? fun v => v.1.toList = name with
      | some (_, value) => Work.print (value ++ [ending])
      | none => Work.setStatus 1

/-- Writes a line, and takes no operands. -/
def tells (line : String) : Utility := fun arguments =>
  Work.withOptions 1 (OptionSet.of "" []) arguments fun o => do
    match o.operands with
    | extra :: _ => Work.usage 1 (Work.extraOperand extra)
    | [] => Work.printLine line.toList

/-- Tells who runs the program. -/
def id : Utility := fun arguments =>
  let known := OptionSet.of "ugGnr" [("user", 'u'), ("group", 'g'), ("groups", 'G'), ("name", 'n'),
    ("real", 'r')]
  Work.withOptions 1 known arguments fun o => do
    match o.operands.find? fun name => name ≠ "root".toList && name ≠ ['0'] with
    | some name => Work.complain 1 (Work.quote name ++ ": no such user".toList)
    | none =>
      if o.has 'u' || o.has 'g' || o.has 'G' then
        Work.printLine (if o.has 'n' then "root".toList else ['0'])
      else if o.has 'n' || o.has 'r' then
        Work.complain 1 "printing only names or real IDs requires -u, -g, or -G".toList
      else Work.printLine "uid=0(root) gid=0(root) groups=0(root)".toList

/-- Tells what system the program runs on. -/
def uname : Utility := fun arguments =>
  let known := OptionSet.of "asnrvmpio" [("kernel-name", 's'), ("machine", 'm')]
  Work.withOptions 1 known arguments fun o => do
    match o.operands with
    | extra :: _ => Work.usage 1 (Work.extraOperand extra)
    | [] =>
      let parts := (if o.given.isEmpty || o.has 's' || o.has 'a' then ["Linux"] else []) ++
        (if o.has 'n' || o.has 'a' then ["localhost"] else []) ++
        (if o.has 'm' || o.has 'a' then ["x86_64"] else []) ++
        (if o.has 'o' || o.has 'a' then ["GNU/Linux"] else [])
      Work.printLine (" ".intercalate parts).toList

/-- Tells that there is no terminal. -/
def tty : Utility := fun arguments =>
  Work.withOptions 2 (OptionSet.of "s" [("silent", 's'), ("quiet", 's')]) arguments fun o => do
    if !o.has 's' then Work.printLine "not a tty".toList
    Work.setStatus 1

/-- Tells that nobody has logged in. -/
def logname : Utility := fun _ => Work.complain 1 "no login name".toList

end Utility

end Shell

end BenchCampaign
