import BenchCampaign.Launch
import BenchCampaign.Shell.Reader.Fault

/-!
# What a shell complains about

A command that cannot be run, or not as it is meant, is told in one line, behind
the name of the script and the line of the command.

* `Complaint`: the causes.
* `Complaint.text`: a cause in words.
-/

namespace BenchCampaign

namespace Shell

/-- Why an expression has no value. -/
inductive ArithmeticCause where
  | noOperand
  | noEnd
  | noParenthesis
  | noColon
  | divisionByZero
deriving DecidableEq, Repr

/-- A cause in words. -/
def ArithmeticCause.text : ArithmeticCause → String
  | noOperand => "expecting primary"
  | noEnd => "expecting EOF"
  | noParenthesis => "expecting ')'"
  | noColon => "expecting ':'"
  | divisionByZero => "division by zero"

/-- Why a file cannot be opened. -/
inductive OpenCause where
  /-- There is no such file, or no directory for it. -/
  | missing
  | isDirectory
  | exists
  | nameTooLong
  /-- A device that is not there. -/
  | noDevice
deriving DecidableEq, Repr

/-- A cause in words; `created` if the file was to be written. -/
def OpenCause.text (created : Bool) : OpenCause → String
  | missing => if created then "Directory nonexistent" else "No such file"
  | isDirectory => "Is a directory"
  | .exists => "File exists"
  | nameTooLong => "File name too long"
  | noDevice => "No such device or address"

/-- What a shell complains about. -/
inductive Complaint where
  | unreadable (cause : SyntaxCause)
  /-- A redirection to something that is no descriptor. -/
  | noDescriptor
  /-- A redirection to a descriptor that is closed. -/
  | badDescriptor (name : Octets)
  | unopened (path : Octets) (created : Bool) (cause : OpenCause)
  | unlaunched (name : Octets) (fault : LaunchFault)
  /-- A command that no directory has. -/
  | notFound (name : Octets)
  | meaninglessSubstitution
  /-- A variable without a value, and what is to be told then. -/
  | missingValue (name text : Octets)
  | notSet (name : Octets)
  | notSetOrNull (name : Octets)
  | readOnly (name : Octets)
  | badName (name : Octets)
  | arithmetic (cause : ArithmeticCause) (text : Octets)
  | illegalNumber (text : Octets)
  | illegalOption (letter : Char)
  | illegalLongOption (name : Octets)
  | illegalMode (text : Octets)
  | noArgument (option : Char)
  | cannotEnter (path : Octets)
  | cannotShift
  | noFunction
  | noProcess
  | noJob (name : Octets)
  | noCurrentJob
  | outputFault (command : Octets)
  | argumentCount
  | notNumeric (text : Octets)
  | notConverted (text : Octets)
  | outOfRange (text : Octets)
  | badDirective (text : Octets)
  | noDirective
  | unexpectedOperator (text : Octets)
  | noOperand (operator : Octets)
  | noClosing
  | noBracket
  | tooManyCalls
  | usage (text : String)
deriving DecidableEq, Repr

namespace Complaint

/-- Why a command is not launched, in words. -/
def launchText : LaunchFault → String
  | .missing => "not found"
  | .notDirectory => "not found"
  | fault => fault.description

/-- A complaint in words. -/
def text : Complaint → Octets
  | unreadable cause => (SyntaxFault.text ⟨cause, 0⟩).toList
  | noDescriptor => "Syntax error: Bad fd number".toList
  | badDescriptor name => name ++ ": Bad file descriptor".toList
  | unopened path created cause =>
    (if created then "cannot create " else "cannot open ").toList ++ path ++ [':', ' '] ++
      (cause.text created).toList
  | unlaunched name fault => name ++ [':', ' '] ++ (launchText fault).toList
  | notFound name => name ++ ": not found".toList
  | meaninglessSubstitution => "Bad substitution".toList
  | missingValue name text => name ++ [':', ' '] ++ text
  | notSet name => name ++ ": parameter not set".toList
  | notSetOrNull name => name ++ ": parameter not set or null".toList
  | readOnly name => name ++ ": is read only".toList
  | badName name => name ++ ": bad variable name".toList
  | arithmetic cause text =>
    ("arithmetic expression: " ++ cause.text ++ ": \"").toList ++ text ++ ['"']
  | illegalNumber text => "Illegal number: ".toList ++ text
  | illegalOption letter => "Illegal option -".toList ++ [letter]
  | illegalLongOption name => "Illegal option -o ".toList ++ name
  | illegalMode text => "Illegal mode: ".toList ++ text
  | noArgument option => "No arg for -".toList ++ option :: " option".toList
  | cannotEnter path => "can't cd to ".toList ++ path
  | cannotShift => "can't shift that many".toList
  | noFunction => "not in a function".toList
  | noProcess => "No such process\n".toList
  | noJob name => "No such job: ".toList ++ name
  | noCurrentJob => "No current job".toList
  | outputFault command => command ++ ": I/O error".toList
  | argumentCount => "arg count".toList
  | notNumeric text => text ++ ": expected numeric value".toList
  | notConverted text => text ++ ": not completely converted".toList
  | outOfRange text => text ++ ": Numerical result out of range".toList
  | badDirective text => text ++ ": invalid directive".toList
  | noDirective => "missing format character".toList
  | unexpectedOperator text => text ++ ": unexpected operator".toList
  | noOperand operator => operator ++ ": argument expected".toList
  | noClosing => "closing paren expected".toList
  | noBracket => "missing ]".toList
  | tooManyCalls => "Maximum function recursion depth (1000) reached".toList
  | usage text => text.toList

end Complaint

end Shell

end BenchCampaign
