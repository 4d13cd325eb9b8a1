/-!
# Launching runners

A run is a program that is started with arguments, writes bytes, and ends.  How
programs are started is left open here: a launcher answers each launch with an
outcome, and may carry something along from one launch to the next.

* `Launch`, `Outcome`, `Launcher`.
* `Ending.text`, `LaunchFault.message`: how a run ended, or why it never started,
  in words.
-/

namespace BenchCampaign

/-- A program to be started. -/
structure Launch where
  /-- The path of the program, or a name to be searched for. -/
  program : String
  arguments : List String
deriving DecidableEq, Repr

/-- Why a program cannot be started. -/
inductive LaunchFault where
  | missing
  | notDirectory
  | denied
  | nameTooLong
  | notExecutableFormat
  | argumentsTooLong
  | tooManyInterpreters
  | nulCharacter
deriving DecidableEq, Repr

namespace LaunchFault

/-- What a system calls a fault. -/
def description : LaunchFault → String
  | missing => "No such file or directory"
  | argumentsTooLong => "Argument list too long"
  | notExecutableFormat => "Exec format error"
  | denied => "Permission denied"
  | notDirectory => "Not a directory"
  | nameTooLong => "File name too long"
  | tooManyInterpreters => "Too many levels of symbolic links"
  | nulCharacter => "nul byte found in provided data"

/-- The number of a fault, if the system has one for it. -/
def number? : LaunchFault → Option Nat
  | missing => some 2
  | argumentsTooLong => some 7
  | notExecutableFormat => some 8
  | denied => some 13
  | notDirectory => some 20
  | nameTooLong => some 36
  | tooManyInterpreters => some 40
  | nulCharacter => none

/-- A fault in words. -/
def message (f : LaunchFault) : String :=
  match f.number? with
  | some n => f.description ++ " (os error " ++ toString n ++ ")"
  | none => f.description

end LaunchFault

/-- How a program ended. -/
inductive Ending where
  | exited (code : Nat)
  | killed (signal : Nat)
deriving DecidableEq, Repr

namespace Ending

/-- The names of the signals from 1 on. -/
def signalNames : List String :=
  ["SIGHUP", "SIGINT", "SIGQUIT", "SIGILL", "SIGTRAP", "SIGABRT", "SIGBUS", "SIGFPE", "SIGKILL",
    "SIGUSR1", "SIGSEGV", "SIGUSR2", "SIGPIPE", "SIGALRM", "SIGTERM", "SIGSTKFLT", "SIGCHLD",
    "SIGCONT", "SIGSTOP", "SIGTSTP", "SIGTTIN", "SIGTTOU", "SIGURG", "SIGXCPU", "SIGXFSZ",
    "SIGVTALRM", "SIGPROF", "SIGWINCH", "SIGIO", "SIGPWR", "SIGSYS"]

/-- The name of a signal. -/
def signalName? (signal : Nat) : Option String :=
  if signal = 0 then none else signalNames[signal - 1]?

/-- Whether a program ended as it should. -/
def isSuccess : Ending → Bool
  | exited code => code == 0
  | killed _ => false

/-- An ending in words. -/
def text : Ending → String
  | exited code => "exit status: " ++ toString code
  | killed signal =>
    "signal: " ++ toString signal ++
      (match signalName? signal with
        | some name => " (" ++ name ++ ")"
        | none => "")

end Ending

/-- What came of a launch. -/
inductive Outcome where
  | notStarted (fault : LaunchFault)
  | finished (output : List UInt8) (ending : Ending)
deriving DecidableEq, Repr

namespace Outcome

/-- What a run wrote. -/
def output : Outcome → List UInt8
  | notStarted _ => []
  | finished output _ => output

/-- Whether a run started and ended as it should. -/
def isSuccess : Outcome → Bool
  | notStarted _ => false
  | finished _ ending => ending.isSuccess

end Outcome

/-- Answers launches one after the other, with some state between them. -/
abbrev Launcher (σ : Type) := σ → Launch → Outcome × σ

end BenchCampaign
