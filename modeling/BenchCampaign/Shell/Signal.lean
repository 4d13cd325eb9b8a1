import BenchCampaign.Shell.Octets

/-!
# Signals

Signals by their names and numbers; the number zero stands for the end of a
script.

* `Signal.named?`: the number of a signal that is named in either way.
* `Signal.description`: what is told of a command that a signal ended.
-/

namespace BenchCampaign

namespace Shell

namespace Signal

/-- The names of the signals, by their numbers. -/
def names : List String :=
  ["EXIT", "HUP", "INT", "QUIT", "ILL", "TRAP", "ABRT", "BUS", "FPE", "KILL", "USR1", "SEGV",
    "USR2", "PIPE", "ALRM", "TERM", "16", "CHLD", "CONT", "STOP", "TSTP", "TTIN", "TTOU", "URG",
    "XCPU", "XFSZ", "VTALRM", "PROF", "WINCH", "IO", "PWR", "SYS", "32", "33", "RTMIN"] ++
  ((List.range 15).map fun k => "RTMIN+" ++ toString (k + 1)) ++
  ((List.range 14).map fun k => "RTMAX-" ++ toString (14 - k)) ++ ["RTMAX"]

/-- The largest number of a signal. -/
def last : Nat := names.length - 1

/-- The name of a signal. -/
def name (signal : Nat) : String := (names[signal]?).getD (toString signal)

/-- The number of a signal that is named in either way. -/
def named? (text : Octets) : Option Nat :=
  match Octets.natural? text with
  | some n => if n ≤ last then some n else none
  | none =>
    let k := names.idxOf (String.ofList (text.map Char.toUpper))
    if k ≤ last then some k else none

/-- The signals that do nothing to a command that is not prepared for them. -/
def harmless : List String := ["CHLD", "CONT", "URG", "WINCH"]

/-- What the signals up to the last one with a name of its own do, in words. -/
def descriptions : List String :=
  ["", "Hangup", "Interrupt", "Quit", "Illegal instruction", "Trace/breakpoint trap", "Aborted",
    "Bus error", "Floating point exception", "Killed", "User defined signal 1",
    "Segmentation fault", "User defined signal 2", "Broken pipe", "Alarm clock", "Terminated",
    "Stack fault", "Child exited", "Continued", "Stopped (signal)", "Stopped",
    "Stopped (tty input)", "Stopped (tty output)", "Urgent I/O condition",
    "CPU time limit exceeded", "File size limit exceeded", "Virtual timer expired",
    "Profiling timer expired", "Window changed", "I/O possible", "Power failure",
    "Bad system call"]

/-- What is told of a command that a signal ended. -/
def description (signal : Nat) : String :=
  match descriptions[signal]? with
  | some text => text
  | none =>
    if 34 ≤ signal then "Real-time signal " ++ toString (signal - 34)
    else "Unknown signal " ++ toString signal

/-- Whether nothing is told of a command that a signal ended. -/
def isSilent (signal : Nat) : Bool := name signal = "INT" || name signal = "PIPE"

end Signal

end Shell

end BenchCampaign
