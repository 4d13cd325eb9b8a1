import BenchCampaign.Shell.Builtin.Naming
import BenchCampaign.Shell.Builtin.Process
import BenchCampaign.Shell.Builtin.Progress
import BenchCampaign.Shell.Builtin.Reading
import BenchCampaign.Shell.Builtin.Text
import BenchCampaign.Shell.Builtin.Variables

/-!
# Commands of the shell itself

* `Builtin.special?`: those that no function can stand in for.
* `Builtin.regular?`: the others.
* `Builtin.run`: runs one, and tells if what it wrote was lost.
-/

namespace BenchCampaign

namespace Shell

namespace Builtin

/-- The commands that no function can stand in for; those that run programs are none of
them. -/
def special? (name : String) : Option Builtin :=
  match name with
  | ":" => some (status 0)
  | "." => some source
  | "break" => some (leaveLoop .breaking)
  | "continue" => some (leaveLoop .continuing)
  | "eval" => some eval
  | "exit" => some exit
  | "export" => some exports
  | "local" => some localVariables
  | "readonly" => some keepsValues
  | "return" => some leave
  | "set" => some set
  | "shift" => some shift
  | "times" => some times
  | "trap" => some trap
  | "unset" => some unset
  | _ => none

/-- The other commands of the shell. -/
def regular? (name : String) : Option Builtin :=
  match name with
  | "[" => some bracket
  | "alias" => some nameTexts
  | "bg" => some resume
  | "cd" => some cd
  | "chdir" => some cd
  | "command" => some inquire
  | "echo" => some echo
  | "false" => some (status 1)
  | "fg" => some resume
  | "getopts" => some getopts
  | "hash" => some hash
  | "jobs" => some jobs
  | "kill" => some kill
  | "printf" => some printf
  | "pwd" => some pwd
  | "read" => some read
  | "test" => some test
  | "true" => some (status 0)
  | "type" => some type
  | "ulimit" => some ulimit
  | "umask" => some umask
  | "unalias" => some forgetNames
  | "wait" => some wait
  | _ => none

/-- Runs a command of the shell under its name. -/
def run (b : Builtin) (runner : Runner) (name : Octets) (arguments : List Octets) (st : State) :
    State :=
  let after := b runner arguments { st with command := some name, isLost := false }
  let after :=
    if after.isLost then
      (after.complain (.outputFault name)).withStatus (after.status ||| 1)
    else after
  { after with command := st.command, isLost := st.isLost }

end Builtin

end Shell

end BenchCampaign
