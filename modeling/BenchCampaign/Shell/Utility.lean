import BenchCampaign.Shell.Utility.Copy
import BenchCampaign.Shell.Utility.Excerpt
import BenchCampaign.Shell.Utility.Expression
import BenchCampaign.Shell.Utility.Lines
import BenchCampaign.Shell.Utility.Listing
import BenchCampaign.Shell.Utility.Order
import BenchCampaign.Shell.Utility.Plain
import BenchCampaign.Shell.Utility.Sequence
import BenchCampaign.Shell.Utility.Sift
import BenchCampaign.Shell.Utility.Stream
import BenchCampaign.Shell.Utility.Translate

/-!
# Programs of the system

The programs that scripts use to read, count and change text and files, by their
names.

* `Utility.table`: all of them.
* `Utility.named?`: the program of a name.
-/

namespace BenchCampaign

namespace Shell

namespace Utility

/-- Sifts lines under the name of the program that does so for all kinds of patterns. -/
def siftAs (kind : List Char) : Utility := fun arguments => do
  modify fun w => { w with name := "grep".toList }
  grepAs kind arguments

/-- The programs by their names. -/
def table : List (String × Utility) :=
  [("[", bracket), ("basename", basename), ("cat", cat), ("chmod", chmod), ("comm", comm),
    ("cp", cp), ("cut", cut), ("dirname", dirname), ("echo", echo), ("egrep", siftAs ['E']),
    ("expand", expand), ("expr", expr), ("false", ends 1), ("fgrep", siftAs ['F']), ("fold", fold),
    ("grep", grep), ("head", head), ("id", id), ("ln", ln), ("logname", logname), ("ls", ls),
    ("mkdir", mkdir), ("mktemp", mktemp), ("mv", mv), ("nl", nl), ("paste", paste),
    ("printenv", printenv), ("printf", printf), ("pwd", pwd), ("readlink", readlink),
    ("realpath", realpath), ("rev", rev), ("rm", rm), ("rmdir", rmdir), ("sed", sed), ("seq", seq),
    ("sleep", sleep), ("sort", sort), ("stat", stat), ("sync", ends 0), ("tac", tac),
    ("tail", tail), ("tee", tee), ("test", test), ("touch", touch), ("tr", tr), ("true", ends 0),
    ("tty", tty), ("uname", uname), ("uniq", uniq), ("wc", wc), ("which", which),
    ("whoami", tells "root"), ("yes", yes)]

/-- The program of a name. -/
def named? (name : String) : Option Utility := (table.find? fun p => p.1 = name).map Prod.snd

end Utility

end Shell

end BenchCampaign
