import BenchCampaign.CommandLine.Campaign
import BenchCampaign.CommandLine.Drawing
import BenchCampaign.CommandLine.Ingest
import BenchCampaign.Host.Standard

/-!
# The program

`ingest` turns a log into records, `chart` draws a chart, and `run` and
`estimate` take a campaign's settings.  Runners are rehearsed on a standard host,
which is given the files that the command line and the settings name.  Its
launcher stands in for a system here; what a campaign does is defined for any
launcher.
-/

namespace BenchCampaign

namespace Program

/-- The texts of an argument that may be a path: the argument itself, and what is attached
to an option in it. -/
def candidates (argument : String) : List String :=
  let text := argument.toList
  let behindSign := (text.dropWhile (· ≠ '=')).drop 1
  [argument, String.ofList (text.drop 2), String.ofList behindSign].filter fun p => p ≠ ""

/-- The host with the file at a path, if there is one. -/
def withFile (h : Host) (path : String) : IO Host := do
  try
    let bytes ← IO.FS.readBinFile path
    return h.provide path ⟨0o755, .bytes bytes.toList⟩
  catch _ => return h

/-- The host with the files at some paths. -/
def withFiles (h : Host) (paths : List String) : IO Host := paths.foldlM withFile h

/-- The runners of the settings among some files. -/
def runnersOf (h : Host) (paths : List String) : List String :=
  paths.flatMap fun p =>
    match Settings.load h p with
    | .ok s => s.drivers.map s.runnerOf
    | .error _ => []

/-- Tells what is noteworthy. -/
def tell (notices : List Notice) : IO Unit := do
  for n in notices do
    if n.severity ≠ .debug then IO.eprintln n.message

/-- Writes bytes to the output. -/
def writeOut (bytes : List UInt8) : IO Unit := do
  let out ← IO.getStdout
  out.write bytes.toByteArray
  out.flush

/-- A campaign. -/
def campaign (arguments : List String) : IO Nat := do
  let paths := arguments.flatMap candidates
  let h ← withFiles Host.standard paths
  let h ← withFiles h (runnersOf h paths)
  let c := CommandLine.CampaignCommand.performArguments Host.launch h arguments h
  writeOut c.output
  tell c.notices
  return c.code

/-- A log. -/
def ingest (arguments : List String) : IO Nat := do
  let h ← withFiles Host.standard (arguments.flatMap candidates)
  let input ← match CommandLine.IngestCommand.ofArguments arguments with
    | .ok ⟨none, _⟩ => (← IO.getStdin).readToEnd
    | _ => pure ""
  let r := CommandLine.IngestCommand.performArguments h arguments (Text.utf8 input.toList)
  writeOut r.output
  tell r.notices
  return r.code

/-- A chart; the directory that it goes to has to be there. -/
def chart (arguments : List String) : IO Nat := do
  let h ← withFiles Host.standard (arguments.flatMap candidates)
  match CommandLine.DrawCommand.ofArguments arguments with
  | .error refusal => return refusal.code
  | .ok c =>
    match c.content h with
    | .error fault =>
      IO.eprintln fault.message
      return CommandLine.failureCode
    | .ok (results, title) =>
      match Chart.draw Chart.standardSize results (c.title.getD title) with
      | .error fault =>
        IO.eprintln fault.message
        return CommandLine.failureCode
      | .ok svg =>
        try
          IO.FS.writeFile c.output svg
          tell [Chart.savedNotice results c.output]
          return CommandLine.successCode
        catch _ =>
          IO.eprintln Chart.Fault.files.message
          return CommandLine.failureCode

end Program

end BenchCampaign

/-- Carries out a command line. -/
def main (arguments : List String) : IO UInt32 := do
  let code ← match arguments with
    | "ingest" :: rest => BenchCampaign.Program.ingest rest
    | "chart" :: rest => BenchCampaign.Program.chart rest
    | rest => BenchCampaign.Program.campaign rest
  return UInt32.ofNat code
