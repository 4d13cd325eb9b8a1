import BenchCampaign.CommandLine.Options
import BenchCampaign.Dispatch
import BenchCampaign.Host.RunnerCheck
import BenchCampaign.Projection
import BenchCampaign.Settings.Loading
import BenchCampaign.Settings.Preflight

/-!
# Running and estimating a campaign

A campaign is run, or the time that it would take is estimated, from a file of
settings.  Every check comes before the first runner is launched; a rehearsal
launches none, and so asks nothing of the runners.

* `CampaignCommand.ofArguments`: the command of a command line.
* `CampaignCommand.perform`: what carrying it out comes to.
-/

namespace BenchCampaign

namespace CommandLine

/-- What is to be done with a campaign. -/
inductive CampaignCommand where
  | run (settings : String) (rehearses : Bool)
  | estimate (settings : String)
deriving DecidableEq, Repr

/-- What carrying out a command came to. -/
structure Completion (σ : Type) where
  code : Nat
  output : List UInt8
  notices : List Notice
  /-- The runners that were launched. -/
  launches : List Launch
  state : σ

namespace CampaignCommand

/-! ## Arguments -/

/-- The options of a run. -/
def runOptions : Options := ⟨[pathOption "config" 'c', switch "dry-run"], [helpInquiry]⟩

/-- The options of an estimate. -/
def estimateOptions : Options := ⟨[pathOption "config" 'c'], [helpInquiry]⟩

/-- The settings that the options name. -/
def settingsOf (given : Given) : Except Refusal String :=
  match given.value? "config" with
  | some path => .ok path
  | none => .error .usage

/-- The names of the commands. -/
def names : List String := ["run", "estimate", "help"]

/-- The command of a command line. -/
def ofArguments : List String → Except Refusal CampaignCommand
  | "run" :: rest => do
    let given ← runOptions.read rest
    return .run (← settingsOf given) (given.has "dry-run")
  | "estimate" :: rest => do
    let given ← estimateOptions.read rest
    return .estimate (← settingsOf given)
  | ["help"] => .error .inquiry
  | ["help", name] => .error (if names.contains name then .inquiry else .usage)
  | argument :: _ =>
    match (Options.mk [] [helpInquiry, versionInquiry]).opening argument with
    | .inquiry => .error .inquiry
    | _ => .error .usage
  | [] => .error .usage

/-! ## Carrying out -/

/-- The settings that pass the checks, and what is told of them. -/
def load (h : Host) (path : String) : List Notice × Except SettingsFault Settings :=
  match Settings.load h path with
  | .error fault => ([], .error fault)
  | .ok s => (s.findings.map Finding.notice, if s.isFlawed then .error .flawed else .ok s)

variable {σ : Type}

/-- A command that was given up before anything was written. -/
def failed (notices : List Notice) (fault : SettingsFault) (state : σ) : Completion σ :=
  ⟨failureCode, [], notices ++ [⟨.error, fault.message, none⟩], [], state⟩

/-- The plan of settings. -/
def planOf (s : Settings) : Except SettingsFault Plan :=
  s.checkedSpace.map s.planOf

/-- What a dispatch came to, as a command. -/
def ofProgress (notices : List Notice) (p : Progress σ) : Completion σ :=
  let told := notices ++ p.reports.map Dispatch.Report.notice
  if p.isBroken then
    ⟨failureCode, p.written, told ++ [⟨.error, Dispatch.brokenMessage, none⟩], p.launches, p.state⟩
  else
    let more := if p.failed = 0 then []
      else [⟨.info, toString p.failed ++
        " runs failed, use driverbench-ingest --reconcile to list them", none⟩]
    ⟨successCode, p.written, told ++ more, p.launches, p.state⟩

/-- Runs or rehearses the plan of settings that passed the checks. -/
def dispatch (launcher : Launcher σ) (s : Settings) (rehearses : Bool) (plan : Plan)
    (notices : List Notice) (state : σ) : Completion σ :=
  let notices := notices ++ [⟨.info, "Planned " ++ toString plan.len.toNat ++ " runs", none⟩]
  ofProgress notices (if rehearses then Dispatch.rehearse plan ⟨none⟩ state
    else Dispatch.perform s plan launcher ⟨none⟩ state)

/-- Runs a campaign. -/
def runCampaign (launcher : Launcher σ) (h : Host) (path : String) (rehearses : Bool)
    (state : σ) : Completion σ :=
  match load h path with
  | (notices, .error fault) => failed notices fault state
  | (notices, .ok s) =>
    let findings := if rehearses then [] else s.runnerFindings h
    let notices := notices ++ findings.map RunnerFinding.notice
    match if rehearses then .ok () else s.checkRunners h with
    | .error driver => failed notices (.runnerNotExecutable driver) state
    | .ok () =>
      match planOf s with
      | .error fault => failed notices fault state
      | .ok plan => dispatch launcher s rehearses plan notices state

/-- The projection of a plan in words. -/
def projectionText (p : Projection Float) : String :=
  "Number of configurations: " ++ toString p.configurations ++ "\n" ++
  "Number of runs: " ++ toString p.runs ++ "\n" ++
  "total_time: " ++ Decimal.fixed 2 p.hours ++ " hours\n"

/-- Estimates the time of a campaign. -/
def estimateCampaign (h : Host) (path : String) (state : σ) : Completion σ :=
  match load h path with
  | (notices, .error fault) => failed notices fault state
  | (notices, .ok s) =>
    match planOf s with
    | .error fault => failed notices fault state
    | .ok plan =>
      let p := Projection.ofPlan s.estimator plan s.coefficients s.restartOverhead
      let told := (Projection.reports s.estimator plan s.coefficients).map Projection.Report.notice
      ⟨successCode, Text.utf8 (projectionText p).toList, notices ++ told, [], state⟩

/-- Carries out a command. -/
def perform (launcher : Launcher σ) (h : Host) (state : σ) : CampaignCommand → Completion σ
  | run path rehearses => runCampaign launcher h path rehearses state
  | estimate path => estimateCampaign h path state

/-- Carries out a command line. -/
def performArguments (launcher : Launcher σ) (h : Host) (arguments : List String) (state : σ) :
    Completion σ :=
  match ofArguments arguments with
  | .ok command => command.perform launcher h state
  | .error refusal => ⟨refusal.code, [], [], [], state⟩

end CampaignCommand

end CommandLine

end BenchCampaign
