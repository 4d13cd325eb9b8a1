import BenchCampaign.Launch
import BenchCampaign.Notice
import BenchCampaign.Settings
import BenchCampaign.Tag
import BenchCampaign.Text.Utf8

/-!
# Dispatching a plan

The runs of a plan are gone through one after the other.  Each one's tag is
written first, whole, and only then its runner is launched; what the runner
writes follows.  A run that fails does not stop the plan, but a sink that takes
no more bytes does.  A rehearsal writes the tags and launches nothing.

* `Dispatch.perform`: the runs of a plan, launched.
* `Dispatch.rehearse`: the tags of a plan.
* `Progress`: what came of it.
-/

namespace BenchCampaign

/-! ## Sinks -/

/-- Where output goes. -/
structure Sink where
  /-- How many bytes more are taken, if there is a limit. -/
  room : Option Nat
deriving DecidableEq, Repr

/-- Writes bytes: which of them are taken, and the sink after that unless it broke. -/
def Sink.write (s : Sink) (bytes : List UInt8) : List UInt8 × Option Sink :=
  match s.room with
  | none => (bytes, some s)
  | some n =>
    if bytes.length ≤ n then (bytes, some ⟨some (n - bytes.length)⟩) else (bytes.take n, none)

/-! ## Reports -/

namespace Dispatch

/-- What a dispatch reports. -/
inductive Report where
  | processing (run : Run)
  | notStarted (run : Run) (program : String) (fault : LaunchFault)
  | failed (run : Run) (ending : Ending)
  | done (count total : Nat)
  | finished (failed dispatched : Nat)
  | listed (count : Nat)
deriving DecidableEq, Repr

/-- A report in words. -/
def Report.notice : Report → Notice
  | processing run =>
    ⟨.debug, "Processing " ++ run.configuration.describe ++ " with " ++ run.driver.name ++
      " (sample " ++ toString run.sample.toNat ++ ")", none⟩
  | notStarted run program fault =>
    ⟨.warning, "Failed to spawn " ++ program ++ ": " ++ fault.message, some run.driver.name⟩
  | failed run ending =>
    ⟨.warning, "Run " ++ run.configuration.describe ++ " failed with " ++ ending.text ++
      ", continuing with the plan", some run.driver.name⟩
  | done count total => ⟨.info, "Done with " ++ toString count ++ "/" ++ toString total, none⟩
  | finished failures dispatched =>
    ⟨.info, "Done with processing, " ++ toString failures ++ " of " ++ toString dispatched ++
      " runs failed", none⟩
  | listed count => ⟨.info, "Dry run listed " ++ toString count ++ " runs", none⟩

/-- What a run that did not succeed reports. -/
def outcomeReports (run : Run) (launch : Launch) : Outcome → List Report
  | .notStarted fault => [.notStarted run launch.program fault]
  | .finished _ ending => if ending.isSuccess then [] else [.failed run ending]

end Dispatch

/-! ## Progress -/

/-- What came of some runs of a plan. -/
structure Progress (σ : Type) where
  /-- The bytes that the sink took. -/
  written : List UInt8
  /-- The runners that were launched, in order. -/
  launches : List Launch
  reports : List Dispatch.Report
  /-- How many runs were gone through to their end. -/
  dispatched : Nat
  /-- How many of them did not succeed. -/
  failed : Nat
  /-- Whether the sink broke. -/
  isBroken : Bool
  /-- The launcher's state after that. -/
  state : σ
deriving Repr

namespace Progress

variable {σ : Type}

/-- No run at all. -/
def nothing (state : σ) : Progress σ := ⟨[], [], [], 0, 0, false, state⟩

/-- What came of one run, and the sink that the next one writes to. -/
structure Step (σ : Type) where
  written : List UInt8
  launches : List Launch
  reports : List Dispatch.Report
  isFailure : Bool
  next : Option Sink
  state : σ

/-- A run of which the sink broke. -/
def ofBroken (step : Step σ) : Progress σ :=
  ⟨step.written, step.launches, step.reports, 0, 0, true, step.state⟩

/-- A run in front of others. -/
def cons (step : Step σ) (rest : Progress σ) : Progress σ :=
  { rest with
    written := step.written ++ rest.written
    launches := step.launches ++ rest.launches
    reports := step.reports ++ rest.reports
    dispatched := rest.dispatched + 1
    failed := rest.failed + if step.isFailure then 1 else 0 }

/-- Adds a report about the whole, unless the sink broke. -/
def report (p : Progress σ) (r : Dispatch.Report) : Progress σ :=
  if p.isBroken then p else { p with reports := p.reports ++ [r] }

end Progress

/-! ## Dispatching -/

namespace Dispatch

open Progress

variable {σ : Type}

/-- How the runner of a run is launched. -/
def launchOf (s : Settings) (run : Run) : Launch :=
  { program := s.runnerOf run.driver
    arguments :=
      [ "--nodes", s.nodesFor run.driver,
        "--workload", run.configuration.workload.name,
        "--concurrency", toString run.configuration.concurrency.toNat,
        "--tasks", toString run.configuration.tasks.toNat ] }

/-- The bytes of a run's tag block. -/
def tagBytes (run : Run) : List UInt8 := Text.utf8 (Tag.ofRun run).block

/-- Writes the tag of a run. -/
def listRun (run : Run) (sink : Sink) (state : σ) : Step σ :=
  let (taken, next) := sink.write (tagBytes run)
  ⟨taken, [], [], false, next, state⟩

/-- Launches a run whose tag is written, and passes on what it writes; `count` runs are
then done. -/
def launchRun (s : Settings) (launcher : Launcher σ) (count total : Nat) (run : Run)
    (sink : Sink) (state : σ) : Step σ :=
  let launch := launchOf s run
  let (outcome, state) := launcher state launch
  let (taken, next) := sink.write outcome.output
  let reports := match next with
    | none => [.processing run]
    | some _ => [.processing run] ++ outcomeReports run launch outcome ++ [.done count total]
  ⟨taken, [launch], reports, !outcome.isSuccess, next, state⟩

/-- One run: its tag, and its runner once the tag is written. -/
def performRun (s : Settings) (launcher : Launcher σ) (count total : Nat) (run : Run)
    (sink : Sink) (state : σ) : Step σ :=
  let tag := listRun run sink state
  match tag.next with
  | none => tag
  | some sink =>
    let step := launchRun s launcher count total run sink tag.state
    { step with written := tag.written ++ step.written }

/-- Goes through `count` runs of a plan from a position on, until the sink breaks. -/
def follow (plan : Plan) (act : Nat → Run → Sink → σ → Step σ) :
    (count start : Nat) → Sink → σ → Progress σ
  | 0, _, _, state => Progress.nothing state
  | count + 1, start, sink, state =>
    match plan.run? start with
    | none => Progress.nothing state
    | some run =>
      let step := act start run sink state
      match step.next with
      | none => ofBroken step
      | some sink => cons step (follow plan act count (start + 1) sink step.state)

/-- Launches every run of a plan. -/
def perform (s : Settings) (plan : Plan) (launcher : Launcher σ) (sink : Sink) (state : σ) :
    Progress σ :=
  let act := fun i => performRun s launcher (i + 1) plan.len.toNat
  let p := follow plan act plan.size 0 sink state
  p.report (.finished p.failed p.dispatched)

/-- Writes the tags of a plan. -/
def rehearse (plan : Plan) (sink : Sink) (state : σ) : Progress σ :=
  let p := follow plan (fun _ => listRun) plan.size 0 sink state
  p.report (.listed p.dispatched)

/-- What is told when the sink broke. -/
def brokenMessage : String := "Failed to write to the dispatch output"

end Dispatch

end BenchCampaign
