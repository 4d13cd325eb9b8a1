import BenchCampaign.CommandLine.Ingest
import BenchCampaign.Proofs.CommandLine.Options
import BenchCampaign.Proofs.Log.Agreement

/-!
# One log, read in two ways by one command

With and without reconciling, the command writes the records of a log.  Reconciling only adds to
what can keep it from ending well: that a run never reported a time.

* `IngestCommand.ofArguments_reconcile`: a command line with the switch in front.
* `IngestCommand.output_reconciled`, `IngestCommand.code_plain`: what the switch changes about
  a text.
* `IngestCommand.readings_agree`: all readings of a log, and the command that makes them.
-/

namespace BenchCampaign

namespace CommandLine

namespace IngestCommand

/-! ## Arguments -/

theorem opening_reconcile : options.opening "--reconcile" = .option (switch "reconcile") none := rfl

/-- The switch can be given in front of a command line that has it nowhere. -/
theorem ofArguments_reconcile {arguments : List String} {file : Option String}
    (plain : ofArguments arguments = .ok ⟨file, false⟩) :
    ofArguments ("--reconcile" :: arguments) = .ok ⟨file, true⟩ := by
  unfold ofArguments Options.read at plain ⊢
  cases read : options.readFrom arguments [] with
  | error refusal =>
    rw [read] at plain
    cases plain
  | ok given =>
    rw [read] at plain
    obtain ⟨rfl, lacks⟩ := IngestCommand.mk.inj (Except.ok.inj plain)
    have other : ∀ g ∈ given, g.1 ≠ "reconcile" := by
      simpa [Given.has, Given.value?, List.find?_eq_none] using lacks
    have behind : options.readFrom arguments [("reconcile", "")] =
        .ok (("reconcile", "") :: given) := Options.readFrom_cons read other
    have front : options.readFrom ("--reconcile" :: arguments) [] =
        .ok (("reconcile", "") :: given) := by
      rw [Options.readFrom, opening_reconcile]
      exact behind
    rw [front]
    rfl

/-! ## Texts -/

theorem code_eq_successCode_iff {isClean : Bool} : code isClean = successCode ↔ isClean = true := by
  cases isClean <;> decide

/-- Both ways write the same records. -/
theorem output_reconciled (text : List Char) : (reconciled text).output = (plain text).output := by
  show recordLines (Log.reconcile text).completed =
    recordLines ((Log.read text).filterMap Except.toOption)
  rw [Log.completed_eq]

/-- A log of which every run reported a time has no fault, either. -/
theorem code_plain {text : List Char} (success : (reconciled text).code = successCode) :
    (plain text).code = successCode := by
  have complete : (Log.reconcile text).isComplete = true := code_eq_successCode_iff.mp success
  have none := Log.readFaults_of_complete text complete
  show code (Log.readFaults text).isEmpty = successCode
  rw [none]
  rfl

/-- What cannot be read as text is no log in either way. -/
theorem perform_reconciles (file : Option String) (h : Host) (input : List UInt8) :
    (perform ⟨file, true⟩ h input).output = (perform ⟨file, false⟩ h input).output ∧
      ((perform ⟨file, true⟩ h input).code = successCode →
        (perform ⟨file, false⟩ h input).code = successCode) := by
  have source : source ⟨file, true⟩ h input = source ⟨file, false⟩ h input := rfl
  unfold perform
  rw [source]
  cases (IngestCommand.source ⟨file, false⟩ h input).bind Text.ofUtf8? with
  | none => exact ⟨rfl, id⟩
  | some text => exact ⟨output_reconciled text, code_plain⟩

/-! ## The command -/

/-- **All readings of a log agree, and so does what is written of it.**  For each command line
without the switch there is one with it; whatever the input is, every command line with the
switch that names the same log writes the same records, and ends well only if the one without it
does. -/
theorem readings_agree :
    (∀ text, Log.Agreement text) ∧
      ∀ (file : Option String) (arguments : List String),
        ofArguments arguments = .ok ⟨file, false⟩ →
          ofArguments ("--reconcile" :: arguments) = .ok ⟨file, true⟩ ∧
          ∀ (switched : List String), ofArguments switched = .ok ⟨file, true⟩ →
            ∀ (h : Host) (input : List UInt8),
              (performArguments h switched input).output =
                (performArguments h arguments input).output ∧
              ((performArguments h switched input).code = successCode →
                (performArguments h arguments input).code = successCode) := by
  refine ⟨Log.agreement, fun file arguments plain => ⟨ofArguments_reconcile plain, ?_⟩⟩
  intro switched reconciles h input
  unfold performArguments
  rw [plain, reconciles]
  exact perform_reconciles file h input

/-- The switch behind another spelling of the same path. -/
theorem output_reconcile_behind :
    let arguments := ["-i", "log"]
    let switched := ["--input=log", "--reconcile"]
    ofArguments arguments = .ok ⟨some "log", false⟩ ∧
      ofArguments switched = .ok ⟨some "log", true⟩ ∧
      ∀ (h : Host) (input : List UInt8),
        (performArguments h switched input).output =
          (performArguments h arguments input).output ∧
        ((performArguments h switched input).code = successCode →
          (performArguments h arguments input).code = successCode) := by
  intro arguments switched
  have plain : ofArguments arguments = .ok ⟨some "log", false⟩ := by decide
  have reconciles : ofArguments switched = .ok ⟨some "log", true⟩ := by decide
  exact ⟨plain, reconciles, (readings_agree.2 (some "log") arguments plain).2 switched reconciles⟩

end IngestCommand

end CommandLine

end BenchCampaign
