import BenchCampaign.Proofs.Dispatch.Stream
import BenchCampaign.Proofs.Log.Concatenation
import BenchCampaign.Proofs.Log.Transcript
import BenchCampaign.Proofs.Text.Utf8

/-!
# Reading what a campaign wrote

A campaign writes a transcript of its runs, so that its log tells of each run what the run itself
wrote.  Runs may write anything that is text and has no tag line of its own.  A transcript begins
with a tag on a line of its own, so that a campaign can be written behind any text.

* `Dispatch.written_perform_unlimited`: all that a campaign writes is a transcript.
* `Dispatch.readings_perform_behind`: behind any text it is read as it is read alone.
* `Dispatch.reconcile_perform`: each run's fate is in one list, by its own output alone.
-/

namespace BenchCampaign

namespace Dispatch

variable {σ : Type}

/-- Runs with what they wrote. -/
def entries (runs : List Run) (outputs : List (List Char)) : List Log.Entry :=
  (runs.zip outputs).map fun (run, output) => ⟨Tag.ofRun run, output⟩

theorem tagFree_entries {runs : List Run} {outputs : List (List Char)}
    (free : ∀ output ∈ outputs, Log.TagFree output) :
    ∀ e ∈ entries runs outputs, Log.TagFree e.output := by
  intro e member
  obtain ⟨⟨run, output⟩, paired, rfl⟩ := List.mem_map.mp member
  exact free output (List.of_mem_zip paired).2

theorem tags_entries {runs : List Run} {outputs : List (List Char)}
    (length : outputs.length = runs.length) :
    (entries runs outputs).map Log.Entry.tag = runs.map Tag.ofRun := by
  have first : (entries runs outputs).map Log.Entry.tag =
      ((runs.zip outputs).map Prod.fst).map Tag.ofRun := by
    rw [entries, List.map_map, List.map_map]
    rfl
  rw [first, List.map_fst_zip (Nat.le_of_eq length.symm)]

/-- The blocks of some runs are the bytes of their transcript. -/
theorem flatten_blocks {runs : List Run} {os : List Outcome} {outputs : List (List Char)}
    (texts : os.map Outcome.output = outputs.map Text.utf8) :
    (List.zipWith block runs os).flatten = Text.utf8 (Log.transcript (entries runs outputs)) := by
  induction runs generalizing os outputs with
  | nil => rfl
  | cons run runs ih =>
    cases os with
    | nil =>
      cases outputs with
      | nil => rfl
      | cons output outputs => cases texts
    | cons outcome os =>
      cases outputs with
      | nil => cases texts
      | cons output outputs =>
        obtain ⟨text, rest⟩ := List.cons.inj texts
        have tail := ih rest
        have parts : Log.transcript (entries (run :: runs) (output :: outputs)) =
            ((Tag.ofRun run).block ++ output) ++ Log.transcript (entries runs outputs) := rfl
        rw [List.zipWith_cons_cons, List.flatten_cons, tail, parts, Text.utf8_append,
          Text.utf8_append, block, tagBytes, text]

/-- All that a campaign writes is a transcript of its runs. -/
theorem written_perform_unlimited (s : Settings) (plan : Plan) (launcher : Launcher σ)
    (state : σ) {outputs : List (List Char)}
    (texts : (outcomes s launcher plan.runs state).map Outcome.output =
      outputs.map Text.utf8) :
    (perform s plan launcher ⟨none⟩ state).written =
      Text.utf8 (Log.transcript (entries plan.runs outputs)) := by
  rw [written_perform, flatten_blocks texts]
  rfl

theorem respects_transcript (es : List Log.Entry) (text : List Char) :
    Log.Respects text (Log.transcript es) := by
  cases es with
  | nil => exact Log.respects_nil text
  | cons e others =>
    have shape : Log.transcript (e :: others) =
        '\n' :: (Tag.lead ++ (e.tag.json ++ '\n' :: (e.output ++ Log.transcript others))) := by
      simp [Log.transcript, Log.Entry.text, Tag.block, Tag.line]
    rw [shape]
    exact Log.respects_tagged (List.prefix_append Tag.lead _) text

/-- A campaign that is written behind a text, however the text ends and whatever the runs write
of their own, tells what it tells alone. -/
theorem readings_perform_behind (s : Settings) (plan : Plan) (launcher : Launcher σ) (state : σ)
    {outputs : List (List Char)}
    (texts : (outcomes s launcher plan.runs state).map Outcome.output =
      outputs.map Text.utf8) (text : List Char) :
    ∃ log, Text.ofUtf8? (perform s plan launcher ⟨none⟩ state).written = some log ∧
      Log.read (text ++ log) = Log.read text ++ Log.read log ∧
      (Log.reconcile (text ++ log)).completed =
        (Log.reconcile text).completed ++ (Log.reconcile log).completed ∧
      (Log.reconcile (text ++ log)).missing =
        (Log.reconcile text).missing ++ (Log.reconcile log).missing ∧
      (Log.reconcile (text ++ log)).faults =
        (Log.reconcile text).faults ++ (Log.reconcile log).faults := by
  refine ⟨Log.transcript (entries plan.runs outputs), ?_, ?_⟩
  · rw [written_perform_unlimited s plan launcher state texts, Text.ofUtf8?_utf8]
  · exact (respects_transcript (entries plan.runs outputs) text).readings

/-- **Each run is told of what it wrote itself.**  In the log of a campaign whose runs write text
without tag lines, there is one segment for each run, in the order of the plan and with the tag
of the run; the fate of each run follows from its own output, and stands in the list of its kind
and in no other one. -/
theorem reconcile_perform (s : Settings) (plan : Plan) (launcher : Launcher σ) (state : σ)
    (outputs : List (List Char))
    (texts : (outcomes s launcher plan.runs state).map Outcome.output =
      outputs.map Text.utf8)
    (free : ∀ output ∈ outputs, Log.TagFree output) :
    ∃ log, Text.ofUtf8? (perform s plan launcher ⟨none⟩ state).written = some log ∧
      (Log.segments log).map Log.Segment.readTag =
        (plan.runs.map fun run => .ok (Tag.ofRun run)) ∧
      let fates := (plan.runs.zip outputs).map fun (run, output) =>
        Log.Entry.fate ⟨Tag.ofRun run, output⟩
      (Log.reconcile log).completed = fates.filterMap Log.Fate.completed? ∧
        (Log.reconcile log).missing = fates.filterMap Log.Fate.missing? ∧
        (Log.reconcile log).faults = fates.filterMap Log.Fate.fault? ∧
        ((Log.reconcile log).isComplete = true ↔
          ∀ fate ∈ fates, ∃ record, fate = .completed record) := by
  have length : outputs.length = plan.runs.length := by
    have same := congrArg List.length texts
    rw [List.length_map, List.length_map, length_outcomes] at same
    exact same.symm
  have frees : ∀ e ∈ entries plan.runs outputs, Log.TagFree e.output := tagFree_entries free
  refine ⟨Log.transcript (entries plan.runs outputs), ?_, ?_, ?_⟩
  · rw [written_perform_unlimited s plan launcher state texts, Text.ofUtf8?_utf8]
  · rw [Log.readTag_transcript frees]
    have tags := congrArg (List.map fun t => (Except.ok t : Except Log.Fault Tag))
      (tags_entries length)
    rw [List.map_map, List.map_map] at tags
    exact tags
  · intro fates
    have fated : (entries plan.runs outputs).map Log.Entry.fate = fates := by
      rw [entries, List.map_map]
      rfl
    rw [Log.reconcile_transcript frees, fated, Log.Reconciliation.isComplete_ofFates,
      Log.Reconciliation.ofFates_eq]
    exact ⟨rfl, rfl, rfl, Iff.rfl⟩

/-- Two runs of a driver that is called like a tag and a time: the first one ends within the line
of its time, the other one writes half a marker. -/
theorem reconcile_unendedOutputs :
    let s : Settings := ⟨"runners", 2, ⟨[], 0⟩, [], ⟨[], [], [], 0⟩, {}⟩
    let driver : Driver := ⟨"\"\nBENCHMARK Benchmark time: 7", none, false⟩
    let plan : Plan := ⟨[⟨1, 2, .inserts⟩], [driver], 2⟩
    let script : List Outcome :=
      [.finished (Text.utf8 "Benchmark time: 5\r".toList) (.exited 0),
        .finished (Text.utf8 "Benchmark ti".toList) (.exited 1)]
    let tag (sample : UInt32) : Tag := ⟨driver.name, .inserts, 2, 1, sample⟩
    ∃ log, Text.ofUtf8? (perform s plan scripted ⟨none⟩ script).written = some log ∧
      (Log.segments log).map Log.Segment.readTag = [.ok (tag 0), .ok (tag 1)] ∧
      (Log.reconcile log).completed = [⟨tag 0, 5⟩] ∧ (Log.reconcile log).missing = [tag 1] := by
  intro s driver plan script tag
  have texts : (outcomes s scripted plan.runs script).map Outcome.output =
      ["Benchmark time: 5\r".toList, "Benchmark ti".toList].map Text.utf8 := by
    rw [outcomes_scripted s rfl]
    rfl
  obtain ⟨log, read, tags, completed, missing, -⟩ :=
    reconcile_perform s plan scripted script _ texts (by decide)
  exact ⟨log, read, tags, completed, missing⟩

end Dispatch

end BenchCampaign
