import BenchCampaign.Proofs.Dispatch.Attribution
import BenchCampaign.Proofs.Log.CutOff

/-!
# Reading what an interrupted campaign wrote

A sink that breaks leaves a log that ends anywhere.  All that is told of the runs before the one
that broke it is told of them in the whole log as well.  Of that run nothing is told that is not
told by all that it wrote, unless the log ends within the word of its time.

* `Dispatch.written_perform_limited`: the log of a campaign that was interrupted is the beginning
  of the whole log.
* `Dispatch.completed_perform_limited`: its records are the first records of the whole log, and
  perhaps one with a time that was cut off.
* `Dispatch.completed_cutWithinDigits`: a campaign of which the log ends within a time.
-/

namespace BenchCampaign

namespace Dispatch

variable {σ : Type}

/-- What a broken sink took of a campaign, if it is text, is the beginning of the transcript. -/
theorem written_perform_limited (s : Settings) (plan : Plan) (launcher : Launcher σ) (state : σ)
    (n : Nat) {outputs : List (List Char)} {cut : List Char}
    (texts : (outcomes s launcher plan.runs state).map Outcome.output = outputs.map Text.utf8)
    (read : Text.ofUtf8? (perform s plan launcher ⟨some n⟩ state).written = some cut) :
    cut <+: Log.transcript (entries plan.runs outputs) := by
  have written := (truncates_perform s plan launcher state n).written
  rw [flatten_blocks texts, Text.ofUtf8?_eq_some_iff.mp read] at written
  apply Text.prefix_of_utf8_prefix
  rw [written]
  exact List.take_prefix n _

/-- **An interrupted campaign tells no time that was not reported, unless it ends within one.**
Where the runs write text without tag lines, the records of what a sink for `n` bytes holds are
the first records of the whole log, in its order.  The only exception is a log that ends within
the word of a time: behind the records of the runs before it, there is then one of the run that
was cut off, with what is there of its time. -/
theorem completed_perform_limited (s : Settings) (plan : Plan) (launcher : Launcher σ) (state : σ)
    (n : Nat) (outputs : List (List Char)) (cut : List Char)
    (texts : (outcomes s launcher plan.runs state).map Outcome.output = outputs.map Text.utf8)
    (free : ∀ output ∈ outputs, Log.TagFree output)
    (read : Text.ofUtf8? (perform s plan launcher ⟨some n⟩ state).written = some cut) :
    ∃ log, Text.ofUtf8? (perform s plan launcher ⟨none⟩ state).written = some log ∧
      ((Log.reconcile cut).completed <+: (Log.reconcile log).completed ∨
        ∃ before e after seen word record, entries plan.runs outputs = before ++ e :: after ∧
          cut = Log.transcript before ++ (e.tag.block ++ seen) ∧ e.CutInTime seen word ∧
          record.tag = e.tag ∧ Log.time? word = some record.time ∧
          (Log.reconcile (Log.transcript before)).completed <+: (Log.reconcile log).completed ∧
          (Log.reconcile cut).completed =
            (Log.reconcile (Log.transcript before)).completed ++ [record]) := by
  refine ⟨Log.transcript (entries plan.runs outputs), ?_, ?_⟩
  · rw [written_perform_unlimited s plan launcher state texts, Text.ofUtf8?_utf8]
  · exact Log.completed_of_prefix (tagFree_entries free)
      (written_perform_limited s plan launcher state n texts read)

/-! ## A log that ends within a time -/

/-- A plan of one run. -/
def singleRun : Plan := ⟨[⟨1, 1, .inserts⟩], [⟨"rust", none, false⟩], 1⟩

/-- Settings that the runs of `singleRun` ask nothing more of. -/
def bareSettings : Settings := ⟨"runners", 1, ⟨[], 0⟩, [], ⟨[], [], [], 0⟩, {}⟩

/-- What a run writes that took 3734 milliseconds. -/
def slowOutput : List Char := "Benchmark time: 3734 ms\n".toList

/-- The record of `singleRun` with a time. -/
def singleRecord (time : UInt64) : Record := ⟨⟨"rust", .inserts, 1, 1, 0⟩, time⟩

/-- The transcript of `singleRun`, from what the run wrote. -/
def singleTranscript (output : List Char) : List Char :=
  Log.transcript [⟨(singleRecord 0).tag, output⟩]

theorem outputs_singleRun :
    (outcomes bareSettings scripted singleRun.runs
      [.finished (Text.utf8 slowOutput) (.exited 0)]).map Outcome.output =
        [slowOutput].map Text.utf8 := by
  rw [outcomes_scripted bareSettings rfl]
  rfl

theorem read_singleRun :
    Text.ofUtf8? (perform bareSettings singleRun scripted ⟨none⟩
      [.finished (Text.utf8 slowOutput) (.exited 0)]).written =
        some (singleTranscript slowOutput) := by
  rw [written_perform_unlimited bareSettings singleRun scripted _ outputs_singleRun,
    Text.ofUtf8?_utf8]
  rfl

/-- A sink for 105 bytes has room for two digits of the time. -/
theorem read_singleRun_limited :
    Text.ofUtf8? (perform bareSettings singleRun scripted ⟨some 105⟩
      [.finished (Text.utf8 slowOutput) (.exited 0)]).written =
        some (singleTranscript "Benchmark time: 37".toList) := by
  rw [(truncates_perform bareSettings singleRun scripted _ 105).written,
    flatten_blocks outputs_singleRun, Text.ofUtf8?_eq_some_iff]
  decide +kernel

theorem completed_singleTranscript {output : List Char} (free : Log.TagFree output) :
    (Log.reconcile (singleTranscript output)).completed =
      (Log.Entry.fate ⟨(singleRecord 0).tag, output⟩).completed?.toList := by
  rw [singleTranscript, Log.completed_transcript (List.forall_mem_singleton.mpr free),
    List.filterMap_eq_flatMap_toList, List.flatMap_singleton]

/-- A sink that broke within the time 3734 leaves a record with the time 37, which is not in the
whole log. -/
theorem completed_cutWithinDigits :
    (outcomes bareSettings scripted singleRun.runs
        [.finished (Text.utf8 slowOutput) (.exited 0)]).map Outcome.output =
          [slowOutput].map Text.utf8 ∧
      Log.TagFree slowOutput ∧
      ∃ cut log,
        Text.ofUtf8? (perform bareSettings singleRun scripted ⟨some 105⟩
          [.finished (Text.utf8 slowOutput) (.exited 0)]).written = some cut ∧
        Text.ofUtf8? (perform bareSettings singleRun scripted ⟨none⟩
          [.finished (Text.utf8 slowOutput) (.exited 0)]).written = some log ∧
        singleRecord 37 ∈ (Log.reconcile cut).completed ∧
        singleRecord 37 ∉ (Log.reconcile log).completed := by
  refine ⟨outputs_singleRun, by decide, _, _, read_singleRun_limited, read_singleRun, ?_, ?_⟩
  · rw [completed_singleTranscript (by decide)]
    decide
  · rw [completed_singleTranscript (by decide)]
    decide

/-- In the log of that sink, the part `37` is there of the word of the time. -/
theorem cutInTime_slowOutput :
    Log.TagFree slowOutput ∧
      ∃ cut, Text.ofUtf8? (perform bareSettings singleRun scripted ⟨some 105⟩
          [.finished (Text.utf8 slowOutput) (.exited 0)]).written = some cut ∧
        ∃ (e : Log.Entry) (seen word : List Char), cut = e.tag.block ++ seen ∧ e.CutInTime seen word ∧
          Log.time? word = some 37 := by
  refine ⟨by decide, _, read_singleRun_limited, ?_⟩
  obtain ⟨log, whole, told⟩ := completed_perform_limited bareSettings singleRun scripted _ 105
    [slowOutput] _ outputs_singleRun (by decide) read_singleRun_limited
  have read := Option.some.inj (read_singleRun.symm.trans whole)
  subst read
  rw [completed_singleTranscript (by decide), completed_singleTranscript (by decide)] at told
  rcases told with first | ⟨before, e, after, seen, word, record, runs, ends, within, -, time, -,
    records⟩
  · exact absurd first (by decide)
  · have alone : before = [] := by
      have count := congrArg List.length runs
      rw [List.length_append, List.length_cons] at count
      have one : (entries singleRun.runs [slowOutput]).length = 1 := rfl
      exact List.eq_nil_of_length_eq_zero (by omega)
    subst alone
    have last : [singleRecord 37] = [record] := records
    obtain rfl := List.singleton_inj.mp last
    exact ⟨e, seen, word, ends, within, time⟩

end Dispatch

end BenchCampaign
