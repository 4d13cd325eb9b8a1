import BenchCampaign.Proofs.Log.Division
import BenchCampaign.Proofs.Log.Extract
import BenchCampaign.Proofs.Record.Written

/-!
# Transcripts

A transcript is what a campaign writes when nothing stops it: for each run its tag, and behind
that what the run wrote, which may end anywhere.  As long as no run writes a tag line of its
own, the log tells of each run what its own output tells.

* `segments_transcript`: one segment a run, which has the line feed of the next tag at its end.
* `Entry.fate_segment`: that line feed changes nothing about a run's fate.
* `readTag_transcript`, `reconcile_transcript`: the tags and the fates of all runs, in their
  order.
-/

namespace BenchCampaign

namespace Log

/-- A run's tag, and what the run wrote. -/
structure Entry where
  tag : Tag
  output : List Char

namespace Entry

/-- What stands in a transcript for a run. -/
def text (e : Entry) : List Char := e.tag.block ++ e.output

/-- The word that a run reports as its time: the first one behind the first marker of its
output, and on the marker's line. -/
def timeWord? (e : Entry) : Option (List Char) :=
  (Text.after? timeMarker e.output).map fun rest =>
    Text.firstWord (rest.takeWhile (· ≠ '\n'))

/-- What became of a run by its own output. -/
def fate (e : Entry) : Fate :=
  match e.timeWord? with
  | none => .missing e.tag
  | some word =>
    match time? word with
    | some time => .completed ⟨e.tag, time⟩
    | none => .faulty (.malformedTime e.tag.json word)

end Entry

/-- The log of some runs. -/
def transcript (entries : List Entry) : List Char := entries.flatMap Entry.text

/-! ## Segments of a transcript -/

/-- What other runs add to the output of the run before them. -/
def gap : List Entry → List Char
  | [] => []
  | _ :: _ => ['\n']

/-- The segment of a run in front of others. -/
def Entry.segment (e : Entry) (others : List Entry) : Segment :=
  ⟨' ' :: e.tag.json ++ ['\n'], e.output ++ gap others⟩

/-- The segments of some runs. -/
def entrySegments : List Entry → List Segment
  | [] => []
  | e :: others => e.segment others :: entrySegments others

theorem split_output_transcript {output : List Char} {entries : List Entry}
    (free : TagFree output) (frees : ∀ e ∈ entries, TagFree e.output) :
    split (output ++ transcript entries) = (output ++ gap entries, entrySegments entries) := by
  induction entries generalizing output with
  | nil =>
    show split (output ++ []) = (output ++ [], [])
    rw [List.append_nil]
    exact split_of_tagFree free
  | cons e others ih =>
    have shape : output ++ transcript (e :: others) =
        (output ++ ['\n']) ++
          (Tag.word ++ (' ' :: e.tag.json) ++ '\n' :: (e.output ++ transcript others)) := by
      simp [transcript, Entry.text, Tag.block, Tag.line, Tag.lead]
    have tagged : '\n' ∉ ' ' :: e.tag.json := by
      rw [List.mem_cons]
      rintro (blank | inJson)
      · cases blank
      · exact e.tag.lineFeed_notMem_json inJson
    have tail := ih (frees e List.mem_cons_self) fun other member =>
      frees other (List.mem_cons_of_mem e member)
    have behind : split (Tag.word ++ (' ' :: e.tag.json) ++
        '\n' :: (e.output ++ transcript others)) = ([], entrySegments (e :: others)) := by
      rw [split_tagLine rfl tagged, preamble, segments, tail]
      rfl
    rw [shape, split_append_of_tagFree (Text.isWhole_append_lineFeed output)
      free.append_lineFeed, preamble, segments, behind, List.append_nil]
    rfl

/-- A transcript has one segment for each run. -/
theorem segments_transcript {entries : List Entry} (frees : ∀ e ∈ entries, TagFree e.output) :
    segments (transcript entries) = entrySegments entries :=
  congrArg Prod.snd (split_output_transcript tagFree_nil frees)

/-! ## What a segment tells -/

namespace Entry

theorem rawTag_segment (e : Entry) (others : List Entry) :
    (e.segment others).rawTag = e.tag.json := by
  show Text.trim (' ' :: e.tag.json ++ ['\n']) = e.tag.json
  rw [Text.trim_append_blank (by decide), Text.trim_cons_blank (by decide)]
  exact Tag.trim_braced _

/-- The tag of a segment is the tag of its run. -/
theorem readTag_segment (e : Entry) (others : List Entry) :
    (e.segment others).readTag = .ok e.tag := by
  unfold Segment.readTag
  rw [rawTag_segment, Tag.read?_json]

/-- The line feed of the next tag is no part of the time's word. -/
theorem timeToken?_segment (e : Entry) (others : List Entry) :
    (e.segment others).timeToken? = e.timeWord? := by
  have own (tag : List Char) : Segment.timeToken? ⟨tag, e.output⟩ = e.timeWord? := by
    unfold Segment.timeToken? timeWord?
    congr 1
    funext rest
    exact Text.firstWord_firstLine rest
  cases others with
  | nil =>
    show Segment.timeToken? ⟨_, e.output ++ []⟩ = e.timeWord?
    rw [List.append_nil, own]
  | cons other others => exact (Segment.timeToken?_bodyEnded _ e.output).trans (own _)

theorem recordAt_segment (e : Entry) (others : List Entry) (word : List Char) :
    (e.segment others).recordAt word =
      match time? word with
      | some time => .ok ⟨e.tag, time⟩
      | none => .error (.malformedTime e.tag.json word) := by
  unfold Segment.recordAt
  rw [readTag_segment, rawTag_segment]
  rfl

/-- A run's fate in the log is the one by its own output. -/
theorem fate_segment (e : Entry) (others : List Entry) :
    (e.segment others).fate = e.fate := by
  unfold Segment.fate Segment.record? fate
  rw [timeToken?_segment, readTag_segment]
  cases e.timeWord? with
  | none => rfl
  | some word =>
    rw [Option.map_some, recordAt_segment]
    dsimp only
    cases time? word with
    | none => rfl
    | some time => rfl

end Entry

/-! ## Reconciling a transcript -/

/-- The fates of the runs of a transcript are those of their own outputs. -/
theorem reconcile_transcript {entries : List Entry} (frees : ∀ e ∈ entries, TagFree e.output) :
    reconcile (transcript entries) = Reconciliation.ofFates (entries.map Entry.fate) := by
  unfold reconcile
  rw [segments_transcript frees, Reconciliation.ofSegments_eq]
  congr 1
  clear frees
  induction entries with
  | nil => rfl
  | cons e others ih => rw [entrySegments, List.map_cons, List.map_cons, e.fate_segment, ih]

/-- The tags of a transcript are those of its runs. -/
theorem readTag_transcript {entries : List Entry} (frees : ∀ e ∈ entries, TagFree e.output) :
    (segments (transcript entries)).map Segment.readTag =
      entries.map fun e => .ok e.tag := by
  rw [segments_transcript frees]
  clear frees
  induction entries with
  | nil => rfl
  | cons e others ih => rw [entrySegments, List.map_cons, List.map_cons, e.readTag_segment, ih]

end Log

end BenchCampaign
