import BenchCampaign.Proofs.Log.Fates
import BenchCampaign.Proofs.Text.Words
import Mathlib.Logic.Function.Basic

/-!
# What is looked at of a segment

Only two things of a segment are ever looked at: its trimmed tag, and the word that it reports
as its time.  Segments that agree in both are told of alike, however their lines end.

* `Segment.extract_tagEnded`, `Segment.extract_bodyEnded`: a line feed at the end of a tag or of
  a body is not looked at.
* `Segment.record?_factors`, `Segment.fate_factors`: what a segment reports, and what became of
  its run, go by the extract.
* `filterMap_eq_of_extracts`: so does whatever is listed of segments in this way.
-/

namespace BenchCampaign

namespace Log

namespace Segment

/-- What is looked at of a segment: the tag as faults name it, and the word that is reported as
the time. -/
def extract (s : Segment) : List Char × Option (List Char) := (s.rawTag, s.timeToken?)

/-! ## Ends of lines -/

/-- The line feed of a tag line is white space around the tag. -/
theorem extract_tagEnded (tag body : List Char) :
    extract ⟨tag ++ ['\n'], body⟩ = extract ⟨tag, body⟩ := by
  have raw : rawTag ⟨tag ++ ['\n'], body⟩ = rawTag ⟨tag, body⟩ :=
    Text.trim_append_blank (by decide) tag
  exact Prod.ext raw rfl

theorem timeToken?_bodyEnded (tag body : List Char) :
    timeToken? ⟨tag, body ++ ['\n']⟩ = timeToken? ⟨tag, body⟩ := by
  unfold timeToken?
  dsimp only
  -- The marker has no line feed, so it is found where it was, if it was there.
  rw [Text.after?_append_singleton (by decide) (by decide), Option.map_map]
  congr 1
  funext rest
  show Text.firstWord (firstLine (rest ++ ['\n'])) = Text.firstWord (firstLine rest)
  rw [Text.firstWord_firstLine, Text.firstWord_firstLine,
    Text.takeWhile_append_singleton (by decide)]

/-- A line feed behind a body makes no other marker and no other word of it. -/
theorem extract_bodyEnded (tag body : List Char) :
    extract ⟨tag, body ++ ['\n']⟩ = extract ⟨tag, body⟩ :=
  Prod.ext rfl (timeToken?_bodyEnded tag body)

/-! ## What goes by the extract -/

theorem readTag_congr {s t : Segment} (same : s.extract = t.extract) : s.readTag = t.readTag := by
  obtain ⟨raw, -⟩ := Prod.mk.inj same
  unfold readTag
  rw [raw]

theorem recordAt_congr {s t : Segment} (same : s.extract = t.extract) (token : List Char) :
    s.recordAt token = t.recordAt token := by
  have tags := readTag_congr same
  obtain ⟨raw, -⟩ := Prod.mk.inj same
  unfold recordAt
  rw [tags, raw]

/-- What a segment reports goes by its extract. -/
theorem record?_factors : Function.FactorsThrough record? extract := by
  intro s t same
  have records : s.recordAt = t.recordAt := funext (recordAt_congr same)
  obtain ⟨-, tokens⟩ := Prod.mk.inj same
  unfold record?
  rw [tokens, records]

/-- What became of a segment's run goes by its extract. -/
theorem fate_factors : Function.FactorsThrough fate extract := by
  intro s t same
  have records := record?_factors same
  have tags := readTag_congr same
  unfold fate
  rw [records, tags]

end Segment

/-- What is listed of segments by their extracts is the same for segments with the same
extracts. -/
theorem filterMap_eq_of_extracts {β : Type} {f : Segment → Option β}
    (factors : Function.FactorsThrough f Segment.extract) {these others : List Segment}
    (same : these.map Segment.extract = others.map Segment.extract) :
    these.filterMap f = others.filterMap f := by
  obtain ⟨g, rfl⟩ := (Function.factorsThrough_iff f).mp factors
  have listed := congrArg (List.filterMap g) same
  rwa [List.filterMap_map, List.filterMap_map] at listed

end Log

end BenchCampaign
