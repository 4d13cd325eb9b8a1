import BenchCampaign.Proofs.Log.Agreement
import BenchCampaign.Proofs.Log.Concatenation

/-!
# Logs that grow

While a campaign goes on, its log can be read line by line as far as it has come.  What follows
goes to the last segment up to the next tag line, and makes segments of its own from there on.
The segments in front of the last one stand as they are, and of the last one what was read before
is read again: a marker that is there has its whole line.

* `split_append_of_isWhole`: what text does behind whole lines.
* `Segment.record?_append`: what a segment has reported it goes on to report.
* `readings_grow`: what is told of a log does not change as it grows, save that a run without a
  time is still given one.
-/

namespace BenchCampaign

namespace Log

/-! ## Segments -/

/-- What follows whole lines is preamble as long as there is no tag line, and otherwise it goes to
the body of the last segment. -/
theorem split_append_of_isWhole {text : List Char} (whole : Text.IsWhole text)
    (more : List Char) :
    (split text = (text, []) ∧ split (text ++ more) = (text ++ preamble more, segments more)) ∨
      ∃ start before last, split text = (start, before ++ [last]) ∧ Text.IsWhole last.body ∧
        split (text ++ more) =
          (start, before ++ ⟨last.tag, last.body ++ preamble more⟩ :: segments more) := by
  induction text using Text.lines_induction with
  | empty => exact Or.inl ⟨rfl, rfl⟩
  | opened line nonempty free => exact (Text.not_isWhole_of_notMem nonempty free whole).elim
  | ended line rest free ih =>
    have wholeRest := (Text.isWhole_line_iff line rest).mp whole
    have shape : line ++ '\n' :: rest ++ more = line ++ '\n' :: (rest ++ more) := by
      rw [List.append_assoc, List.cons_append]
    rw [shape]
    rcases split_line_cases free with ⟨tag, -, begins⟩ | ⟨-, goesOn⟩
    · -- The line begins a segment, and the preamble behind it is the segment's body.
      right
      rw [begins rest, begins (rest ++ more)]
      rcases ih wholeRest with ⟨alone, longer⟩ | ⟨start, before, last, alone, ended, longer⟩
      · refine ⟨[], [], ⟨tag ++ ['\n'], rest⟩, ?_, wholeRest, ?_⟩
        · rw [preamble_of_split alone, segments_of_split alone]
          rfl
        · rw [preamble_of_split longer, segments_of_split longer]
          rfl
      · refine ⟨[], ⟨tag ++ ['\n'], start⟩ :: before, last, ?_, ended, ?_⟩
        · rw [preamble_of_split alone, segments_of_split alone]
          rfl
        · rw [preamble_of_split longer, segments_of_split longer]
          rfl
    · rw [goesOn rest, goesOn (rest ++ more)]
      rcases ih wholeRest with ⟨alone, longer⟩ | ⟨start, before, last, alone, ended, longer⟩
      · left
        rw [preamble_of_split alone, segments_of_split alone, preamble_of_split longer,
          segments_of_split longer]
        refine ⟨?_, ?_⟩
        · rw [List.append_assoc, List.singleton_append]
        · rw [List.append_assoc, List.singleton_append, List.append_assoc, List.cons_append]
      · right
        refine ⟨line ++ ['\n'] ++ start, before, last, ?_, ended, ?_⟩
        · rw [preamble_of_split alone, segments_of_split alone]
        · rw [preamble_of_split longer, segments_of_split longer]

/-! ## What the last segment reports -/

namespace Segment

variable {tag body : List Char}

/-- In whole lines a marker has its whole line. -/
theorem lineFeed_mem_of_marked {rest : List Char} (whole : Text.IsWhole body)
    (marked : Text.after? timeMarker body = some rest) : '\n' ∈ rest := by
  obtain ⟨front, rfl⟩ := Text.exists_append_of_after? marked
  have marker : timeMarker.getLast? = some ' ' := by decide
  rcases whole with none | last
  · rw [(List.append_eq_nil_iff.mp (List.append_eq_nil_iff.mp none).2).1] at marker
    cases marker
  · rcases List.eq_nil_or_concat rest with rfl | ⟨below, c, rfl⟩
    · rw [List.append_nil, List.getLast?_append, marker, Option.some_or] at last
      exact absurd last (by decide)
    · rw [List.concat_eq_append, ← List.append_assoc, ← List.append_assoc,
        List.getLast?_concat] at last
      rw [Option.some.inj last, List.concat_eq_append]
      exact List.mem_append_right below List.mem_cons_self

theorem timeToken?_append {token : List Char} (whole : Text.IsWhole body)
    (found : timeToken? ⟨tag, body⟩ = some token) (more : List Char) :
    timeToken? ⟨tag, body ++ more⟩ = some token := by
  obtain ⟨rest, marked, first⟩ := Option.map_eq_some_iff.mp found
  have later := Text.after?_append_of_some marked more
  obtain ⟨line, below, rfl, free⟩ :=
    List.eq_append_cons_of_mem (lineFeed_mem_of_marked whole marked)
  rw [Text.firstWord_firstLine, Text.takeWhile_line free] at first
  unfold timeToken?
  rw [later, Option.map_some, Text.firstWord_firstLine, List.append_assoc, List.cons_append,
    Text.takeWhile_line free, first]

/-- What a segment of whole lines has reported it reports however its body goes on. -/
theorem record?_append {result : Except Fault Record} (whole : Text.IsWhole body)
    (reported : record? ⟨tag, body⟩ = some result) (more : List Char) :
    record? ⟨tag, body ++ more⟩ = some result := by
  obtain ⟨token, found, told⟩ := Option.map_eq_some_iff.mp reported
  unfold record?
  rw [timeToken?_append whole found more, Option.map_some]
  exact congrArg some told

theorem completed?_append {record : Record} (whole : Text.IsWhole body)
    (completed : (fate ⟨tag, body⟩).completed? = some record) (more : List Char) :
    (fate ⟨tag, body ++ more⟩).completed? = some record := by
  rw [completed?_fate] at completed ⊢
  obtain ⟨result, reported, ok⟩ := Option.bind_eq_some_iff.mp completed
  rw [record?_append whole reported more]
  exact ok

end Segment

/-! ## Readings -/

/-- What is listed of the segments of whole lines stays listed, if what the last of them has to it
does not depend on what follows. -/
theorem filterMap_segments_prefix {β : Type} {f : Segment → Option β}
    (lasting : ∀ tag body more b, Text.IsWhole body → f ⟨tag, body⟩ = some b →
      f ⟨tag, body ++ more⟩ = some b)
    {text : List Char} (whole : Text.IsWhole text) (more : List Char) :
    (segments text).filterMap f <+: (segments (text ++ more)).filterMap f := by
  rcases split_append_of_isWhole whole more with
    ⟨alone, -⟩ | ⟨start, before, last, alone, ended, longer⟩
  · rw [segments_of_split alone]
    exact List.nil_prefix
  · rw [segments_of_split alone, segments_of_split longer, List.filterMap_append,
      List.filterMap_append, List.prefix_append_right_inj]
    cases listed : f last with
    | none =>
      rw [List.filterMap_cons_none listed]
      exact List.nil_prefix
    | some b =>
      rw [List.filterMap_cons_some listed,
        List.filterMap_cons_some (lasting _ _ (preamble more) b ended listed)]
      exact List.cons_prefix_cons.mpr ⟨rfl, List.nil_prefix⟩

/-- What is listed of all segments but the last one stays listed, whatever it depends on. -/
theorem filterMap_dropLast_prefix {β : Type} (f : Segment → Option β) {text : List Char}
    (whole : Text.IsWhole text) (more : List Char) :
    (segments text).dropLast.filterMap f <+: (segments (text ++ more)).filterMap f := by
  rcases split_append_of_isWhole whole more with
    ⟨alone, -⟩ | ⟨start, before, last, alone, -, longer⟩
  · rw [segments_of_split alone]
    exact List.nil_prefix
  · rw [segments_of_split alone, segments_of_split longer, List.dropLast_concat,
      List.filterMap_append]
    exact List.prefix_append _ _

theorem filterMap_dropLast_getLast? {α β : Type} (f : α → Option β) (l : List α) :
    l.filterMap f = l.dropLast.filterMap f ++ (l.getLast?.bind f).toList := by
  rcases List.eq_nil_or_concat l with rfl | ⟨front, last, rfl⟩
  · rfl
  · rw [List.concat_eq_append, List.filterMap_append, List.dropLast_concat, List.getLast?_concat,
      Option.bind_some, List.filterMap_eq_flatMap_toList (l := [last]), List.flatMap_singleton]

/-- **Nothing that was told of a log is taken back as it grows.**  Behind whole lines, whatever
follows them, the results that were read are the first ones of those that are read then, and so
are the records; and of the runs without a time all stay without one and in their order, save
perhaps the last run of the log so far. -/
theorem readings_grow {text : List Char} (whole : Text.IsWhole text) (more : List Char) :
    let settled := (segments text).dropLast.filterMap fun s => s.fate.missing?
    let last := (segments text).getLast?.bind fun s => s.fate.missing?
    read text <+: read (text ++ more) ∧
      (reconcile text).completed <+: (reconcile (text ++ more)).completed ∧
      (reconcile text).missing = settled ++ last.toList ∧
      settled <+: (reconcile (text ++ more)).missing := by
  intro settled last
  rw [reconcile_eq, reconcile_eq]
  refine ⟨?_, ?_, ?_, ?_⟩
  · exact filterMap_segments_prefix
      (fun _ _ more _ ended reported => Segment.record?_append ended reported more) whole more
  · exact filterMap_segments_prefix
      (fun _ _ more _ ended completed => Segment.completed?_append ended completed more) whole more
  · exact filterMap_dropLast_getLast? _ _
  · exact filterMap_dropLast_prefix _ whole more

/-- A log that was read between a tag and its time. -/
theorem readings_grow_betweenTagAndTime :
    let first : Tag := ⟨"d", .mixed, 1, 2, 0⟩
    let second : Tag := ⟨"d", .mixed, 1, 2, 1⟩
    let text := first.block ++ second.block
    let more := "Benchmark time: 7 ms".toList
    Text.IsWhole text ∧ (reconcile text).missing = [first] ++ [second] ∧
      [first] <+: (reconcile (text ++ more)).missing ∧
      (reconcile (text ++ more)).completed = [⟨second, 7⟩] := by
  intro first second text more
  have whole : Text.IsWhole text := by decide
  obtain ⟨-, -, missing, kept⟩ := readings_grow whole more
  have settled : ((segments text).dropLast.filterMap fun s => s.fate.missing?) = [first] := by
    decide +kernel
  have last : ((segments text).getLast?.bind fun s => s.fate.missing?) = some second := by
    decide +kernel
  rw [settled, last] at missing
  rw [settled] at kept
  exact ⟨whole, missing, kept, by decide +kernel⟩

end Log

end BenchCampaign
