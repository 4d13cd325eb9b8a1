import BenchCampaign.Proofs.Log.Division
import BenchCampaign.Proofs.Log.Extract

/-!
# Logs put together

What a campaign writes begins with a line feed, so that its first tag begins a line wherever the
text in front of it ends.  In a log this line feed goes to the segment in front of it: to the
line of its tag, if that was not ended, and otherwise to its body.  Neither of them is told
differently because of it, so that a log which was cut off spoils nothing that stands behind it.

* `split_line_cases`: what a line does to the text below it, and what it is alone.
* `Respects`: what stands behind a text and leaves its segments as they are looked at.
* `respects_tagged`: a tag line on a line of its own does so behind any text.
* `read_append`: what two logs tell when they are put together.
-/

namespace BenchCampaign

namespace Log

section Split

variable {text start : List Char} {parts : List Segment}

theorem preamble_of_split (split : split text = (start, parts)) : preamble text = start :=
  congrArg Prod.fst split

theorem segments_of_split (split : split text = (start, parts)) : segments text = parts :=
  congrArg Prod.snd split

end Split

/-! ## One line -/

/-- A line begins a segment, whether it is ended or not, or it goes to what stands in front. -/
theorem split_line_cases {line : List Char} (free : '\n' ∉ line) :
    (∃ tag, split line = ([], [⟨tag, []⟩]) ∧ ∀ rest,
      split (line ++ '\n' :: rest) = ([], ⟨tag ++ ['\n'], preamble rest⟩ :: segments rest)) ∨
    (split line = (line, []) ∧ ∀ rest,
      split (line ++ '\n' :: rest) = (line ++ ['\n'] ++ preamble rest, segments rest)) := by
  by_cases tagged : IsTagLine line
  · obtain ⟨tag, rfl, freeTag, blank, blankEnded⟩ := tagged.exists_tag free
    exact Or.inl ⟨tag, split_openTagLine blank freeTag, split_tagLine blankEnded freeTag⟩
  · have freeEnded := tagFree_ended tagged free
    refine Or.inr ⟨?_, fun rest => ?_⟩
    · by_cases empty : line = []
      · rw [empty]
        rfl
      · exact split_of_tagFree ((tagFree_opened empty free).mpr tagged)
    · rw [List.append_cons]
      exact split_append_of_tagFree (Text.isWhole_append_lineFeed line) freeEnded rest

/-- A text that begins with a tag line has no preamble. -/
theorem preamble_of_tagged {text : List Char} (tagged : Tag.lead <+: text) :
    preamble text = [] := by
  obtain ⟨rest, rfl⟩ := tagged
  by_cases feed : '\n' ∈ rest
  · obtain ⟨tag, below, rfl, free⟩ := List.eq_append_cons_of_mem feed
    have shape : Tag.lead ++ (tag ++ '\n' :: below) =
        Tag.word ++ (' ' :: tag) ++ '\n' :: below := by simp [Tag.lead]
    have freeTag : '\n' ∉ ' ' :: tag := by simp [free]
    rw [shape]
    exact preamble_of_split (split_tagLine rfl freeTag below)
  · have shape : Tag.lead ++ rest = Tag.word ++ (' ' :: rest) := by simp [Tag.lead]
    have freeTag : '\n' ∉ ' ' :: rest := by simp [feed]
    rw [shape]
    exact preamble_of_split (split_openTagLine rfl freeTag)

/-! ## Behind another text -/

/-- Text `b` leaves the segments of `a` in front of it as they are looked at, and the preamble of
`a` as it is, or a line feed longer. -/
structure Respects (a b : List Char) : Prop where
  extracts : (segments (a ++ b)).map Segment.extract =
    (segments a).map Segment.extract ++ (segments b).map Segment.extract
  preamble : preamble (a ++ b) = preamble a ∨ preamble (a ++ b) = preamble a ++ ['\n']

section Respects

variable {line rest b : List Char}

theorem split_lineFeed_tagged (tagged : Tag.lead <+: b) :
    split ('\n' :: b) = (['\n'], segments b) := by
  have whole := split_append_of_tagFree (a := ['\n']) (by decide) (by decide) b
  rwa [preamble_of_tagged tagged] at whole

/-- A line that was not ended is ended by the line feed. -/
theorem respects_of_line (free : '\n' ∉ line) (tagged : Tag.lead <+: b) :
    Respects line ('\n' :: b) := by
  have behind := segments_of_split (split_lineFeed_tagged tagged)
  rcases split_line_cases free with ⟨tag, alone, before⟩ | ⟨alone, before⟩
  · have parts := before b
    rw [preamble_of_tagged tagged] at parts
    constructor
    · rw [segments_of_split parts, segments_of_split alone, behind, List.map_cons,
        Segment.extract_tagEnded]
      rfl
    · rw [preamble_of_split parts, preamble_of_split alone]
      exact Or.inl rfl
  · have parts := before b
    rw [preamble_of_tagged tagged, List.append_nil] at parts
    constructor
    · rw [segments_of_split parts, segments_of_split alone, behind]
      rfl
    · rw [preamble_of_split parts, preamble_of_split alone]
      exact Or.inr rfl

/-- A line in front of a text changes nothing about what follows the text. -/
theorem Respects.cons_line (free : '\n' ∉ line) (respects : Respects rest b) :
    Respects (line ++ '\n' :: rest) b := by
  obtain ⟨behind, start⟩ := respects
  have shape : line ++ '\n' :: rest ++ b = line ++ '\n' :: (rest ++ b) := by
    rw [List.append_assoc, List.cons_append]
  rcases split_line_cases free with ⟨tag, -, before⟩ | ⟨-, before⟩
  · -- The preamble behind a tag line is the body of its segment.
    have body : Segment.extract ⟨tag ++ ['\n'], Log.preamble (rest ++ b)⟩ =
        Segment.extract ⟨tag ++ ['\n'], Log.preamble rest⟩ := by
      rcases start with same | longer
      · rw [same]
      · rw [longer, Segment.extract_bodyEnded]
    constructor
    · rw [shape, segments_of_split (before (rest ++ b)), segments_of_split (before rest),
        List.map_cons, List.map_cons, List.cons_append, body, behind]
    · rw [shape, preamble_of_split (before (rest ++ b)), preamble_of_split (before rest)]
      exact Or.inl rfl
  · constructor
    · rw [shape, segments_of_split (before (rest ++ b)), segments_of_split (before rest), behind]
    · rw [shape, preamble_of_split (before (rest ++ b)), preamble_of_split (before rest)]
      rcases start with same | longer
      · exact Or.inl (by rw [same])
      · exact Or.inr (by rw [longer, List.append_assoc _ _ ['\n']])

theorem respects_nil (a : List Char) : Respects a [] := by
  constructor
  · rw [List.append_nil]
    exact (List.append_nil _).symm
  · rw [List.append_nil]
    exact Or.inl rfl

/-- A tag line respects any text that it does not follow on the same line. -/
theorem respects_tagged (tagged : Tag.lead <+: b) (a : List Char) : Respects a ('\n' :: b) := by
  induction a using Text.lines_induction with
  | empty => exact respects_of_line List.not_mem_nil tagged
  | opened line nonempty free => exact respects_of_line free tagged
  | ended line rest free ih => exact ih.cons_line free

end Respects

/-! ## Readings -/

/-- What is listed of segments by their extracts is listed of one text after the other. -/
theorem Respects.filterMap_segments {β : Type} {f : Segment → Option β}
    (factors : Function.FactorsThrough f Segment.extract) {a b : List Char}
    (respects : Respects a b) :
    (segments (a ++ b)).filterMap f = (segments a).filterMap f ++ (segments b).filterMap f := by
  rw [← List.filterMap_append]
  apply filterMap_eq_of_extracts factors
  rw [List.map_append]
  exact respects.extracts

/-- Both readings go on where that of the text in front ends. -/
theorem Respects.readings {a b : List Char} (respects : Respects a b) :
    read (a ++ b) = read a ++ read b ∧
      (reconcile (a ++ b)).completed = (reconcile a).completed ++ (reconcile b).completed ∧
      (reconcile (a ++ b)).missing = (reconcile a).missing ++ (reconcile b).missing ∧
      (reconcile (a ++ b)).faults = (reconcile a).faults ++ (reconcile b).faults := by
  have fates {β : Type} (f : Fate → Option β) :
      Function.FactorsThrough (f ∘ Segment.fate) Segment.extract :=
    fun _ _ same => congrArg f (Segment.fate_factors same)
  rw [reconcile_eq, reconcile_eq, reconcile_eq]
  refine ⟨?_, ?_, ?_, ?_⟩
  · exact respects.filterMap_segments Segment.record?_factors
  · exact respects.filterMap_segments (fates Fate.completed?)
  · exact respects.filterMap_segments (fates Fate.missing?)
  · exact respects.filterMap_segments (fates Fate.fault?)

/-- **A log is read by itself, whatever stands in front of it.**  Behind any text, however it
ends, a log that begins on a line of its own tells what it tells alone, and the text tells what
it told before. -/
theorem read_append (a b : List Char) (opening : "\nBENCHMARK ".toList <+: b) :
    read (a ++ b) = read a ++ read b ∧
      (reconcile (a ++ b)).completed = (reconcile a).completed ++ (reconcile b).completed ∧
      (reconcile (a ++ b)).missing = (reconcile a).missing ++ (reconcile b).missing ∧
      (reconcile (a ++ b)).faults = (reconcile a).faults ++ (reconcile b).faults := by
  obtain ⟨rest, rfl⟩ := opening
  have tagged : Tag.lead <+: Tag.lead ++ rest := List.prefix_append Tag.lead rest
  exact (respects_tagged tagged a).readings

/-- A log that was cut off in the line of a time, below a tag that was cut off as well. -/
theorem read_append_cutOff :
    let t : Tag := ⟨"d", .mixed, 1, 2, 0⟩
    let a := "BENCHMARK \x7b\"dri\nBenchmark time: 5\r".toList
    let b := '\n' :: t.line ++ "\nBenchmark time: 7 ms".toList
    "\nBENCHMARK ".toList <+: b ∧
      read (a ++ b) = [.error (.malformedTag "\x7b\"dri".toList), .ok ⟨t, 7⟩] := by
  intro t a b
  have opening : "\nBENCHMARK ".toList <+: b := by decide
  have cut : read a = [.error (.malformedTag "\x7b\"dri".toList)] := by decide +kernel
  have whole : read b = [.ok ⟨t, 7⟩] := by decide +kernel
  refine ⟨opening, ?_⟩
  rw [(read_append a b opening).1, cut, whole]
  rfl

end Log

end BenchCampaign
