import BenchCampaign.Proofs.Log.Agreement
import BenchCampaign.Proofs.Log.Concatenation
import BenchCampaign.Proofs.Log.Transcript

/-!
# Transcripts that were cut off

A transcript can end anywhere: within the tag of a run, or within what the run wrote.  The runs
before that one are told of as they are in the whole transcript.  A tag that was cut off has no
time below it, and of a time's marker that was cut off nothing is read.  But a time has no end
mark of its own, so that the beginning of a time is read as a time.

* `prefix_transcript`: where a transcript can end.
* `Entry.CutInTime`: what a run wrote ends within the word of its time.
* `Entry.fate_of_prefix`: only then the run is told of with another time.
* `completed_of_prefix`: the records of a transcript that was cut off.
-/

namespace BenchCampaign

namespace Log

/-! ## Outputs that were cut off -/

/-- Of what a run wrote there is the beginning up to a part of the word that the run reports as
its time: it stands behind the first marker, with nothing but white space between them. -/
structure Entry.CutInTime (e : Entry) (seen word : List Char) : Prop where
  seen_prefix : seen <+: e.output
  ends : ∃ gap, Text.after? timeMarker seen = some (gap ++ word) ∧
    ∀ c ∈ gap, Text.isBlank c = true ∧ c ≠ '\n'
  unseen : ∃ more, more ≠ [] ∧ e.timeWord? = some (word ++ more)

/-- An empty word is no time. -/
theorem time?_nil : time? [] = none := by decide

namespace Entry

variable {tag : Tag} {output seen word : List Char}

/-- The word of a time is whole, unless the text ends with it. -/
theorem timeWord?_of_prefix (cut : seen <+: output)
    (found : timeWord? ⟨tag, seen⟩ = some word) (nonempty : word ≠ []) :
    timeWord? ⟨tag, output⟩ = some word ∨ CutInTime ⟨tag, output⟩ seen word := by
  obtain ⟨behind, marked, first⟩ := Option.map_eq_some_iff.mp found
  obtain ⟨rest, rfl⟩ := id cut
  have later : timeWord? ⟨tag, seen ++ rest⟩ =
      some (Text.firstWord ((behind ++ rest).takeWhile (· ≠ '\n'))) := by
    unfold timeWord?
    rw [Text.after?_append_of_some marked rest, Option.map_some]
  rw [later]
  by_cases feed : '\n' ∈ behind
  · -- The marker's line ends within the text.
    obtain ⟨line, below, rfl, free⟩ := List.eq_append_cons_of_mem feed
    rw [Text.takeWhile_line free] at first
    rw [List.append_assoc, List.cons_append, Text.takeWhile_line free, first]
    exact Or.inl rfl
  · have all := List.takeWhile_eq_self_iff.mp (Text.takeWhile_of_notMem feed)
    rw [Text.takeWhile_of_notMem feed] at first
    rw [List.takeWhile_append_of_pos all]
    rcases Text.firstWord_append_cases (first ▸ nonempty) (rest.takeWhile (· ≠ '\n')) with
      same | ⟨ended, longer⟩
    · rw [same, first]
      exact Or.inl rfl
    · rw [first] at ended longer
      by_cases none : (rest.takeWhile (· ≠ '\n')).takeWhile (fun c => !Text.isBlank c) = []
      · rw [longer, none, List.append_nil]
        exact Or.inl rfl
      · refine Or.inr ⟨cut, ⟨behind.takeWhile Text.isBlank, ?_, ?_⟩, ⟨_, none, ?_⟩⟩
        · rw [marked, ← ended]
        · intro c member
          have blank := List.mem_takeWhile_imp member
          exact ⟨blank, fun eq => feed (eq ▸ (List.takeWhile_prefix _).subset member)⟩
        · rw [later, List.takeWhile_append_of_pos all, longer]

theorem fate_eq_completed_iff {e : Entry} {record : Record} :
    e.fate = .completed record ↔
      record.tag = e.tag ∧ ∃ word, e.timeWord? = some word ∧ time? word = some record.time := by
  unfold fate
  cases e.timeWord? with
  | none => simp
  | some word =>
    cases told : time? word with
    | none => simp [told]
    | some time =>
      obtain ⟨tag, reported⟩ := record
      simp [told, eq_comm]

/-- A run that is told of by the beginning of what it wrote is told of alike by all of it, unless
the beginning ends within the word of its time. -/
theorem fate_of_prefix {e : Entry} {record : Record} (cut : seen <+: e.output)
    (completed : fate ⟨e.tag, seen⟩ = .completed record) :
    e.fate = .completed record ∨
      ∃ word, e.CutInTime seen word ∧ record.tag = e.tag ∧ time? word = some record.time := by
  obtain ⟨own, word, found, told⟩ := fate_eq_completed_iff.mp completed
  have nonempty : word ≠ [] := by
    rintro rfl
    rw [time?_nil] at told
    cases told
  rcases timeWord?_of_prefix cut found nonempty with whole | within
  · exact Or.inl (fate_eq_completed_iff.mpr ⟨own, word, whole, told⟩)
  · exact Or.inr ⟨word, within, own, told⟩

/-- A line behind what a run wrote is not looked at, if it has no marker. -/
theorem timeWord?_append_line {line : List Char} (unmarked : Text.after? timeMarker line = none) :
    timeWord? ⟨tag, output ++ '\n' :: line⟩ = timeWord? ⟨tag, output⟩ := by
  unfold timeWord?
  dsimp only
  rw [Text.after?_append_cons (by decide) (by decide), unmarked, Option.or_none, Option.map_map]
  congr 1
  funext rest
  exact congrArg Text.firstWord (Text.takeWhile_append_cons (by decide) rest line)

end Entry

/-! ## Where a transcript can end -/

theorem cutOff_append_cases {cut a b : List Char} (cutOff : cut <+: a ++ b) :
    cut <+: a ∨ ∃ more, more <+: b ∧ cut = a ++ more := by
  rcases List.prefix_or_prefix_of_prefix cutOff (List.prefix_append a b) with within | ⟨more, rfl⟩
  · exact Or.inl within
  · exact Or.inr ⟨more, (List.prefix_append_right_inj a).mp cutOff, rfl⟩

/-- A text that ends within what stands for a run ends within its tag, or within its output. -/
theorem Entry.prefix_text {e : Entry} {piece : List Char} (cutOff : piece <+: e.text) :
    piece = [] ∨ (∃ part, part <+: e.tag.line ∧ piece = '\n' :: part) ∨
      ∃ seen, seen <+: e.output ∧ piece = e.tag.block ++ seen := by
  rcases cutOff_append_cases cutOff with within | below
  · cases piece with
    | nil => exact Or.inl rfl
    | cons c part =>
      have shape : e.tag.block = '\n' :: (e.tag.line ++ ['\n']) := by simp [Tag.block]
      rw [shape] at within
      obtain ⟨rfl, begins⟩ := List.cons_prefix_cons.mp within
      rcases List.prefix_concat_iff.mp begins with whole | inTag
      · refine Or.inr (Or.inr ⟨[], List.nil_prefix, ?_⟩)
        rw [whole, shape, List.append_nil]
      · exact Or.inr (Or.inl ⟨part, inTag, rfl⟩)
  · exact Or.inr (Or.inr below)

/-- A transcript ends behind some of its runs, or within the next one. -/
theorem prefix_transcript {cut : List Char} {es : List Entry} (cutOff : cut <+: transcript es) :
    ∃ before after, es = before ++ after ∧
      (cut = transcript before ∨
        ∃ e others, after = e :: others ∧
          ((∃ part, part <+: e.tag.line ∧ cut = transcript before ++ '\n' :: part) ∨
            ∃ seen, seen <+: e.output ∧ cut = transcript before ++ (e.tag.block ++ seen))) := by
  induction es generalizing cut with
  | nil => exact ⟨[], [], rfl, Or.inl (List.prefix_nil.mp cutOff)⟩
  | cons e es ih =>
    rcases cutOff_append_cases cutOff with within | ⟨more, later, rfl⟩
    · refine ⟨[], e :: es, rfl, ?_⟩
      rcases e.prefix_text within with none | inTag | inOutput
      · exact Or.inl none
      · exact Or.inr ⟨e, es, rfl, Or.inl inTag⟩
      · exact Or.inr ⟨e, es, rfl, Or.inr inOutput⟩
    · obtain ⟨before, after, rfl, ends⟩ := ih later
      have front : transcript (e :: before) = e.text ++ transcript before := rfl
      refine ⟨e :: before, after, rfl, ?_⟩
      rw [front]
      rcases ends with rfl | ⟨next, others, rfl, ⟨part, inTag, rfl⟩ | ⟨seen, inOutput, rfl⟩⟩
      · exact Or.inl rfl
      · exact Or.inr ⟨next, others, rfl,
          Or.inl ⟨part, inTag, (List.append_assoc ..).symm⟩⟩
      · exact Or.inr ⟨next, others, rfl,
          Or.inr ⟨seen, inOutput, (List.append_assoc ..).symm⟩⟩

/-! ## Texts without tag lines -/

theorem TagFree.append_line {text line : List Char} (textFree : TagFree text)
    (untagged : ¬ IsTagLine line) (free : '\n' ∉ line) : TagFree (text ++ '\n' :: line) := by
  rw [List.append_cons, tagFree_append_iff (Text.isWhole_append_lineFeed text)]
  refine ⟨textFree.append_lineFeed, ?_⟩
  by_cases empty : line = []
  · rw [empty]
    exact tagFree_nil
  · exact (tagFree_opened empty free).mpr untagged

/-- The beginning of a text without tag lines has none, either. -/
theorem TagFree.of_prefix {front text : List Char} (free : TagFree text)
    (cutOff : front <+: text) : TagFree front := by
  induction front using Text.lines_induction generalizing text with
  | empty => exact tagFree_nil
  | opened line nonempty notMem =>
    obtain ⟨rest, rfl⟩ := cutOff
    refine (tagFree_opened nonempty notMem).mpr fun tagged => ?_
    by_cases feed : '\n' ∈ rest
    · obtain ⟨more, below, rfl, freeMore⟩ := List.eq_append_cons_of_mem feed
      have freeLine : '\n' ∉ line ++ more := by simp [notMem, freeMore]
      rw [← List.append_assoc] at free
      obtain ⟨untagged, -⟩ := (tagFree_line freeLine below).mp free
      exact untagged (isTagLine_append_lineFeed.mpr (tagged.trans (List.prefix_append line more)))
    · have freeLine : '\n' ∉ line ++ rest := by simp [notMem, feed]
      have longer : line ++ rest ≠ [] := List.append_ne_nil_of_left_ne_nil nonempty rest
      exact (tagFree_opened longer freeLine).mp free (tagged.trans (List.prefix_append line rest))
  | ended line rest notMem ih =>
    obtain ⟨more, rfl⟩ := cutOff
    rw [List.append_assoc, List.cons_append] at free
    obtain ⟨untagged, tail⟩ := (tagFree_line notMem _).mp free
    exact (tagFree_line notMem rest).mpr ⟨untagged, ih tail (List.prefix_append rest more)⟩

/-! ## Records of a transcript -/

theorem completed_transcript {es : List Entry} (frees : ∀ e ∈ es, TagFree e.output) :
    (reconcile (transcript es)).completed = es.filterMap fun e => e.fate.completed? := by
  rw [reconcile_transcript frees, Reconciliation.ofFates_eq, List.filterMap_map]
  rfl

/-- The records of the first runs are the first records. -/
theorem completed_front {before after : List Entry}
    (frees : ∀ e ∈ before ++ after, TagFree e.output) :
    (reconcile (transcript (before ++ after))).completed =
      (reconcile (transcript before)).completed ++ after.filterMap fun e => e.fate.completed? := by
  rw [completed_transcript (List.forall_mem_append.mp frees).1, completed_transcript frees,
    List.filterMap_append]

theorem completed_concat {es : List Entry} {e : Entry} (frees : ∀ e ∈ es, TagFree e.output)
    (free : TagFree e.output) :
    (reconcile (transcript (es ++ [e]))).completed =
      (reconcile (transcript es)).completed ++ e.fate.completed?.toList := by
  have all : ∀ other ∈ es ++ [e], TagFree other.output :=
    List.forall_mem_append.mpr ⟨frees, List.forall_mem_singleton.mpr free⟩
  rw [completed_front all, List.filterMap_eq_flatMap_toList, List.flatMap_singleton]

/-! ## Tags that were cut off -/

/-- Below a line there is nothing, so that it makes no record. -/
theorem completed_line {line : List Char} (free : '\n' ∉ line) :
    (reconcile line).completed = [] := by
  rw [reconcile_eq]
  rcases split_line_cases free with ⟨tag, alone, -⟩ | ⟨alone, -⟩
  · have untimed : Segment.timeToken? ⟨tag, []⟩ = none := rfl
    have unrecorded : (Segment.fate ⟨tag, []⟩).completed? = none := by
      rw [Segment.completed?_fate, Segment.record?_of_untimed untimed, Option.bind_none]
    rw [segments_of_split alone]
    exact List.filterMap_cons_none unrecorded
  · rw [segments_of_split alone]
    rfl

/-- The beginning of a tag line is a tag line, or so short that it holds no marker. -/
theorem unmarked_of_untagged {tag : Tag} {part : List Char} (inTag : part <+: tag.line)
    (untagged : ¬ IsTagLine part) : Text.after? timeMarker part = none := by
  rcases List.prefix_or_prefix_of_prefix inTag (List.prefix_append Tag.lead tag.json) with
    short | long
  · rw [Option.eq_none_iff_forall_ne_some]
    intro rest found
    obtain ⟨front, whole⟩ := Text.exists_append_of_after? found
    have inLead := short.length_le
    have lead : Tag.lead.length = 10 := rfl
    have marker : timeMarker.length = 16 := rfl
    rw [whole, List.length_append, List.length_append] at inLead
    omega
  · exact (untagged long).elim

/-- A tag that was cut off changes no record in front of it, and has none. -/
theorem completed_behind_cutTag {es : List Entry} {tag : Tag} {part : List Char}
    (frees : ∀ e ∈ es, TagFree e.output) (inTag : part <+: tag.line) :
    (reconcile (transcript es ++ '\n' :: part)).completed =
      (reconcile (transcript es)).completed := by
  have free : '\n' ∉ part := fun member => tag.lineFeed_notMem_line (inTag.subset member)
  by_cases tagged : IsTagLine part
  · -- The tag can be told from a line of the run before it.
    obtain ⟨-, completed, -, -⟩ := (respects_tagged tagged (transcript es)).readings
    have alone : (reconcile ('\n' :: part)).completed = (reconcile part).completed := by
      rw [reconcile_eq, reconcile_eq, segments_of_split (split_lineFeed_tagged tagged)]
    rw [completed, alone, completed_line free, List.append_nil]
  · -- Otherwise the line goes to the run before it, if there is one.
    rcases List.eq_nil_or_concat es with rfl | ⟨before, e, rfl⟩
    · have all : TagFree ('\n' :: part) := tagFree_nil.append_line tagged free
      have none := segments_of_split (split_of_tagFree all)
      rw [reconcile_eq, transcript, List.flatMap_nil, List.nil_append, none]
      rfl
    · rw [List.concat_eq_append] at frees ⊢
      obtain ⟨freesBefore, freeLast⟩ := List.forall_mem_append.mp frees
      have freeOutput := List.forall_mem_singleton.mp freeLast
      let longer : Entry := ⟨e.tag, e.output ++ '\n' :: part⟩
      have shape : transcript (before ++ [e]) ++ '\n' :: part =
          transcript (before ++ [longer]) := by
        simp [transcript, Entry.text, longer]
      have freeLonger : TagFree longer.output := freeOutput.append_line tagged free
      have same : longer.fate = e.fate := by
        unfold Entry.fate
        rw [Entry.timeWord?_append_line (unmarked_of_untagged inTag tagged)]
      rw [shape, completed_concat freesBefore freeLonger, completed_concat freesBefore freeOutput,
        same]

/-! ## Records of a transcript that was cut off -/

/-- A run of which the output was cut off is told of by what is there of it. -/
theorem completed_behind_cutOutput {es : List Entry} {e : Entry} {seen : List Char}
    (frees : ∀ e ∈ es, TagFree e.output) (free : TagFree e.output) (cutOff : seen <+: e.output) :
    (reconcile (transcript es ++ (e.tag.block ++ seen))).completed =
      (reconcile (transcript es)).completed ++
        (Entry.fate ⟨e.tag, seen⟩).completed?.toList := by
  have shape : transcript es ++ (e.tag.block ++ seen) = transcript (es ++ [⟨e.tag, seen⟩]) := by
    simp [transcript, Entry.text]
  rw [shape, completed_concat frees (free.of_prefix cutOff)]

/-- The records of a transcript that was cut off are the first ones of the whole transcript,
unless it was cut off within the word of a time: then the run has a record with what is there of
its time. -/
theorem completed_of_prefix {es : List Entry} {cut : List Char}
    (frees : ∀ e ∈ es, TagFree e.output) (cutOff : cut <+: transcript es) :
    (reconcile cut).completed <+: (reconcile (transcript es)).completed ∨
      ∃ before e after seen word record, es = before ++ e :: after ∧
        cut = transcript before ++ (e.tag.block ++ seen) ∧ e.CutInTime seen word ∧
        record.tag = e.tag ∧ time? word = some record.time ∧
        (reconcile (transcript before)).completed <+: (reconcile (transcript es)).completed ∧
        (reconcile cut).completed = (reconcile (transcript before)).completed ++ [record] := by
  obtain ⟨before, after, rfl, ends⟩ := prefix_transcript cutOff
  have whole := completed_front frees
  have front := whole ▸ List.prefix_append _ _
  obtain ⟨freesBefore, freesAfter⟩ := List.forall_mem_append.mp frees
  rcases ends with rfl | ⟨e, others, rfl, ⟨part, inTag, rfl⟩ | ⟨seen, inOutput, rfl⟩⟩
  · exact Or.inl front
  · rw [completed_behind_cutTag freesBefore inTag]
    exact Or.inl front
  · have free := freesAfter e List.mem_cons_self
    rw [completed_behind_cutOutput freesBefore free inOutput]
    cases told : Entry.fate ⟨e.tag, seen⟩ with
    | missing tag => exact Or.inl ((List.append_nil _).symm ▸ front)
    | faulty fault => exact Or.inl ((List.append_nil _).symm ▸ front)
    | completed record =>
      rcases Entry.fate_of_prefix inOutput told with same | ⟨word, within, own, time⟩
      · have first : (e :: others).filterMap (fun e => e.fate.completed?) =
            record :: others.filterMap fun e => e.fate.completed? :=
          List.filterMap_cons_some (congrArg Fate.completed? same)
        rw [whole, first]
        exact Or.inl ((List.prefix_append_right_inj _).mpr (List.prefix_append [record] _))
      · exact Or.inr ⟨before, e, others, seen, word, record, rfl, rfl, within, own, time, front,
          rfl⟩

end Log

end BenchCampaign
