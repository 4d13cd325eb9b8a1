import BenchCampaign.CommandLine.Drawing
import BenchCampaign.CommandLine.Ingest
import BenchCampaign.Proofs.Log.Transcript
import BenchCampaign.Proofs.Text.Utf8

/-!
# From one command to the next

Tags go from a campaign to the command that reads its log, and records from there to the command
that draws a chart.  Nothing is lost on either way, whatever the names of the drivers are.

* `Log.readAll_timed`: a run that reports its time makes the record of its tag.
* `CommandLine.DrawCommand.loadRecords_recordLines`: records are loaded as they were written.
* `CommandLine.encodings_readBack`: both ways together.
-/

namespace BenchCampaign

/-! ## Times -/

namespace Log

theorem time?_toDigits (n : UInt64) : time? (Nat.toDigits 10 n.toNat) = some n := by
  have fits : n.toNat < UInt64.size := n.toNat_lt
  unfold time?
  dsimp only
  split
  · next rest signed =>
    have digit := Decimal.isDigit_toDigits (n := n.toNat) (c := '+') (by simp [signed])
    exact absurd digit (by decide)
  · rw [Decimal.natural?_toDigits, Option.bind_some, if_pos fits, UInt64.ofNat_toNat]

/-- The line on which a runner reports a time, without its line feed. -/
def timeLine (n : UInt64) : List Char :=
  timeMarker ++ (Nat.toDigits 10 n.toNat ++ " ms".toList)

theorem lineFeed_notMem_reported (n : UInt64) :
    '\n' ∉ Nat.toDigits 10 n.toNat ++ " ms".toList := by
  rw [List.mem_append]
  rintro (digit | unit)
  · exact Json.lineFeed_notMem_toDigits _ digit
  · exact absurd unit (by decide)

/-- A run that writes its time and nothing else. -/
def Entry.timed (r : Record) : Entry := ⟨r.tag, timeLine r.time ++ ['\n']⟩

theorem timeWord?_timed (r : Record) :
    (Entry.timed r).timeWord? = some (Nat.toDigits 10 r.time.toNat) := by
  have visible : ∀ c ∈ Nat.toDigits 10 r.time.toNat, Text.isBlank c = false :=
    fun c member => Text.isBlank_of_isDigit (Decimal.isDigit_toDigits member)
  have unit : " ms".toList = ' ' :: "ms".toList := by decide
  unfold Entry.timeWord? Entry.timed timeLine
  rw [List.append_assoc, Text.after?_append_left, Option.map_some,
    Text.takeWhile_line (lineFeed_notMem_reported r.time), unit,
    Text.firstWord_append_cons Nat.toDigits_ne_nil visible (by decide)]

theorem tagFree_timed (r : Record) : TagFree (Entry.timed r).output := by
  have free : '\n' ∉ timeLine r.time := by
    unfold timeLine
    rw [List.mem_append]
    rintro (marker | reported)
    · exact absurd marker (by decide)
    · exact lineFeed_notMem_reported r.time reported
  refine (tagFree_line free []).mpr ⟨?_, tagFree_nil⟩
  -- The words of both lines differ in their second letters.
  rintro ⟨rest, eq⟩
  have letters := congrArg (·[1]?) eq
  have lead : (Tag.lead ++ rest)[1]? = some 'E' := rfl
  have marker : (timeLine r.time ++ ['\n'])[1]? = some 'e' := rfl
  rw [lead, marker] at letters
  exact absurd letters (by decide)

/-- A run that reports its time makes the record of its tag. -/
theorem readAll_timed (r : Record) : readAll (Entry.timed r).text = .ok [r] := by
  have shape : (Entry.timed r).text = transcript [Entry.timed r] := by
    unfold transcript
    rw [List.flatMap_singleton]
  have frees : ∀ e ∈ [Entry.timed r], TagFree e.output := by
    rw [List.forall_mem_singleton]
    exact tagFree_timed r
  have record : ((Entry.timed r).segment []).record? = some (.ok r) := by
    unfold Segment.record?
    rw [Entry.timeToken?_segment, timeWord?_timed, Option.map_some, Entry.recordAt_segment,
      time?_toDigits]
    rfl
  unfold readAll read
  rw [shape, segments_transcript frees, entrySegments, entrySegments,
    List.filterMap_cons_some record]
  rfl

end Log

/-! ## Commands -/

namespace CommandLine

/-- Records are loaded as they were written. -/
theorem DrawCommand.loadRecords_recordLines {h : Host} {path : String} {rs : List Record}
    (content : h.read path = .ok (IngestCommand.recordLines rs)) :
    loadRecords h path = .ok rs := by
  unfold loadRecords
  rw [content]
  dsimp only
  unfold IngestCommand.recordLines
  rw [Text.ofUtf8?_utf8]
  dsimp only
  rw [Record.readLines?_lines]

/-- **Tags and records survive their texts.**  Whatever the name of its driver is, a tag stays
on one line, and a time that is reported below it is read as the time of its run; records are
loaded from the lines that they were written to, none lost and in their order. -/
theorem encodings_readBack :
    (∀ t : Tag, '\n' ∉ t.line ∧ "BENCHMARK ".toList <+: t.line ∧
      ∀ time : UInt64,
        Log.readAll ('\n' :: t.line ++ "\nBenchmark time: ".toList ++
          Nat.toDigits 10 time.toNat ++ " ms\n".toList) = .ok [⟨t, time⟩]) ∧
    ∀ (rs : List Record) (h : Host) (path : String),
      h.read path = .ok (Text.utf8 (rs.flatMap fun r => r.json ++ ['\n'])) →
        DrawCommand.loadRecords h path = .ok rs := by
  refine ⟨fun t => ⟨t.lineFeed_notMem_line, List.prefix_append _ _, fun time => ?_⟩,
    fun rs h path content => DrawCommand.loadRecords_recordLines content⟩
  have text : '\n' :: t.line ++ "\nBenchmark time: ".toList ++
      Nat.toDigits 10 time.toNat ++ " ms\n".toList = (Log.Entry.timed ⟨t, time⟩).text := by
    have below : "\nBenchmark time: ".toList = '\n' :: Log.timeMarker := by decide
    have unit : " ms\n".toList = " ms".toList ++ ['\n'] := by decide
    unfold Log.Entry.text Log.Entry.timed Log.timeLine Tag.block
    rw [below, unit]
    simp only [List.append_assoc, List.cons_append, List.nil_append]
  rw [text]
  exact Log.readAll_timed ⟨t, time⟩

/-- A name with quotes, a line feed and a tag of its own. -/
theorem loadRecords_tagInName :
    let r : Record := ⟨⟨"\"a\"\nBENCHMARK b", .inserts, 1, 2, 3⟩, 4⟩
    let file : RegularFile := ⟨0o644, .bytes (Text.utf8 (r.json ++ ['\n']))⟩
    let h : Host := ⟨⟨[(["times"], .file file)]⟩, [], []⟩
    h.read "times" = .ok (Text.utf8 (r.json ++ ['\n'])) ∧
      DrawCommand.loadRecords h "times" = .ok [r] :=
  ⟨rfl, encodings_readBack.2 [_] _ "times" rfl⟩

end CommandLine

end BenchCampaign
