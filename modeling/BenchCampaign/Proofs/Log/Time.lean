import BenchCampaign.Proofs.Decimal.Numeral
import BenchCampaign.Proofs.Log.Fates
import BenchCampaign.Proofs.Text.Occurrence

/-!
# The time of a segment

A segment reports a time where the first marker of its body is followed, on its line and behind
white space, by a natural number of 64 bits that stands as a word of its own.  Everything else
behind a marker is a fault, which names that word; and a tag that cannot be read is a fault before
any time is looked at.

* `SpellsTime`, `ReportsTime`: the grammar of a time, and of a body that reports one.
* `ReportsWord`: the first word on the line of the first marker.
* `Segment.record?_grammar`: what a segment reports, by what stands in it.
-/

namespace BenchCampaign

namespace Log

/-! ## Numbers -/

/-- A word is a number of 64 bits in decimal digits, with or without a plus sign. -/
def SpellsTime (word : List Char) (time : UInt64) : Prop :=
  ∃ digits, (word = digits ∨ word = '+' :: digits) ∧ digits ≠ [] ∧
    (∀ c ∈ digits, c.isDigit = true) ∧ Nat.ofDigitChars 10 digits 0 = time.toNat

/-- The times that are read are those that are spelled. -/
theorem time?_eq_some_iff {word : List Char} {time : UInt64} :
    time? word = some time ↔ SpellsTime word time := by
  unfold time?
  rw [Decimal.bind_uint64_eq_some_iff, Decimal.natural?_eq_some_iff]
  constructor
  · intro read
    split at read
    next digits => exact ⟨digits, Or.inr rfl, read⟩
    next => exact ⟨word, Or.inl rfl, read⟩
  · rintro ⟨digits, rfl | rfl, nonempty, decimal, value⟩
    · split
      next rest =>
        have sign := decimal '+' List.mem_cons_self
        exact absurd sign (by decide)
      next => exact ⟨nonempty, decimal, value⟩
    · exact ⟨nonempty, decimal, value⟩

theorem SpellsTime.visible {word : List Char} {time : UInt64} (spells : SpellsTime word time) :
    word ≠ [] ∧ ∀ c ∈ word, Text.isBlank c = false := by
  obtain ⟨digits, shape, nonempty, decimal, -⟩ := spells
  have shown : ∀ c ∈ digits, Text.isBlank c = false :=
    fun c member => Text.isBlank_of_isDigit (decimal c member)
  rcases shape with rfl | rfl
  · exact ⟨nonempty, shown⟩
  · exact ⟨List.cons_ne_nil '+' digits, List.forall_mem_cons.mpr ⟨by decide, shown⟩⟩

/-! ## Bodies -/

/-- A body that reports a time: its first marker, white space on the line of the marker, the
number, and white space or nothing behind it. -/
def ReportsTime (body : List Char) (time : UInt64) : Prop :=
  ∃ front gap word rest, body = front ++ timeMarker ++ gap ++ word ++ rest ∧
    ¬ timeMarker <:+: front ∧ (∀ c ∈ gap, Text.isBlank c = true ∧ c ≠ '\n') ∧
    SpellsTime word time ∧ Text.BeginsBlank rest

/-- A body with a marker, and the first word on the rest of the first marker's line. -/
def ReportsWord (body word : List Char) : Prop :=
  ∃ front line below, body = front ++ timeMarker ++ line ++ below ∧ ¬ timeMarker <:+: front ∧
    '\n' ∉ line ∧ (∀ c ∈ below.head?, c = '\n') ∧ Text.IsFirstWord line word

theorem after?_timeMarker_eq_some_iff {body rest : List Char} :
    Text.after? timeMarker body = some rest ↔
      ∃ front, body = front ++ timeMarker ++ rest ∧ ¬ timeMarker <:+: front := by
  have once : 'B' ∉ "enchmark time: ".toList := by decide
  simp only [List.append_assoc]
  exact Text.after?_eq_some_iff once

/-- A text begins with a line, of which the end stands below it. -/
theorem exists_line_below (text : List Char) :
    ∃ line below, text = line ++ below ∧ '\n' ∉ line ∧ ∀ c ∈ below.head?, c = '\n' := by
  by_cases feed : '\n' ∈ text
  · obtain ⟨line, below, whole, free⟩ := List.eq_append_cons_of_mem feed
    exact ⟨line, '\n' :: below, whole, free, fun c first => (Option.some.inj first).symm⟩
  · exact ⟨text, [], (List.append_nil text).symm, feed, nofun⟩

theorem takeWhile_line_below {line below : List Char} (free : '\n' ∉ line)
    (ended : ∀ c ∈ below.head?, c = '\n') :
    (line ++ below).takeWhile (· ≠ '\n') = line := by
  cases below with
  | nil => rw [List.append_nil, Text.takeWhile_of_notMem free]
  | cons c below =>
    obtain rfl := ended c rfl
    exact Text.takeWhile_line free below

namespace Segment

variable {s : Segment}

theorem timeToken?_eq_none_iff : s.timeToken? = none ↔ ¬ timeMarker <:+: s.body := by
  unfold timeToken?
  rw [Option.map_eq_none_iff, Text.after?_eq_none_iff]

/-- The word that is read as the time is the first one on the line of the first marker. -/
theorem timeToken?_eq_some_iff {word : List Char} :
    s.timeToken? = some word ↔ ReportsWord s.body word := by
  unfold timeToken?
  rw [Option.map_eq_some_iff]
  constructor
  · rintro ⟨rest, marked, first⟩
    obtain ⟨front, whole, absent⟩ := after?_timeMarker_eq_some_iff.mp marked
    obtain ⟨line, below, rfl, free, ended⟩ := exists_line_below rest
    rw [Text.firstWord_firstLine, takeWhile_line_below free ended] at first
    refine ⟨front, line, below, ?_, absent, free, ended, Text.isFirstWord_iff.mpr first⟩
    rw [whole, List.append_assoc _ line]
  · rintro ⟨front, line, below, whole, absent, free, ended, first⟩
    rw [List.append_assoc _ line] at whole
    refine ⟨line ++ below, after?_timeMarker_eq_some_iff.mpr ⟨front, whole, absent⟩, ?_⟩
    rw [Text.firstWord_firstLine, takeWhile_line_below free ended]
    exact Text.isFirstWord_iff.mp first

end Segment

theorem ReportsWord.unique {body word other : List Char} (reports : ReportsWord body word)
    (again : ReportsWord body other) : word = other := by
  have first := Segment.timeToken?_eq_some_iff (s := ⟨[], body⟩) |>.mpr reports
  have second := Segment.timeToken?_eq_some_iff (s := ⟨[], body⟩) |>.mpr again
  exact Option.some.inj (first.symm.trans second)

/-- A body reports a time if the first word on the marker's line spells it. -/
theorem reportsTime_iff {body : List Char} {time : UInt64} :
    ReportsTime body time ↔ ∃ word, ReportsWord body word ∧ SpellsTime word time := by
  constructor
  · rintro ⟨front, gap, word, rest, whole, absent, blank, spells, ends⟩
    obtain ⟨nonempty, visible⟩ := spells.visible
    obtain ⟨line, below, rfl, free, ended⟩ := exists_line_below rest
    have wordFree : '\n' ∉ word := fun member => absurd (visible '\n' member) (by decide)
    have gapFree : '\n' ∉ gap := fun member => (blank '\n' member).2 rfl
    refine ⟨word, ⟨front, gap ++ (word ++ line), below, ?_, absent, ?_, ended, gap, line, rfl,
      fun c member => (blank c member).1, visible, ?_, fun none => absurd none nonempty⟩, spells⟩
    · rw [whole]
      simp only [List.append_assoc]
    · simp only [List.mem_append, not_or]
      exact ⟨gapFree, wordFree, free⟩
    · cases line with
      | nil => exact nofun
      | cons c line => exact ends
  · rintro ⟨word, ⟨front, line, below, whole, absent, free, ended, gap, more, rfl, blank, visible,
      ends, -⟩, spells⟩
    refine ⟨front, gap, word, more ++ below, ?_, absent, fun c member => ⟨blank c member, ?_⟩,
      spells, ?_⟩
    · rw [whole]
      simp only [List.append_assoc]
    · rintro rfl
      exact free (List.mem_append_left _ member)
    · intro c first
      cases more with
      | nil =>
        rw [ended c first]
        decide
      | cons d more => exact ends c first

/-! ## What a segment reports -/

namespace Segment

variable {s : Segment}

theorem record?_eq_some_iff {result : Except Fault Record} :
    s.record? = some result ↔ ∃ word, ReportsWord s.body word ∧ s.recordAt word = result := by
  unfold record?
  simp only [Option.map_eq_some_iff, timeToken?_eq_some_iff]

/-- A tag that cannot be read spoils any time. -/
theorem recordAt_of_unread (unread : Tag.read? s.rawTag = none) (word : List Char) :
    s.recordAt word = .error (.malformedTag s.rawTag) := by
  unfold recordAt readTag
  rw [unread]
  rfl

theorem recordAt_of_read {tag : Tag} (read : Tag.read? s.rawTag = some tag) (word : List Char) :
    s.recordAt word =
      match time? word with
      | some time => .ok ⟨tag, time⟩
      | none => .error (.malformedTime s.rawTag word) := by
  unfold recordAt readTag
  rw [read]
  rfl

theorem record?_eq_none_iff : s.record? = none ↔ ¬ timeMarker <:+: s.body := by
  unfold record?
  rw [Option.map_eq_none_iff, timeToken?_eq_none_iff]

theorem exists_reportsWord_iff : (∃ word, ReportsWord s.body word) ↔ timeMarker <:+: s.body := by
  simp only [← timeToken?_eq_some_iff]
  rw [← Option.ne_none_iff_exists', ne_eq, timeToken?_eq_none_iff, not_not]

theorem record?_eq_malformedTag_iff {raw : List Char} :
    s.record? = some (.error (.malformedTag raw)) ↔
      timeMarker <:+: s.body ∧ Tag.read? s.rawTag = none ∧ raw = s.rawTag := by
  rw [record?_eq_some_iff, ← exists_reportsWord_iff]
  cases read : Tag.read? s.rawTag with
  | none =>
    simp only [recordAt_of_unread read, Except.error.injEq, Fault.malformedTag.injEq,
      exists_and_right, true_and, eq_comm]
  | some tag =>
    refine iff_of_false ?_ fun unread => nomatch unread.2.1
    rintro ⟨word, -, told⟩
    rw [recordAt_of_read read] at told
    cases shape : time? word <;> rw [shape] at told <;> cases told

theorem record?_eq_ok_iff {tag : Tag} {time : UInt64} :
    s.record? = some (.ok ⟨tag, time⟩) ↔
      Tag.read? s.rawTag = some tag ∧ ReportsTime s.body time := by
  rw [record?_eq_some_iff, reportsTime_iff]
  cases read : Tag.read? s.rawTag with
  | none =>
    refine iff_of_false ?_ fun read => nomatch read.1
    rintro ⟨word, -, told⟩
    rw [recordAt_of_unread read] at told
    cases told
  | some own =>
    simp only [recordAt_of_read read, ← time?_eq_some_iff, Option.some.injEq, ← exists_and_left]
    refine exists_congr fun word => ?_
    cases time? word with
    | none => exact iff_of_false (fun told => nomatch told.2) fun told => nomatch told.2.2
    | some value =>
      simp only [Except.ok.injEq, Record.mk.injEq, Option.some.injEq]
      exact and_left_comm

/-- A marker without a time is a fault that names the word in the time's place. -/
theorem record?_eq_malformedTime_iff {raw word : List Char} :
    s.record? = some (.error (.malformedTime raw word)) ↔
      (∃ tag, Tag.read? s.rawTag = some tag) ∧ (∀ time, ¬ ReportsTime s.body time) ∧
        raw = s.rawTag ∧ ReportsWord s.body word := by
  rw [record?_eq_some_iff]
  cases read : Tag.read? s.rawTag with
  | none =>
    refine iff_of_false ?_ fun ⟨⟨tag, read⟩, _⟩ => nomatch read
    rintro ⟨word, -, told⟩
    rw [recordAt_of_unread read] at told
    cases told
  | some tag =>
    simp only [recordAt_of_read read]
    constructor
    · rintro ⟨first, reports, told⟩
      cases unspelled : time? first with
      | some time => rw [unspelled] at told; cases told
      | none =>
        rw [unspelled] at told
        cases told
        refine ⟨⟨tag, rfl⟩, fun time reported => ?_, rfl, reports⟩
        obtain ⟨spelled, other, spells⟩ := reportsTime_iff.mp reported
        rw [other.unique reports, ← time?_eq_some_iff, unspelled] at spells
        cases spells
    · rintro ⟨-, unreported, rfl, reports⟩
      refine ⟨word, reports, ?_⟩
      cases spelled : time? word with
      | none => rfl
      | some time =>
        have spells := time?_eq_some_iff.mp spelled
        exact absurd (reportsTime_iff.mpr ⟨word, reports, spells⟩) (unreported time)

/-- What follows the line of a marker makes no difference. -/
theorem record?_append_line {tag front : List Char} (marked : timeMarker <:+: front)
    (below : List Char) : record? ⟨tag, front ++ '\n' :: below⟩ = record? ⟨tag, front⟩ := by
  obtain ⟨rest, found⟩ := Option.ne_none_iff_exists'.mp fun none =>
    Text.after?_eq_none_iff.mp none marked
  have sameWord : Text.firstWord (firstLine (rest ++ '\n' :: below)) =
      Text.firstWord (firstLine rest) := by
    rw [Text.firstWord_firstLine, Text.firstWord_firstLine,
      Text.takeWhile_append_cons (by decide) rest below]
  have sameToken : timeToken? ⟨tag, front ++ '\n' :: below⟩ = timeToken? ⟨tag, front⟩ := by
    unfold timeToken?
    rw [Text.after?_append_of_some found, found, Option.map_some, Option.map_some, sameWord]
  unfold record?
  rw [sameToken]
  rfl

/-- What a segment reports, by what stands in it.  Without a marker it reports nothing.  With one
its tag is looked at first: if that cannot be read there is no record.  Then the body has to report
a time, and if it does not, the first word on the line of the first marker is at fault.  Nothing
below that line is looked at. -/
theorem record?_grammar (s : Segment) :
    (s.record? = none ↔ ¬ timeMarker <:+: s.body) ∧
    (∀ raw, s.record? = some (.error (.malformedTag raw)) ↔
      timeMarker <:+: s.body ∧ Tag.read? (Text.trim s.tag) = none ∧ raw = Text.trim s.tag) ∧
    (∀ tag time, s.record? = some (.ok ⟨tag, time⟩) ↔
      Tag.read? (Text.trim s.tag) = some tag ∧ ReportsTime s.body time) ∧
    (∀ raw word, s.record? = some (.error (.malformedTime raw word)) ↔
      (∃ tag, Tag.read? (Text.trim s.tag) = some tag) ∧ (∀ time, ¬ ReportsTime s.body time) ∧
        raw = Text.trim s.tag ∧ ReportsWord s.body word) ∧
    (∀ front below, timeMarker <:+: front → s.body = front ++ '\n' :: below →
      s.record? = record? ⟨s.tag, front⟩) := by
  refine ⟨record?_eq_none_iff, fun raw => record?_eq_malformedTag_iff,
    fun tag time => record?_eq_ok_iff, fun raw word => record?_eq_malformedTime_iff, ?_⟩
  intro front below marked whole
  obtain ⟨tag, body⟩ := s
  obtain rfl : body = front ++ '\n' :: below := whole
  exact record?_append_line marked below

/-- A time in the second place where it could stand, behind white space of several kinds. -/
theorem record?_secondMarker :
    let tag : Tag := ⟨"d", .mixed, 1, 2, 0⟩
    let front := "Benchmark time:Benchmark time: \r\u0085\u2003+007\u00a0ms".toList
    let s : Segment := ⟨' ' :: tag.json ++ ['\n'], front ++ '\n' :: "Benchmark time: 9".toList⟩
    timeMarker <:+: front ∧ s.record? = record? ⟨s.tag, front⟩ ∧
      s.record? = some (.ok ⟨tag, 7⟩) := by
  intro tag front s
  have marked : timeMarker <:+: front :=
    ⟨"Benchmark time:".toList, "\r\u0085\u2003+007\u00a0ms".toList, by decide +kernel⟩
  obtain ⟨-, -, -, -, above⟩ := record?_grammar s
  exact ⟨marked, above front _ marked rfl, by decide +kernel⟩

end Segment

end Log

end BenchCampaign
