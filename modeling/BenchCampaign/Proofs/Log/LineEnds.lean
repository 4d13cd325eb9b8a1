import BenchCampaign.Proofs.Log.Division
import BenchCampaign.Proofs.Log.Extract

/-!
# Logs with other line ends

A log that was copied to another system may end its lines with a carriage return and a line feed.
Each step of reading goes along with this: the lines of such a text, its tag lines and what stands
behind a marker are those of the log itself with the other line ends.  What is looked at in the
end has none of them, since both characters are white space, so that nothing is told differently.

* `Text.withReturns`: a text with the other line ends.
* `Text.splitLines_withReturns`, `split_withReturns`: its lines and its segments.
* `Segment.extract_withReturns`: what is looked at of a segment.
* `readings_withReturns`: what is told of a log.
-/

namespace BenchCampaign

namespace Text

/-- A text with a carriage return in front of every line feed, beside those that are there. -/
def withReturns (text : List Char) : List Char :=
  text.flatMap fun c => if c = '\n' then ['\r', '\n'] else [c]

/-! ## Characters and lines -/

theorem withReturns_lineFeed (text : List Char) :
    withReturns ('\n' :: text) = '\r' :: '\n' :: withReturns text := rfl

theorem withReturns_cons {c : Char} (other : c ≠ '\n') (text : List Char) :
    withReturns (c :: text) = c :: withReturns text := by
  unfold withReturns
  rw [List.flatMap_cons, if_neg other, List.singleton_append]

theorem withReturns_append (front back : List Char) :
    withReturns (front ++ back) = withReturns front ++ withReturns back :=
  List.flatMap_append

theorem withReturns_of_notMem {line : List Char} (free : '\n' ∉ line) :
    withReturns line = line := by
  induction line with
  | nil => rfl
  | cons c line ih =>
    obtain ⟨other, rest⟩ := List.ne_and_not_mem_of_not_mem_cons free
    rw [withReturns_cons (Ne.symm other), ih rest]

/-- The carriage return belongs to the line whose line feed it precedes. -/
theorem splitLines_withReturns (text : List Char) :
    splitLines (withReturns text) = (splitLines text).map withReturns := by
  induction text with
  | nil => rfl
  | cons c text ih =>
    by_cases feed : c = '\n'
    · subst feed
      rw [withReturns_lineFeed, splitLines, splitLines, splitLines, consLine_lineFeed,
        consLine_lineFeed, consLine_cons (by decide), ih]
      rfl
    · rw [withReturns_cons feed, splitLines, splitLines, ih]
      unfold consLine
      rw [if_neg feed, if_neg feed]
      cases splitLines text with
      | nil =>
        have alone : withReturns [c] = [c] := withReturns_cons feed []
        rw [List.map_cons, alone]
        rfl
      | cons line rest =>
        rw [List.map_cons, List.map_cons, withReturns_cons feed]

/-! ## Patterns -/

section Pattern

variable {pattern : List Char} (noFeed : '\n' ∉ pattern) (noReturn : '\r' ∉ pattern)

include noFeed noReturn

theorem dropPrefix?_withReturns (text : List Char) :
    dropPrefix? pattern (withReturns text) = (dropPrefix? pattern text).map withReturns := by
  induction pattern generalizing text with
  | nil => rfl
  | cons p pattern ih =>
    obtain ⟨pFeed, restFeed⟩ := List.ne_and_not_mem_of_not_mem_cons noFeed
    obtain ⟨pReturn, restReturn⟩ := List.ne_and_not_mem_of_not_mem_cons noReturn
    cases text with
    | nil => rfl
    | cons c text =>
      by_cases feed : c = '\n'
      · subst feed
        rw [withReturns_lineFeed, dropPrefix?, dropPrefix?, if_neg (Ne.symm pReturn),
          if_neg (Ne.symm pFeed)]
        rfl
      · rw [withReturns_cons feed, dropPrefix?, dropPrefix?]
        split
        · exact ih restFeed restReturn text
        · rfl

/-- A pattern is not found at a carriage return, nor at the line feed behind it. -/
theorem after?_withReturns (nonempty : pattern ≠ []) (text : List Char) :
    after? pattern (withReturns text) = (after? pattern text).map withReturns := by
  have dropped := dropPrefix?_withReturns noFeed noReturn
  induction text with
  | nil => exact dropped []
  | cons c text ih =>
    by_cases feed : c = '\n'
    · obtain ⟨p, rest, rfl⟩ := List.exists_cons_of_ne_nil nonempty
      obtain ⟨pFeed, -⟩ := List.ne_and_not_mem_of_not_mem_cons noFeed
      obtain ⟨pReturn, -⟩ := List.ne_and_not_mem_of_not_mem_cons noReturn
      subst feed
      rw [withReturns_lineFeed]
      simp only [after?, dropPrefix?, if_neg (Ne.symm pFeed), if_neg (Ne.symm pReturn), ih]
    · have first := dropped (c :: text)
      rw [withReturns_cons feed] at first ⊢
      rw [after?, after?, first]
      cases dropPrefix? pattern (c :: text) with
      | none => exact ih
      | some rest => rfl

end Pattern

/-! ## White space -/

/-- Around a line it makes no difference how the line ends. -/
theorem trim_withReturns {line : List Char} (free : '\n' ∉ line.dropLast) :
    trim (withReturns line) = trim line := by
  rcases List.eq_nil_or_concat line with rfl | ⟨front, c, rfl⟩
  · rfl
  · rw [List.concat_eq_append] at free ⊢
    rw [List.dropLast_concat] at free
    rw [withReturns_append, withReturns_of_notMem free]
    by_cases feed : c = '\n'
    · subst feed
      have ended : withReturns ['\n'] = ['\r'] ++ ['\n'] := rfl
      rw [ended, ← List.append_assoc, trim_append_blank (by decide), trim_append_blank (by decide),
        trim_append_blank (by decide)]
    · have alone : withReturns [c] = [c] := withReturns_cons feed []
      rw [alone]

/-- The first word of the first line is in front of the line's end. -/
theorem firstWord_firstLine_withReturns (text : List Char) :
    firstWord (Log.Segment.firstLine (withReturns text)) =
      firstWord (Log.Segment.firstLine text) := by
  rw [firstWord_firstLine, firstWord_firstLine]
  by_cases feed : '\n' ∈ text
  · obtain ⟨line, rest, rfl, free⟩ := List.eq_append_cons_of_mem feed
    have ended : '\n' ∉ line ++ ['\r'] := by simp [free]
    rw [withReturns_append, withReturns_of_notMem free, withReturns_lineFeed, List.append_cons,
      takeWhile_line ended, takeWhile_line free, firstWord_append_blank (by decide)]
  · rw [withReturns_of_notMem feed]

end Text

namespace Log

/-! ## Segments -/

/-- A segment of a log with the other line ends. -/
def Segment.withReturns (s : Segment) : Segment :=
  ⟨Text.withReturns s.tag, Text.withReturns s.body⟩

theorem tagText?_withReturns (line : List Char) :
    tagText? (Text.withReturns line) = (tagText? line).map Text.withReturns := by
  unfold tagText?
  rw [Text.dropPrefix?_withReturns (by decide) (by decide)]
  cases Text.dropPrefix? Tag.word line with
  | none => rfl
  | some rest =>
    cases rest with
    | nil => rfl
    | cons c rest =>
      by_cases feed : c = '\n'
      · subst feed
        rfl
      · rw [Option.map_some, Text.withReturns_cons feed]
        by_cases blank : c = ' '
        · subst blank
          rfl
        · simp [blank]

theorem splitAtTags_withReturns (lines : List (List Char)) :
    splitAtTags (lines.map Text.withReturns) =
      (Text.withReturns (splitAtTags lines).1,
        (splitAtTags lines).2.map Segment.withReturns) := by
  induction lines with
  | nil => rfl
  | cons line lines ih =>
    rw [List.map_cons, splitAtTags, splitAtTags, ih, tagText?_withReturns]
    cases tagText? line with
    | none => exact Prod.ext (Text.withReturns_append line _).symm rfl
    | some tag => rfl

/-- The other line ends make no other segments. -/
theorem split_withReturns (text : List Char) :
    split (Text.withReturns text) =
      (Text.withReturns (preamble text), (segments text).map Segment.withReturns) := by
  unfold split
  rw [Text.splitLines_withReturns, splitAtTags_withReturns]
  rfl

theorem Segment.timeToken?_withReturns (s : Segment) :
    s.withReturns.timeToken? = s.timeToken? := by
  unfold timeToken? withReturns
  rw [Text.after?_withReturns (by decide) (by decide) (by decide), Option.map_map]
  congr 1
  funext rest
  exact Text.firstWord_firstLine_withReturns rest

/-- A tag is one line, so that trimming takes away how it ends. -/
theorem Segment.extract_withReturns {s : Segment} (line : '\n' ∉ s.tag.dropLast) :
    s.withReturns.extract = s.extract :=
  Prod.ext (Text.trim_withReturns line) s.timeToken?_withReturns

theorem extracts_withReturns (text : List Char) :
    (segments (Text.withReturns text)).map Segment.extract =
      (segments text).map Segment.extract := by
  have lines := (isDivision_split text).1.tag_line
  have parts : segments (Text.withReturns text) = (segments text).map Segment.withReturns :=
    congrArg Prod.snd (split_withReturns text)
  rw [parts, List.map_map]
  exact List.map_congr_left fun s member => Segment.extract_withReturns (lines s member)

/-! ## Readings -/

/-- **Line ends are not told of.**  A log whose lines end with a carriage return and a line feed is
read and reconciled as the log whose lines end with the line feed alone, whatever other carriage
returns are in it. -/
theorem readings_withReturns (text : List Char) :
    read (Text.withReturns text) = read text ∧
      reconcile (Text.withReturns text) = reconcile text := by
  have same {β : Type} {f : Segment → Option β}
      (factors : Function.FactorsThrough f Segment.extract) :
      (segments (Text.withReturns text)).filterMap f = (segments text).filterMap f :=
    filterMap_eq_of_extracts factors (extracts_withReturns text)
  have fates {β : Type} (f : Fate → Option β) :
      Function.FactorsThrough (f ∘ Segment.fate) Segment.extract :=
    fun _ _ alike => congrArg f (Segment.fate_factors alike)
  constructor
  · exact same Segment.record?_factors
  · rw [reconcile_eq, reconcile_eq, same (fates Fate.completed?), same (fates Fate.missing?),
      same (fates Fate.fault?)]

end Log

end BenchCampaign
