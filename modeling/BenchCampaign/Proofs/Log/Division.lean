import BenchCampaign.Log.Segment
import BenchCampaign.Proofs.Text.Lines
import Mathlib.Logic.ExistsUnique

/-!
# Divisions of a log

A log is divided by its tag lines into a preamble and segments.  `IsDivision` says what the
parts of such a division look like, without saying how they are found; `joined` puts them
together again.  Every text has one division and no other, and that is the one that is read.

* `split_append_of_tagFree`, `split_tagLine`: how whole lines, and a tag line, change what a
  text behind them splits into.
* `IsDivision.cons_iff`: the first tag of a division, and the division behind it.
* `existsUnique_division`: dividing a log loses nothing, and is the only way to do so.
-/

namespace BenchCampaign

namespace Log

/-! ## Tag lines -/

/-- A line that begins with the word and a blank. -/
def IsTagLine (line : List Char) : Prop := Tag.lead <+: line

instance (line : List Char) : Decidable (IsTagLine line) :=
  inferInstanceAs (Decidable (Tag.lead <+: line))

/-- A text that has no tag line. -/
def TagFree (text : List Char) : Prop := ∀ line ∈ Text.splitLines text, ¬ IsTagLine line

instance (text : List Char) : Decidable (TagFree text) :=
  inferInstanceAs (Decidable (∀ line ∈ Text.splitLines text, ¬ IsTagLine line))

theorem tagText?_eq_some_iff {line tag : List Char} :
    tagText? line = some tag ↔ line = Tag.word ++ tag ∧ tag.head? = some ' ' := by
  have dropped := @Text.dropPrefix?_eq_some_iff Tag.word line
  unfold tagText?
  constructor
  · intro read
    split at read
    · next rest drop =>
      cases read
      exact ⟨dropped.mp drop, rfl⟩
    · cases read
  · rintro ⟨rfl, head⟩
    obtain ⟨rest, rfl⟩ := List.head?_eq_some_iff.mp head
    rw [dropped.mpr rfl]
    rfl

theorem isTagLine_iff {line : List Char} :
    IsTagLine line ↔ ∃ tag, tagText? line = some tag := by
  constructor
  · rintro ⟨rest, rfl⟩
    exact ⟨' ' :: rest, tagText?_eq_some_iff.mpr ⟨by simp [Tag.lead], rfl⟩⟩
  · rintro ⟨tag, read⟩
    obtain ⟨rfl, head⟩ := tagText?_eq_some_iff.mp read
    obtain ⟨rest, rfl⟩ := List.head?_eq_some_iff.mp head
    exact ⟨rest, by simp [Tag.lead]⟩

theorem tagText?_eq_none_iff {line : List Char} :
    tagText? line = none ↔ ¬ IsTagLine line := by
  rw [isTagLine_iff, ← Option.isSome_iff_exists, Option.not_isSome_iff_eq_none]

/-- A character of a line is its last one or one of those before it. -/
theorem mem_dropLast_or_getLast? {text : List Char} {c : Char} (member : c ∈ text) :
    c ∈ text.dropLast ∨ text.getLast? = some c := by
  have nonempty := List.ne_nil_of_mem member
  rw [← List.dropLast_concat_getLast nonempty] at member
  rcases List.mem_append.mp member with front | last
  · exact Or.inl front
  · rw [List.mem_singleton.mp last]
    exact Or.inr (List.getLast?_eq_some_getLast nonempty)

theorem lineFeed_notMem_word : '\n' ∉ Tag.word := by decide

theorem lineFeed_notMem_lead : '\n' ∉ Tag.lead := by decide

/-! ## Texts without tag lines -/

theorem tagFree_nil : TagFree [] := fun _ member => (List.not_mem_nil member).elim

theorem tagFree_opened {line : List Char} (nonempty : line ≠ []) (free : '\n' ∉ line) :
    TagFree line ↔ ¬ IsTagLine line := by
  unfold TagFree
  rw [Text.splitLines_of_notMem nonempty free, List.forall_mem_singleton]

theorem tagFree_line {line : List Char} (free : '\n' ∉ line) (rest : List Char) :
    TagFree (line ++ '\n' :: rest) ↔ ¬ IsTagLine (line ++ ['\n']) ∧ TagFree rest := by
  unfold TagFree
  rw [Text.splitLines_line free, List.forall_mem_cons]

/-- Ending a line makes no tag line of it. -/
theorem isTagLine_append_lineFeed {line : List Char} :
    IsTagLine (line ++ ['\n']) ↔ IsTagLine line := by
  constructor
  · intro tagged
    rcases List.prefix_concat_iff.mp tagged with all | tagged
    · exact (lineFeed_notMem_lead (all ▸ List.mem_append_right line List.mem_cons_self)).elim
    · exact tagged
  · intro tagged
    exact tagged.trans (List.prefix_append line ['\n'])

/-- What follows the word on a tag line, ended or not. -/
theorem IsTagLine.exists_tag {line : List Char} (tagged : IsTagLine line) (free : '\n' ∉ line) :
    ∃ tag, line = Tag.word ++ tag ∧ '\n' ∉ tag ∧ tag.head? = some ' ' ∧
      (tag ++ ['\n']).head? = some ' ' := by
  obtain ⟨tag, read⟩ := isTagLine_iff.mp tagged
  obtain ⟨rfl, blank⟩ := tagText?_eq_some_iff.mp read
  refine ⟨tag, rfl, fun member => free (List.mem_append_right Tag.word member), blank, ?_⟩
  rw [List.head?_append, blank, Option.some_or]

theorem tagFree_ended {line : List Char} (untagged : ¬ IsTagLine line) (free : '\n' ∉ line) :
    TagFree (line ++ ['\n']) :=
  (tagFree_line free []).mpr
    ⟨fun ended => untagged (isTagLine_append_lineFeed.mp ended), tagFree_nil⟩

/-- Whole lines and what follows them have no tag line if neither has one. -/
theorem tagFree_append_iff {a : List Char} (whole : Text.IsWhole a) (b : List Char) :
    TagFree (a ++ b) ↔ TagFree a ∧ TagFree b := by
  unfold TagFree
  rw [Text.splitLines_append whole, List.forall_mem_append]

theorem TagFree.append_lineFeed {text : List Char} (free : TagFree text) :
    TagFree (text ++ ['\n']) := by
  induction text using Text.lines_induction with
  | empty => decide
  | opened line nonempty notMem =>
    exact tagFree_ended ((tagFree_opened nonempty notMem).mp free) notMem
  | ended line rest notMem ih =>
    obtain ⟨untagged, tail⟩ := (tagFree_line notMem rest).mp free
    rw [List.append_assoc]
    exact (tagFree_line notMem _).mpr ⟨untagged, ih tail⟩

/-! ## What lines change about a split -/

theorem splitAtTags_append {lines : List (List Char)} (free : ∀ l ∈ lines, ¬ IsTagLine l)
    (others : List (List Char)) :
    splitAtTags (lines ++ others) =
      (lines.flatten ++ (splitAtTags others).1, (splitAtTags others).2) := by
  induction lines with
  | nil => rfl
  | cons line lines ih =>
    have tail := ih fun l member => free l (List.mem_cons_of_mem line member)
    have untagged := tagText?_eq_none_iff.mpr (free line List.mem_cons_self)
    simp [splitAtTags, tail, untagged]

/-- A text without tag lines is preamble. -/
theorem split_of_tagFree {text : List Char} (free : TagFree text) : split text = (text, []) := by
  have all := splitAtTags_append free []
  rw [List.append_nil] at all
  simp [split, all, splitAtTags, Text.flatten_splitLines]

/-- Whole lines without tag lines are preamble, too, in front of what follows. -/
theorem split_append_of_tagFree {a : List Char} (whole : Text.IsWhole a) (free : TagFree a)
    (b : List Char) : split (a ++ b) = (a ++ preamble b, segments b) := by
  unfold preamble segments split
  rw [Text.splitLines_append whole, splitAtTags_append free, Text.flatten_splitLines]

/-- A tag line makes a segment, which goes on to the next tag line. -/
theorem split_tagLine {tag : List Char} (blank : (tag ++ ['\n']).head? = some ' ')
    (free : '\n' ∉ tag) (rest : List Char) :
    split (Tag.word ++ tag ++ '\n' :: rest) =
      ([], ⟨tag ++ ['\n'], preamble rest⟩ :: segments rest) := by
  have freeLine : '\n' ∉ Tag.word ++ tag := fun member =>
    (List.mem_append.mp member).elim lineFeed_notMem_word free
  have read : tagText? (Tag.word ++ tag ++ ['\n']) = some (tag ++ ['\n']) :=
    tagText?_eq_some_iff.mpr ⟨List.append_assoc Tag.word tag ['\n'], blank⟩
  unfold split
  rw [Text.splitLines_line freeLine, splitAtTags, read]
  rfl

/-- A tag line that was not ended is the last line. -/
theorem split_openTagLine {tag : List Char} (blank : tag.head? = some ' ') (free : '\n' ∉ tag) :
    split (Tag.word ++ tag) = ([], [⟨tag, []⟩]) := by
  have freeLine : '\n' ∉ Tag.word ++ tag := fun member =>
    (List.mem_append.mp member).elim lineFeed_notMem_word free
  have nonempty : Tag.word ++ tag ≠ [] := List.append_ne_nil_of_left_ne_nil (by decide) tag
  have read : tagText? (Tag.word ++ tag) = some tag := tagText?_eq_some_iff.mpr ⟨rfl, blank⟩
  unfold split
  rw [Text.splitLines_of_notMem nonempty freeLine, splitAtTags, read]
  rfl

/-! ## Divisions -/

/-- A segment as it stands in a log. -/
def Segment.text (s : Segment) : List Char := Tag.word ++ s.tag ++ s.body

/-- A preamble and segments, put together. -/
def joined (preamble : List Char) (segments : List Segment) : List Char :=
  preamble ++ segments.flatMap Segment.text

/-- What the parts of a log look like. -/
structure IsDivision (preamble : List Char) (segments : List Segment) : Prop where
  /-- A tag begins with a blank. -/
  tag_blank : ∀ s ∈ segments, s.tag.head? = some ' '
  /-- Only the last character of a tag can be a line feed. -/
  tag_line : ∀ s ∈ segments, '\n' ∉ s.tag.dropLast
  /-- A tag that was not ended stands last, and nothing below it. -/
  tag_open : ∀ before s after, segments = before ++ s :: after →
    s.tag.getLast? ≠ some '\n' → after = [] ∧ s.body = []
  preamble_whole : segments ≠ [] → Text.IsWhole preamble
  /-- All bodies but the last consist of whole lines. -/
  body_whole : ∀ before s after, segments = before ++ s :: after →
    after ≠ [] → Text.IsWhole s.body
  preamble_free : TagFree preamble
  body_free : ∀ s ∈ segments, TagFree s.body

namespace IsDivision

theorem nil_iff {preamble : List Char} : IsDivision preamble [] ↔ TagFree preamble := by
  constructor
  · exact preamble_free
  · intro free
    exact ⟨by simp, by simp, by simp, by simp, by simp, free, by simp⟩

/-- What stands below the first tag is a division as well, with the first body for its
preamble. -/
theorem cons_iff {preamble : List Char} {s : Segment} {rest : List Segment} :
    IsDivision preamble (s :: rest) ↔
      Text.IsWhole preamble ∧ TagFree preamble ∧
      s.tag.head? = some ' ' ∧ '\n' ∉ s.tag.dropLast ∧
      (s.tag.getLast? ≠ some '\n' → rest = [] ∧ s.body = []) ∧
      IsDivision s.body rest := by
  constructor
  · intro d
    have below : ∀ before t after, rest = before ++ t :: after →
        s :: rest = (s :: before) ++ t :: after := fun _ _ _ eq => by rw [eq, List.cons_append]
    refine ⟨d.preamble_whole (List.cons_ne_nil s rest), d.preamble_free,
      d.tag_blank s List.mem_cons_self, d.tag_line s List.mem_cons_self,
      d.tag_open [] s rest rfl, ?_⟩
    exact {
      tag_blank := fun t member => d.tag_blank t (List.mem_cons_of_mem s member)
      tag_line := fun t member => d.tag_line t (List.mem_cons_of_mem s member)
      tag_open := fun before t after eq => d.tag_open (s :: before) t after (below _ _ _ eq)
      preamble_whole := d.body_whole [] s rest rfl
      body_whole := fun before t after eq => d.body_whole (s :: before) t after (below _ _ _ eq)
      preamble_free := d.body_free s List.mem_cons_self
      body_free := fun t member => d.body_free t (List.mem_cons_of_mem s member) }
  · rintro ⟨whole, free, blank, line, opened, d⟩
    refine ⟨?_, ?_, ?_, fun _ => whole, ?_, free, ?_⟩
    · exact List.forall_mem_cons.mpr ⟨blank, d.tag_blank⟩
    · exact List.forall_mem_cons.mpr ⟨line, d.tag_line⟩
    · intro before t after eq last
      rcases List.cons_eq_append_iff.mp eq with ⟨rfl, same⟩ | ⟨before', rfl, eq'⟩
      · cases same
        exact opened last
      · exact d.tag_open before' t after eq' last
    · intro before t after eq more
      rcases List.cons_eq_append_iff.mp eq with ⟨rfl, same⟩ | ⟨before', rfl, eq'⟩
      · cases same
        exact d.preamble_whole more
      · exact d.body_whole before' t after eq' more
    · exact List.forall_mem_cons.mpr ⟨d.preamble_free, d.body_free⟩

/-- Whether parts are a division is decided from the first tag on. -/
instance decidable : (preamble : List Char) → (segments : List Segment) →
    Decidable (IsDivision preamble segments)
  | _, [] => decidable_of_iff _ nil_iff.symm
  | _, s :: rest =>
    have : Decidable (IsDivision s.body rest) := decidable s.body rest
    decidable_of_iff _ cons_iff.symm

/-- Whole lines without tag lines can stand in front of any division. -/
theorem prepend {a preamble : List Char} {segments : List Segment} (whole : Text.IsWhole a)
    (free : TagFree a) (d : IsDivision preamble segments) :
    IsDivision (a ++ preamble) segments :=
  { d with
    preamble_whole := fun more => whole.append (d.preamble_whole more)
    preamble_free := (tagFree_append_iff whole preamble).mpr ⟨free, d.preamble_free⟩ }

/-- A tag line that was not ended is a division. -/
theorem openTagLine {tag : List Char} (blank : tag.head? = some ' ') (free : '\n' ∉ tag) :
    IsDivision [] [⟨tag, []⟩] :=
  cons_iff.mpr ⟨Text.isWhole_nil, tagFree_nil, blank,
    fun member => free (List.dropLast_subset tag member), fun _ => ⟨rfl, rfl⟩,
    nil_iff.mpr tagFree_nil⟩

/-- A tag line can stand in front of any division. -/
theorem tagLine {tag preamble : List Char} {segments : List Segment}
    (blank : (tag ++ ['\n']).head? = some ' ') (free : '\n' ∉ tag)
    (d : IsDivision preamble segments) :
    IsDivision [] (⟨tag ++ ['\n'], preamble⟩ :: segments) := by
  refine cons_iff.mpr ⟨Text.isWhole_nil, tagFree_nil, blank, ?_, ?_, d⟩
  · rw [List.dropLast_concat]
    exact free
  · exact fun opened => (opened List.getLast?_concat).elim

end IsDivision

/-- The parts of a division are read back from what they make up. -/
theorem split_joined {preamble : List Char} {segments : List Segment}
    (d : IsDivision preamble segments) :
    split (joined preamble segments) = (preamble, segments) := by
  induction segments generalizing preamble with
  | nil =>
    unfold joined
    rw [List.flatMap_nil, List.append_nil]
    exact split_of_tagFree (IsDivision.nil_iff.mp d)
  | cons s rest ih =>
    obtain ⟨whole, free, blank, line, opened, below⟩ := IsDivision.cons_iff.mp d
    obtain ⟨tag, body⟩ := s
    have first : joined preamble (⟨tag, body⟩ :: rest) =
        preamble ++ (Tag.word ++ tag ++ joined body rest) := by
      simp [joined, Segment.text]
    have behind : split (Tag.word ++ tag ++ joined body rest) = ([], ⟨tag, body⟩ :: rest) := by
      by_cases last : tag.getLast? = some '\n'
      · -- An ended tag line: what stands below it is split on its own.
        obtain ⟨text, rfl⟩ := List.getLast?_eq_some_iff.mp last
        rw [List.dropLast_concat] at line
        have tail := ih below
        rw [List.append_assoc, List.append_assoc, List.singleton_append, ← List.append_assoc,
          split_tagLine blank line, Log.preamble, Log.segments, tail]
      · -- Otherwise nothing stands below it.
        obtain ⟨rfl, rfl⟩ := opened last
        have feedFree : '\n' ∉ tag := fun member =>
          (mem_dropLast_or_getLast? member).elim line last
        rw [joined, List.flatMap_nil, List.append_nil, List.append_nil]
        exact split_openTagLine blank feedFree
    rw [first, split_append_of_tagFree whole free, Log.preamble, Log.segments, behind,
      List.append_nil]

/-- What a text is split into is a division of it. -/
theorem isDivision_split (text : List Char) :
    IsDivision (preamble text) (segments text) ∧
      joined (preamble text) (segments text) = text := by
  suffices made : ∀ start parts, split text = (start, parts) →
      IsDivision start parts ∧ joined start parts = text from
    made _ _ rfl
  induction text using Text.lines_induction with
  | empty =>
    rintro start parts ⟨⟩
    exact ⟨IsDivision.nil_iff.mpr tagFree_nil, rfl⟩
  | opened line nonempty free =>
    intro start parts read
    by_cases tagged : IsTagLine line
    · obtain ⟨tag, rfl, feedFree, blank, -⟩ := tagged.exists_tag free
      rw [split_openTagLine blank feedFree] at read
      cases read
      refine ⟨IsDivision.openTagLine blank feedFree, ?_⟩
      simp [joined, Segment.text]
    · have lineFree := (tagFree_opened nonempty free).mpr tagged
      rw [split_of_tagFree lineFree] at read
      cases read
      exact ⟨IsDivision.nil_iff.mpr lineFree, List.append_nil line⟩
  | ended line rest free ih =>
    intro start parts read
    obtain ⟨below, whole⟩ := ih (preamble rest) (segments rest) rfl
    by_cases tagged : IsTagLine line
    · obtain ⟨tag, rfl, feedFree, -, blankEnded⟩ := tagged.exists_tag free
      rw [split_tagLine blankEnded feedFree] at read
      cases read
      refine ⟨below.tagLine blankEnded feedFree, ?_⟩
      have text := congrArg (Tag.word ++ (tag ++ ['\n']) ++ ·) whole
      simpa [joined, Segment.text] using text
    · have lineFree := tagFree_ended tagged free
      have lineWhole := Text.isWhole_append_lineFeed line
      rw [List.append_cons, split_append_of_tagFree lineWhole lineFree] at read
      cases read
      refine ⟨below.prepend lineWhole lineFree, ?_⟩
      have text := congrArg (line ++ ['\n'] ++ ·) whole
      simpa [joined] using text

/-- **Dividing a log is lossless and leaves no choice.**  Every text has exactly one division,
which is the one that is read, and every division is read from what it makes up. -/
theorem existsUnique_division (text : List Char) :
    (∃! d : List Char × List Segment, IsDivision d.1 d.2 ∧ joined d.1 d.2 = text) ∧
      (IsDivision (preamble text) (segments text) ∧
        joined (preamble text) (segments text) = text) ∧
      ∀ start parts, IsDivision start parts →
        preamble (joined start parts) = start ∧ segments (joined start parts) = parts := by
  have back : ∀ start parts, IsDivision start parts →
      preamble (joined start parts) = start ∧ segments (joined start parts) = parts := by
    intro start parts d
    have read := split_joined d
    exact ⟨congrArg Prod.fst read, congrArg Prod.snd read⟩
  refine ⟨⟨(preamble text, segments text), isDivision_split text, ?_⟩, isDivision_split text,
    back⟩
  rintro ⟨start, parts⟩ ⟨d, rfl⟩
  obtain ⟨first, second⟩ := back start parts d
  exact Prod.ext first.symm second.symm

/-- Tag lines that follow each other, a line with the bare word, and a tag that the text ends
in. -/
theorem segments_adjacentTags :
    let parts : List Segment :=
      [⟨" a\n".toList, "BENCHMARK\n".toList⟩, ⟨" b\n".toList, []⟩, ⟨" c".toList, []⟩]
    IsDivision "é\n".toList parts ∧
      segments "é\nBENCHMARK a\nBENCHMARK\nBENCHMARK b\nBENCHMARK c".toList = parts := by
  intro parts
  have division : IsDivision "é\n".toList parts := by decide
  exact ⟨division, ((existsUnique_division []).2.2 _ parts division).2⟩

end Log

end BenchCampaign
