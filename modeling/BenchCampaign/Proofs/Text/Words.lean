import BenchCampaign.Log.Reading
import BenchCampaign.Proofs.Text.Lines
import Mathlib.Data.List.TakeWhile

/-!
# White space at the ends of texts

Trimming and looking for the first word both pass over white space at the ends of a text, so
that neither notices how a line ends.

* `Text.trim_append_blank`, `Text.trim_eq_self`: what trimming takes away, and what it leaves.
* `Text.firstWord_append_blank`, `Text.firstWord_append_cons`, `Text.firstWord_append_cases`: where
  the first word ends.
* `Text.firstWord_firstLine`: the first word of the first line needs no line end.
* `Text.after?_append_cons`: a character that a pattern has not does not help to find it.
* `Text.after?_append_of_some`: a pattern that is found stays where it is.
-/

namespace BenchCampaign

namespace Text

variable {b c : Char} {text : List Char}

/-! ## One character more -/

/-- What stops a search is no part of what it takes, and neither is what stands behind it. -/
theorem takeWhile_append_cons {p : Char → Bool} (stops : p c = false) (text more : List Char) :
    (text ++ c :: more).takeWhile p = text.takeWhile p := by
  rw [List.takeWhile_append]
  split
  · next long =>
    rw [List.takeWhile_cons_of_neg (by rw [stops]; decide), List.append_nil]
    exact ((List.takeWhile_prefix p).eq_of_length long).symm
  · rfl

theorem takeWhile_append_singleton {p : Char → Bool} (stops : p c = false) (text : List Char) :
    (text ++ [c]).takeWhile p = text.takeWhile p :=
  takeWhile_append_cons stops text []

/-- White space behind a text that is all white space goes with it, and otherwise it stays. -/
theorem dropWhile_append_blank (blank : isBlank b = true) (text : List Char) :
    (text ++ [b]).dropWhile isBlank =
      if (text.dropWhile isBlank).isEmpty then [] else text.dropWhile isBlank ++ [b] := by
  rw [List.dropWhile_append]
  split
  · rw [List.dropWhile_cons_of_pos blank, List.dropWhile_nil]
  · rfl

/-! ## Trimming -/

theorem trimEnd_append_blank (blank : isBlank b = true) (text : List Char) :
    trimEnd (text ++ [b]) = trimEnd text := by
  unfold trimEnd
  rw [List.reverse_append, List.reverse_singleton, List.singleton_append,
    List.dropWhile_cons_of_pos blank]

theorem trim_cons_blank (blank : isBlank b = true) (text : List Char) :
    trim (b :: text) = trim text := by
  unfold trim
  rw [List.dropWhile_cons_of_pos blank]

theorem trim_append_blank (blank : isBlank b = true) (text : List Char) :
    trim (text ++ [b]) = trim text := by
  unfold trim
  rw [dropWhile_append_blank blank]
  split
  · next none => rw [List.isEmpty_iff.mp none]
  · exact trimEnd_append_blank blank _

/-- A text without white space at its ends is left as it is. -/
theorem trim_eq_self (first : ∀ c ∈ text.head?, isBlank c = false)
    (last : ∀ c ∈ text.getLast?, isBlank c = false) : trim text = text := by
  have front : ∀ {cs : List Char}, (∀ c ∈ cs.head?, isBlank c = false) →
      cs.dropWhile isBlank = cs := by
    intro cs visible
    cases cs with
    | nil => rfl
    | cons c cs => rw [List.dropWhile_cons_of_neg (by rw [visible c rfl]; decide)]
  unfold trim trimEnd
  rw [front first, front (by rwa [List.head?_reverse]), List.reverse_reverse]

/-! ## First words -/

theorem firstWord_append_blank (blank : isBlank b = true) (text : List Char) :
    firstWord (text ++ [b]) = firstWord text := by
  unfold firstWord
  rw [dropWhile_append_blank blank]
  split
  · next none => rw [List.isEmpty_iff.mp none]
  · exact takeWhile_append_singleton (by rw [blank]; rfl) _

/-- A word ends where white space begins. -/
theorem firstWord_append_cons {word : List Char} (nonempty : word ≠ [])
    (visible : ∀ c ∈ word, isBlank c = false) (blank : isBlank b = true) (rest : List Char) :
    firstWord (word ++ b :: rest) = word := by
  obtain ⟨c, cs, rfl⟩ := List.exists_cons_of_ne_nil nonempty
  have first := visible c List.mem_cons_self
  unfold firstWord
  rw [List.cons_append, List.dropWhile_cons_of_neg (by rw [first]; decide), ← List.cons_append,
    List.takeWhile_append_of_pos (fun d member => by rw [visible d member]; rfl),
    List.takeWhile_cons_of_neg (by rw [blank]; decide), List.append_nil]

/-- A word that a text begins with, behind white space, ends within the text, or it ends the text
and may go on behind it. -/
theorem firstWord_append_cases {text : List Char} (found : firstWord text ≠ [])
    (more : List Char) :
    firstWord (text ++ more) = firstWord text ∨
      text = text.takeWhile isBlank ++ firstWord text ∧
        firstWord (text ++ more) = firstWord text ++ more.takeWhile fun c => !isBlank c := by
  have visible : text.dropWhile isBlank ≠ [] := by
    intro none
    rw [firstWord, none] at found
    exact found rfl
  have front : firstWord (text ++ more) =
      (text.dropWhile isBlank ++ more).takeWhile fun c => !isBlank c := by
    rw [firstWord, List.dropWhile_append, if_neg (by simpa using visible)]
  rw [front, List.takeWhile_append]
  split
  · next long =>
    have all : firstWord text = text.dropWhile isBlank := (List.takeWhile_prefix _).eq_of_length long
    rw [all]
    exact Or.inr ⟨List.takeWhile_append_dropWhile.symm, rfl⟩
  · exact Or.inl rfl

theorem isBlank_of_isDigit (digit : c.isDigit = true) : isBlank c = false := by
  have range : 48 ≤ c.toNat ∧ c.toNat ≤ 57 := by
    simpa [Char.isDigit, UInt32.le_iff_toNat_le] using digit
  simp only [isBlank, Bool.or_eq_false_iff, Bool.and_eq_false_iff, decide_eq_false_iff_not,
    beq_eq_false_iff_ne]
  omega

/-! ## First lines -/

/-- What ends a line is white space, as far as it does not belong to the line. -/
theorem firstWord_lineContent (line : List Char) :
    firstWord (lineContent (line ++ ['\n'])) = firstWord line := by
  rw [lineContent_line]
  split
  · next last =>
    obtain ⟨front, rfl⟩ := List.getLast?_eq_some_iff.mp last
    rw [List.dropLast_concat, firstWord_append_blank (by decide)]
  · rfl

theorem takeWhile_of_notMem {line : List Char} (free : '\n' ∉ line) :
    line.takeWhile (· ≠ '\n') = line := by
  rw [List.takeWhile_eq_self_iff]
  exact fun c member => decide_eq_true fun feed => free (feed ▸ member)

theorem takeWhile_line {line : List Char} (free : '\n' ∉ line) (rest : List Char) :
    (line ++ '\n' :: rest).takeWhile (· ≠ '\n') = line := by
  have all := List.takeWhile_eq_self_iff.mp (takeWhile_of_notMem free)
  rw [List.takeWhile_append_of_pos all, List.takeWhile_cons_of_neg (by decide), List.append_nil]

/-- The first word of the first line, whether the line is ended or not. -/
theorem firstWord_firstLine (text : List Char) :
    firstWord (Log.Segment.firstLine text) = firstWord (text.takeWhile (· ≠ '\n')) := by
  unfold Log.Segment.firstLine lineContents
  induction text using lines_induction with
  | empty => rfl
  | opened line nonempty free =>
    rw [splitLines_of_notMem nonempty free, List.map_singleton, List.head?_cons,
      Option.getD_some, lineContent_of_notMem free, takeWhile_of_notMem free]
  | ended line rest free _ =>
    rw [splitLines_line free, List.map_cons, List.head?_cons, Option.getD_some,
      firstWord_lineContent, takeWhile_line free]

/-! ## Patterns -/

theorem after?_append_left (pattern rest : List Char) :
    after? pattern (pattern ++ rest) = some rest := by
  have found := dropPrefix?_eq_some_iff.mpr (rfl : pattern ++ rest = pattern ++ rest)
  cases shape : pattern ++ rest with
  | nil =>
    rw [shape] at found
    exact found
  | cons c text =>
    rw [shape] at found
    rw [after?, found]

theorem dropPrefix?_append_cons {pattern : List Char} (absent : c ∉ pattern)
    (text more : List Char) :
    dropPrefix? pattern (text ++ c :: more) =
      (dropPrefix? pattern text).map (· ++ c :: more) := by
  induction pattern generalizing text with
  | nil => rfl
  | cons p pattern ih =>
    have other : p ≠ c := fun eq => absent (eq ▸ List.mem_cons_self)
    have tail := ih fun member => absent (List.mem_cons_of_mem p member)
    cases text with
    | nil => simp [dropPrefix?, other]
    | cons d text =>
      by_cases same : p = d
      · simp [dropPrefix?, same, tail]
      · simp [dropPrefix?, same]

/-- A pattern without some character is found in front of that character or behind it. -/
theorem after?_append_cons {pattern : List Char} (nonempty : pattern ≠ []) (absent : c ∉ pattern)
    (text more : List Char) :
    after? pattern (text ++ c :: more) =
      ((after? pattern text).map (· ++ c :: more)).or (after? pattern more) := by
  have dropped := fun text => dropPrefix?_append_cons absent text more
  induction text with
  | nil =>
    obtain ⟨p, pattern, rfl⟩ := List.exists_cons_of_ne_nil nonempty
    have other : p ≠ c := fun eq => absent (eq ▸ List.mem_cons_self)
    simp [after?, dropPrefix?, other]
  | cons d text ih =>
    have first := dropped (d :: text)
    rw [List.cons_append] at first ⊢
    rw [after?, after?, first]
    cases dropPrefix? pattern (d :: text) with
    | none => exact ih
    | some rest => rfl

/-- A character that is not in a pattern makes no difference at the end of a text in which the
pattern is looked for. -/
theorem after?_append_singleton {pattern : List Char} (nonempty : pattern ≠ [])
    (absent : c ∉ pattern) (text : List Char) :
    after? pattern (text ++ [c]) = (after? pattern text).map (· ++ [c]) := by
  obtain ⟨p, rest, rfl⟩ := List.exists_cons_of_ne_nil nonempty
  have none : after? (p :: rest) [] = none := rfl
  rw [after?_append_cons nonempty absent, none, Option.or_none]

/-- What stands behind a pattern ends the text. -/
theorem exists_append_of_after? {pattern text rest : List Char}
    (found : after? pattern text = some rest) : ∃ front, text = front ++ (pattern ++ rest) := by
  induction text with
  | nil =>
    have whole := dropPrefix?_eq_some_iff.mp found
    exact ⟨[], whole⟩
  | cons c text ih =>
    rw [after?] at found
    cases dropped : dropPrefix? pattern (c :: text) with
    | some behind =>
      rw [dropped] at found
      cases found
      have whole := dropPrefix?_eq_some_iff.mp dropped
      exact ⟨[], whole⟩
    | none =>
      rw [dropped] at found
      obtain ⟨front, rfl⟩ := ih found
      exact ⟨c :: front, rfl⟩

/-- Where a pattern was found first, it is found first however the text goes on. -/
theorem after?_append_of_some {pattern text rest : List Char}
    (found : after? pattern text = some rest) (more : List Char) :
    after? pattern (text ++ more) = some (rest ++ more) := by
  induction text with
  | nil =>
    obtain rfl := (List.append_eq_nil_iff.mp (dropPrefix?_eq_some_iff.mp found).symm).1
    cases found
    exact after?_append_left [] more
  | cons c text ih =>
    rw [List.cons_append, after?]
    rw [after?] at found
    cases dropped : dropPrefix? pattern (c :: text) with
    | some behind =>
      rw [dropped] at found
      cases found
      have whole : c :: (text ++ more) = pattern ++ (rest ++ more) := by
        rw [← List.cons_append, dropPrefix?_eq_some_iff.mp dropped, List.append_assoc]
      rw [dropPrefix?_eq_some_iff.mpr whole]
    | none =>
      rw [dropped] at found
      have missed : dropPrefix? pattern (c :: (text ++ more)) = none := by
        -- The pattern lies within the text, so it cannot begin here and reach beyond it.
        obtain ⟨front, inside⟩ := exists_append_of_after? found
        rw [Option.eq_none_iff_forall_ne_some]
        intro behind here
        have begins : pattern <+: c :: text ++ more := ⟨behind, (dropPrefix?_eq_some_iff.mp here).symm⟩
        have short : pattern.length ≤ (c :: text).length := by
          simp only [inside, List.length_cons, List.length_append]
          omega
        obtain ⟨left, split⟩ := List.prefix_of_prefix_length_le begins
          (List.prefix_append (c :: text) more) short
        rw [dropPrefix?_eq_some_iff.mpr split.symm] at dropped
        cases dropped
      rw [missed]
      exact ih found

end Text

end BenchCampaign
