/-!
# Lines

A line ends with its line feed, which belongs to it; only the last line of a
text can do without.  A carriage return right before the line feed is part of
the line end.

* `Text.splitLines`: the lines of a text, which concatenate to it.
* `Text.lineContents`: the lines without their ends.
-/

namespace BenchCampaign

namespace Text

/-- Puts a character in front of the first line; a line feed is a line of its own. -/
def consLine (c : Char) (lines : List (List Char)) : List (List Char) :=
  if c = '\n' then [c] :: lines
  else match lines with
    | [] => [[c]]
    | line :: rest => (c :: line) :: rest

/-- The lines of a text, each with its line feed. -/
def splitLines : List Char → List (List Char)
  | [] => []
  | c :: rest => consLine c (splitLines rest)

/-- A line without its line feed and a carriage return right before that. -/
def lineContent (line : List Char) : List Char :=
  match line.reverse with
  | '\n' :: '\r' :: rest => rest.reverse
  | '\n' :: rest => rest.reverse
  | _ => line

/-- The lines of a text without their ends. -/
def lineContents (text : List Char) : List (List Char) :=
  (splitLines text).map lineContent

/-- Lines concatenate to the text that they come from. -/
theorem flatten_splitLines (text : List Char) : (splitLines text).flatten = text := by
  induction text with
  | nil => rfl
  | cons c rest ih =>
    unfold splitLines consLine
    by_cases h : c = '\n'
    · simp [h, ih]
    · rw [if_neg h]
      split
      · next hl => simp [hl] at ih; simp [← ih]
      · next line others hl => rw [hl] at ih; simp [← ih]

end Text

end BenchCampaign
