import BenchCampaign.Tag
import BenchCampaign.Text.Lines
import BenchCampaign.Text.Search

/-!
# Segments of a log

The output of a campaign is a preamble followed by segments, one for each tag
line.  A segment is the text of its tag line after the word, line feed
included, and its body, which is everything up to the next tag line.

* `Log.split`: the preamble and the segments of a text.
* `Log.segments`: the segments alone.
-/

namespace BenchCampaign

namespace Log

/-- A tag's text after the word, and what was written below it. -/
structure Segment where
  tag : List Char
  body : List Char
deriving DecidableEq, Repr

/-- The text of a tag line after the word; other lines have none. -/
def tagText? (line : List Char) : Option (List Char) :=
  match Text.dropPrefix? Tag.word line with
  | some (' ' :: rest) => some (' ' :: rest)
  | _ => none

/-- The lines before the first tag line, put together, and the segments. -/
def splitAtTags : List (List Char) → List Char × List Segment
  | [] => ([], [])
  | line :: rest =>
    let (body, segments) := splitAtTags rest
    match tagText? line with
    | some tag => ([], ⟨tag, body⟩ :: segments)
    | none => (line ++ body, segments)

/-- The preamble and the segments of a text. -/
def split (text : List Char) : List Char × List Segment :=
  splitAtTags (Text.splitLines text)

/-- The text before the first tag line. -/
def preamble (text : List Char) : List Char := (split text).1

/-- The segments of a text. -/
def segments (text : List Char) : List Segment := (split text).2

end Log

end BenchCampaign
