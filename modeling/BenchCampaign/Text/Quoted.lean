import BenchCampaign.Text.Visible

/-!
# Quoted text

Messages quote a text so that every character of it can be told: quotation
marks, backslashes and the usual controls are escaped by name, and a character
that cannot be seen by its code point.

* `Text.quote`: a text between quotation marks.
-/

namespace BenchCampaign

namespace Text

/-- The lower-case hexadecimal digits of a number. -/
def hex (n : Nat) : List Char := Nat.toDigits 16 n

/-- A character as it stands in quoted text. -/
def quoteChar (c : Char) : List Char :=
  if c = '\x00' then ['\\', '0']
  else if c = '\t' then ['\\', 't']
  else if c = '\r' then ['\\', 'r']
  else if c = '\n' then ['\\', 'n']
  else if c = '"' then ['\\', '"']
  else if c = '\\' then ['\\', '\\']
  else if isVisible c then [c]
  else ['\\', 'u', '\x7b'] ++ hex c.toNat ++ ['\x7d']

/-- A text between quotation marks. -/
def quote (text : List Char) : List Char :=
  ['"'] ++ text.flatMap quoteChar ++ ['"']

end Text

end BenchCampaign
