import BenchCampaign.Text.Quoted

/-!
# JSON text of strings

A string is written between quotation marks.  Quotation marks, backslashes and
control characters are escaped, the latter by a short name if they have one;
all else stands for itself.

* `Json.quote`: a string as JSON.
-/

namespace BenchCampaign

namespace Json

/-- The escape of a control character by its code point. -/
def escapeCode (n : Nat) : List Char :=
  ['\\', 'u', '0', '0'] ++ (if n < 16 then ['0'] else []) ++ Text.hex n

/-- A character as it stands in a JSON string. -/
def quoteChar (c : Char) : List Char :=
  if c = '"' then ['\\', '"']
  else if c = '\\' then ['\\', '\\']
  else if c = '\x08' then ['\\', 'b']
  else if c = '\t' then ['\\', 't']
  else if c = '\n' then ['\\', 'n']
  else if c = '\x0c' then ['\\', 'f']
  else if c = '\r' then ['\\', 'r']
  else if c.toNat < 0x20 then escapeCode c.toNat
  else [c]

/-- The characters of a string between the quotation marks. -/
def quoteBody (s : List Char) : List Char := s.flatMap quoteChar

/-- A string as JSON. -/
def quote (s : List Char) : List Char := ['"'] ++ quoteBody s ++ ['"']

end Json

end BenchCampaign
