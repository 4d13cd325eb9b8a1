/-!
# Classes of characters

The classes that go by a name between colons in brackets, over the characters of
the POSIX locale.

* `CharacterClass.holds`: whether a character is in a class.
* `CharacterClass.ofName?`: the class of a name.
-/

namespace BenchCampaign

namespace Shell

/-- A class of characters. -/
inductive CharacterClass where
  | alnum
  | alpha
  | blank
  | cntrl
  | digit
  | graph
  | lower
  | print
  | punct
  | space
  | upper
  | xdigit
deriving DecidableEq, Repr

namespace CharacterClass

/-- Whether a character is white space. -/
def isSpace (c : Char) : Bool := c = ' ' || '\t' ≤ c && c ≤ '\r'

/-- Whether a character leaves a mark. -/
def isGraphic (c : Char) : Bool := '!' ≤ c && c ≤ '~'

/-- Whether a character is in a class. -/
def holds (c : Char) : CharacterClass → Bool
  | alnum => c.isAlphanum
  | alpha => c.isAlpha
  | blank => c = ' ' || c = '\t'
  | cntrl => c < ' ' || c = '\x7f'
  | digit => c.isDigit
  | graph => isGraphic c
  | lower => c.isLower
  | print => isGraphic c || c = ' '
  | punct => isGraphic c && !c.isAlphanum
  | space => isSpace c
  | upper => c.isUpper
  | xdigit => c.isDigit || 'a' ≤ c && c ≤ 'f' || 'A' ≤ c && c ≤ 'F'

/-- The class of a name. -/
def ofName? (name : String) : Option CharacterClass :=
  match name with
  | "alnum" => some alnum
  | "alpha" => some alpha
  | "blank" => some blank
  | "cntrl" => some cntrl
  | "digit" => some digit
  | "graph" => some graph
  | "lower" => some lower
  | "print" => some print
  | "punct" => some punct
  | "space" => some space
  | "upper" => some upper
  | "xdigit" => some xdigit
  | _ => none

/-- The class that a text behind a bracket and a colon begins with, and what follows. -/
def named? (text : List Char) : Option (CharacterClass × List Char) :=
  let name := text.takeWhile Char.isAlpha
  match ofName? (String.ofList name), text.drop name.length with
  | some k, ':' :: ']' :: rest => some (k, rest)
  | _, _ => none

end CharacterClass

end Shell

end BenchCampaign
