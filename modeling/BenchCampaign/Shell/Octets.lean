import BenchCampaign.Text.Utf8

/-!
# Text of bytes

A shell passes bytes on without asking what text they are.  In it, a character
stands for one byte.

* `Octets.ofString`, `Octets.toText`: between text and its bytes.
* `Octets.natural?`: the number of a text of digits.
-/

namespace BenchCampaign

namespace Shell

/-- Text of which every character stands for one byte. -/
abbrev Octets := List Char

namespace Octets

/-- Bytes as characters. -/
def ofBytes (bytes : List UInt8) : Octets := bytes.map fun b => Char.ofNat b.toNat

/-- Characters as the bytes that they stand for. -/
def toBytes (cs : Octets) : List UInt8 := cs.map fun c => UInt8.ofNat c.toNat

/-- The bytes of a text. -/
def ofString (s : String) : Octets := ofBytes (Text.utf8 s.toList)

/-- The text that bytes spell, or each byte as a character if they spell none. -/
def toText (cs : Octets) : String :=
  match Text.ofUtf8? (toBytes cs) with
  | some text => String.ofList text
  | none => String.ofList cs

/-- The decimal digits of a number. -/
def ofNat (n : Nat) : Octets := Nat.toDigits 10 n

/-- The decimal digits of a number that may be negative. -/
def ofInt (n : Int) : Octets := if n < 0 then '-' :: ofNat n.natAbs else ofNat n.natAbs

/-- The number that decimal digits spell. -/
def natural? (cs : Octets) : Option Nat :=
  if cs.isEmpty || !cs.all Char.isDigit then none
  else some (cs.foldl (fun n c => n * 10 + (c.toNat - '0'.toNat)) 0)

/-- The number of a text with an optional sign and blanks around it. -/
def int? (cs : Octets) : Option Int :=
  let isSpace := fun c => c = ' ' || c = '\t' || c = '\n'
  match ((cs.dropWhile isSpace).reverse.dropWhile isSpace).reverse with
  | '-' :: ds => (natural? ds).map fun n => -(n : Int)
  | '+' :: ds => (natural? ds).map Int.ofNat
  | ds => (natural? ds).map Int.ofNat

/-- The number of a text that is not negative. -/
def count? (cs : Octets) : Option Nat :=
  (int? cs).bind fun n => if n < 0 then none else some n.toNat

/-- The lines of a text, each with its line feed. -/
def lines : Octets → List Octets
  | [] => []
  | c :: rest =>
    if c = '\n' then [c] :: lines rest
    else match lines rest with
      | [] => [[c]]
      | line :: others => (c :: line) :: others

/-- The parts of a text between a character. -/
def partsAt (d : Char) : Octets → List Octets
  | [] => [[]]
  | c :: rest =>
    if c = d then [] :: partsAt d rest
    else match partsAt d rest with
      | [] => [[c]]
      | p :: others => (c :: p) :: others

/-- A text without its last line feeds. -/
def dropLastLineFeeds (cs : Octets) : Octets :=
  (cs.reverse.dropWhile (· = '\n')).reverse

end Octets

end Shell

end BenchCampaign
