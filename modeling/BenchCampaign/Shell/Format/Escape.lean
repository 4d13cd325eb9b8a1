import BenchCampaign.Shell.Numeral

/-!
# Backslashes

What a backslash and the characters behind it stand for in formats and in echoed
text.

* `Escape.inFormat`: behind a backslash in a format.
* `Escape.inText`: the text of an argument with backslashes.
-/

namespace BenchCampaign

namespace Shell

namespace Escape

/-- The byte of up to `count` digits in a base, and what follows. -/
def byte (base count : Nat) (isDigit : Char → Bool) (text : Octets) : Char × Octets :=
  let digits := (text.take count).takeWhile isDigit
  (Char.ofNat (Numeral.ofDigits base digits % 256), text.drop digits.length)

/-- The byte of up to three octal digits, and what follows. -/
def octal (text : Octets) : Char × Octets := byte 8 3 Numeral.isOctal text

/-- The character of a letter behind a backslash. -/
def letter? : Char → Option Char
  | 'a' => some '\x07'
  | 'b' => some '\x08'
  | 'e' => some '\x1b'
  | 'f' => some '\x0c'
  | 'n' => some '\n'
  | 'r' => some '\r'
  | 't' => some '\t'
  | 'v' => some '\x0b'
  | '\\' => some '\\'
  | _ => none

/-- The character that stands behind a backslash, and what follows; a backslash that means
nothing stands for itself. -/
def inFormat : Octets → Char × Octets
  | [] => ('\\', [])
  | c :: rest =>
    match letter? c with
    | some d => (d, rest)
    | none => if Numeral.isOctal c then octal (c :: rest) else ('\\', c :: rest)

/-- The text of an argument with backslashes, and whether all output ends there; `behind`
reads what stands behind a backslash. -/
def inText (behind : Octets → Char × Octets) : (fuel : Nat) → Octets → Octets × Bool
  | 0, _ => ([], false)
  | _, [] => ([], false)
  | _, '\\' :: 'c' :: _ => ([], true)
  | fuel + 1, '\\' :: '0' :: rest =>
    let (c, rest) := octal rest
    let (more, ends) := inText behind fuel rest
    (c :: more, ends)
  | fuel + 1, '\\' :: rest =>
    let (c, rest) := behind rest
    let (more, ends) := inText behind fuel rest
    (c :: more, ends)
  | fuel + 1, c :: rest =>
    let (more, ends) := inText behind fuel rest
    (c :: more, ends)

/-- The character behind a backslash where bytes can also be given in hexadecimal digits,
and what follows. -/
def extended : Octets → Char × Octets
  | 'x' :: d :: rest =>
    if Numeral.isHexadecimal d then byte 16 2 Numeral.isHexadecimal (d :: rest)
    else ('\\', 'x' :: d :: rest)
  | text => inFormat text

end Escape

end Shell

end BenchCampaign
