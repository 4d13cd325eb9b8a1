import BenchCampaign.Shell.Octets

/-!
# Numerals

Numbers as the C language writes them: in decimal digits, in octal digits behind a zero,
in hexadecimal digits behind `0x`.

* `Numeral.leading?`: the number that a text begins with, and what follows it.
* `Numeral.signed`: a number behind blanks and a sign.
-/

namespace BenchCampaign

namespace Shell

namespace Numeral

/-- Whether a character is an octal digit. -/
def isOctal (c : Char) : Bool := '0' ≤ c && c ≤ '7'

/-- Whether a character is a hexadecimal digit. -/
def isHexadecimal (c : Char) : Bool :=
  c.isDigit || 'a' ≤ c && c ≤ 'f' || 'A' ≤ c && c ≤ 'F'

/-- The value of a digit; letters stand for ten and more. -/
def digitValue (c : Char) : Nat :=
  if c.isDigit then c.toNat - '0'.toNat else c.toLower.toNat - 'a'.toNat + 10

/-- The number of digits in a base. -/
def ofDigits (base : Nat) (cs : Octets) : Nat :=
  cs.foldl (fun n c => n * base + digitValue c) 0

/-- The base that a text shows, the test for its digits, and the text from the digits on.
A zero whose `x` no digit follows stands for itself. -/
def base (text : Octets) : Nat × (Char → Bool) × Octets :=
  match text with
  | '0' :: x :: d :: rest =>
    if (x = 'x' || x = 'X') && isHexadecimal d then (16, isHexadecimal, d :: rest)
    else (8, isOctal, text)
  | '0' :: _ => (8, isOctal, text)
  | _ => (10, Char.isDigit, text)

/-- The number that a text begins with, and what follows it. -/
def leading? (text : Octets) : Option (Nat × Octets) :=
  let (b, isDigit, text) := base text
  let digits := text.takeWhile isDigit
  if digits.isEmpty then none else some (ofDigits b digits, text.drop digits.length)

/-- Whether a character can stand before a number. -/
def isSpace (c : Char) : Bool := c = ' ' || '\t' ≤ c && c ≤ '\r'

/-- The number behind blanks and a sign, and what follows it; a text that begins with no
number gives zero, and all of it follows. -/
def signed (text : Octets) : Int × Octets :=
  let found : Option (Int × Octets) := match text.dropWhile isSpace with
    | '-' :: cs => (leading? cs).map fun (n, rest) => (-(n : Int), rest)
    | '+' :: cs => (leading? cs).map fun (n, rest) => (n, rest)
    | cs => (leading? cs).map fun (n, rest) => (n, rest)
  found.getD (0, text)

/-- The largest number of 63 bits and a sign. -/
def largest : Nat := Nat.pow 2 63 - 1

/-- The number nearest to one among those of 63 bits and a sign. -/
def clamp (n : Int) : Int := max (-(largest : Int) - 1) (min n largest)

/-- The number that a whole text stands for, blanks around it apart. -/
def whole? (text : Octets) : Option Int :=
  let (n, rest) := signed text
  if text.isEmpty || !rest.all isSpace || clamp n ≠ n then none else some n

/-- The number that a whole text stands for in decimal digits, blanks around it apart. -/
def decimal? (text : Octets) : Option Int :=
  let (isNegative, digits) := match text.dropWhile isSpace with
    | '-' :: cs => (true, cs)
    | '+' :: cs => (false, cs)
    | cs => (false, cs)
  let number := digits.takeWhile Char.isDigit
  let n : Int := ofDigits 10 number
  let n := if isNegative then -n else n
  if number.isEmpty || !(digits.drop number.length).all isSpace || clamp n ≠ n then none else some n

end Numeral

end Shell

end BenchCampaign
