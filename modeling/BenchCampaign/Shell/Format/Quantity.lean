import BenchCampaign.Decimal.Reading
import BenchCampaign.Decimal.Shortest
import BenchCampaign.Shell.Numeral

/-!
# Quantities

Numbers with a fraction as the C language reads and writes them: in decimal or
hexadecimal digits, with an exponent or without.

* `Quantity.leading?`: the quantity that a text begins with.
* `Quantity.fixed`, `Quantity.scientific`, `Quantity.general`, `Quantity.hexadecimal`: its
  text.
-/

namespace BenchCampaign

namespace Shell

/-- A number that may have a fraction, or none. -/
inductive Quantity where
  | nan (negative : Bool)
  | infinite (negative : Bool)
  | finite (negative : Bool) (num den : Nat)
deriving DecidableEq, Repr

namespace Quantity

/-- Nothing. -/
def zero : Quantity := finite false 0 1

/-- Whether a quantity has a minus sign. -/
def isNegative : Quantity → Bool
  | nan negative => negative
  | infinite negative => negative
  | finite negative _ _ => negative

/-! ## Reading -/

/-- The exponent behind a mark, and what follows; a mark without digits is none. -/
def exponent (isMark : Char → Bool) (text : Octets) : Int × Octets :=
  match text with
  | c :: rest =>
    let (isNegative, digits) := match rest with
      | '-' :: cs => (true, cs)
      | '+' :: cs => (false, cs)
      | cs => (false, cs)
    let number := digits.takeWhile Char.isDigit
    if !isMark c || number.isEmpty then (0, text)
    else
      let n : Int := Numeral.ofDigits 10 number
      (if isNegative then -n else n, digits.drop number.length)
  | [] => (0, [])

/-- Digits with at most one point, how many stand behind it, and what follows. -/
def digits (isDigit : Char → Bool) (text : Octets) : Octets × Nat × Octets :=
  let whole := text.takeWhile isDigit
  match text.drop whole.length with
  | '.' :: rest =>
    let fraction := rest.takeWhile isDigit
    if whole.isEmpty && fraction.isEmpty then ([], 0, text)
    else (whole ++ fraction, fraction.length, rest.drop fraction.length)
  | rest => (whole, 0, rest)

/-- The largest power that is worked out. -/
def maxPower : Nat := 5000

/-- A number times a power of a base. -/
def scale (base n : Nat) (power : Int) : Nat × Nat :=
  if power < 0 then (n, Nat.pow base (min power.natAbs maxPower))
  else (n * Nat.pow base (min power.toNat maxPower), 1)

/-- The quantity that a text without sign begins with, and what follows. -/
def unsigned? (negative : Bool) (text : Octets) : Option (Quantity × Octets) :=
  let lower := text.map Char.toLower
  if "infinity".toList.isPrefixOf lower then some (infinite negative, text.drop 8)
  else if "inf".toList.isPrefixOf lower then some (infinite negative, text.drop 3)
  else if "nan".toList.isPrefixOf lower then some (nan negative, text.drop 3)
  else
    let hexadecimal := digits Numeral.isHexadecimal (text.drop 2)
    if "0x".toList.isPrefixOf lower && !hexadecimal.1.isEmpty then
      let (ds, places, rest) := hexadecimal
      let (e, rest) := exponent (fun c => c = 'p' || c = 'P') rest
      let (num, den) := scale 2 (Numeral.ofDigits 16 ds) (e - 4 * (places : Int))
      some (finite negative num den, rest)
    else
      let (ds, places, rest) := digits Char.isDigit text
      if ds.isEmpty then none
      else
        let (e, rest) := exponent (fun c => c = 'e' || c = 'E') rest
        let (num, den) := scale 10 (Numeral.ofDigits 10 ds) (e - (places : Int))
        some (finite negative num den, rest)

/-- The quantity that a text begins with behind blanks and a sign, and what follows. -/
def leading? (text : Octets) : Option (Quantity × Octets) :=
  match text.dropWhile Numeral.isSpace with
  | '-' :: cs => unsigned? true cs
  | '+' :: cs => unsigned? false cs
  | cs => unsigned? false cs

/-- The nearest double-precision number. -/
def rounded : Quantity → Quantity
  | finite negative num den =>
    match Binary64.ofFloat (Binary64.nearest negative num den) with
    | .nan => nan negative
    | .infinite negative => infinite negative
    | .finite negative m e =>
      finite negative (m * Nat.pow 2 e.toNat) (Nat.pow 2 (-e).toNat)
  | q => q

/-- Whether there is a double-precision number close to a quantity: it is not too large,
and not so small that digits get lost. -/
def isInRange (q : Quantity) : Bool :=
  match q, q.rounded with
  | finite .., infinite _ => false
  | finite _ num den, finite _ m d =>
    d ≤ m * Nat.pow 2 1022 || num * d = m * den
  | _, _ => true

/-! ## Writing -/

/-- The digits of a number, with zeros in front up to a length. -/
def padded (length n : Nat) : Octets :=
  let ds := Octets.ofNat n
  List.replicate (length - ds.length) '0' ++ ds

/-- Digits of which the last `places` stand behind a point. -/
def pointed (places : Nat) (showsPoint : Bool) (ds : Octets) : Octets :=
  let whole := ds.take (ds.length - places)
  if places = 0 then (if showsPoint then whole ++ ['.'] else whole)
  else whole ++ '.' :: ds.drop (ds.length - places)

/-- The digits of a number, of which the last `places` stand behind a point. -/
def withPoint (places : Nat) (showsPoint : Bool) (n : Nat) : Octets :=
  pointed places showsPoint (padded (places + 1) n)

/-- A number with a fixed count of places. -/
def fixed (places : Nat) (showsPoint : Bool) (num den : Nat) : Octets :=
  withPoint places showsPoint (Binary64.roundDiv (num * Nat.pow 10 places) den)

/-- The digits of a number, one in front of the point, and its exponent. -/
def scientificDigits (places num den : Nat) : Nat × Int :=
  if num = 0 then (0, 0)
  else
    let e := Shortest.pointOf num den - 1
    let power : Int := (places : Int) - e
    let n := if power < 0 then Binary64.roundDiv num (den * Nat.pow 10 power.natAbs)
      else Binary64.roundDiv (num * Nat.pow 10 power.toNat) den
    if n = Nat.pow 10 (places + 1) then (n / 10, e + 1) else (n, e)

/-- The exponent of a number. -/
def exponentText (upper : Bool) (e : Int) : Octets :=
  (if upper then 'E' else 'e') :: (if e < 0 then '-' else '+') :: padded 2 e.natAbs

/-- A number with an exponent. -/
def scientific (places : Nat) (showsPoint upper : Bool) (num den : Nat) : Octets :=
  let (n, e) := scientificDigits places num den
  withPoint places showsPoint n ++ exponentText upper e

/-- A text without the zeros at the end of its fraction. -/
def dropZeros (text : Octets) : Octets :=
  if !text.contains '.' then text
  else
    match text.reverse.dropWhile (· = '0') with
    | '.' :: rest => rest.reverse
    | rest => rest.reverse

/-- A number with so many digits that count, with an exponent if it is very large or small. -/
def general (precision : Nat) (keepsZeros upper : Bool) (num den : Nat) : Octets :=
  let p := max precision 1
  let (n, e) := scientificDigits (p - 1) num den
  let trim := fun text => if keepsZeros then text else dropZeros text
  if -4 ≤ e && e < (p : Int) then trim (fixed ((p : Int) - 1 - e).toNat keepsZeros num den)
  else trim (withPoint (p - 1) keepsZeros n) ++ exponentText upper e

/-- How many hexadecimal digits stand behind the point of a double-precision number. -/
def hexadecimalPlaces : Nat := 13

/-- A number with a hexadecimal fraction and a power of two, the first digit being that in
front of the point; without a precision, it shows all digits that are not zeros at the end. -/
def hexadecimal (precision : Option Nat) (showsPoint : Bool) (num den : Nat) : Octets :=
  let (m, e) := match Binary64.ofFloat (Binary64.nearest false num den) with
    | .finite _ m e => (m, e + 4 * (hexadecimalPlaces : Int))
    | _ => (0, 0)
  let places := precision.getD hexadecimalPlaces
  let n := if places < hexadecimalPlaces then
      Binary64.roundDiv m (Nat.pow 16 (hexadecimalPlaces - places))
    else m * Nat.pow 16 (places - hexadecimalPlaces)
  let ds := Nat.toDigits 16 n
  let ds := List.replicate (places + 1 - ds.length) '0' ++ ds
  let e := if m = 0 then 0 else e
  let fraction := match precision with
    | some _ => pointed places showsPoint ds
    | none =>
      let cs := dropZeros (pointed places true ds)
      if showsPoint && !cs.contains '.' then cs ++ ['.'] else cs
  fraction ++ 'p' :: (if e < 0 then '-' else '+') :: Octets.ofNat e.natAbs

end Quantity

end Shell

end BenchCampaign
