import BenchCampaign.Decimal.Shortest

/-!
# Numbers in text

How the outputs of a campaign spell numbers.  Coordinates are positional
throughout; a number as a settings file would spell it changes to an exponent
when it is very large or small; amounts have a fixed number of places, computed
from the exact value, a half going to the even neighbour.

* `Decimal.positional`, `Decimal.scientific`, `Decimal.fixed`.
-/

namespace BenchCampaign

namespace Decimal

/-- The digits of a natural number. -/
def natural (n : Nat) : String := String.ofList (Nat.toDigits 10 n)

/-- A minus sign, if there is one. -/
def sign (negative : Bool) : String := if negative then "-" else ""

/-- `count` zeros. -/
def zeros (count : Nat) : String := String.ofList (List.replicate count '0')

/-- Digits with the point put in its place, without a fraction of zero. -/
def place (d : Shortest.Digits) : String :=
  let ds := Nat.toDigits 10 d.value
  if d.point ≤ 0 then "0." ++ zeros (-d.point).toNat ++ String.ofList ds
  else
    let whole := d.point.toNat
    if ds.length ≤ whole then String.ofList ds ++ zeros (whole - ds.length)
    else String.ofList (ds.take whole) ++ "." ++ String.ofList (ds.drop whole)

/-- The shortest digits, the greater ones of two equally near, never with an exponent. -/
def positional (x : Float) : String :=
  match Binary64.ofFloat x with
  | .nan => "NaN"
  | .infinite negative => sign negative ++ "inf"
  | .finite negative 0 _ => sign negative ++ "0"
  | .finite negative m e => sign negative ++ place (Shortest.digits .upper m e)

/-- One digit, the other digits after a point, and the power of ten. -/
def withExponent (d : Shortest.Digits) : String :=
  let ds := Nat.toDigits 10 d.value
  let fraction := ds.drop 1
  let power := d.point - 1
  String.ofList (ds.take 1) ++
    (if fraction.isEmpty then "" else "." ++ String.ofList fraction) ++
    "e" ++ sign (decide (power < 0)) ++ natural power.natAbs

/-- The shortest digits as a settings file spells them: the even ones of two equally near,
with a point, and with an exponent from 10 ^ 16 on and below 10 ^ -5. -/
def scientific (x : Float) : String :=
  match Binary64.ofFloat x with
  | .nan => ".nan"
  | .infinite negative => sign negative ++ ".inf"
  | .finite negative 0 _ => sign negative ++ "0.0"
  | .finite negative m e =>
    let d := Shortest.digits .even m e
    if -5 < d.point && d.point ≤ 16 then
      let text := place d
      sign negative ++ (if text.toList.contains '.' then text else text ++ ".0")
    else sign negative ++ withExponent d

/-- A fixed number of places. -/
def fixed (places : Nat) (x : Float) : String :=
  match Binary64.ofFloat x with
  | .nan => "NaN"
  | .infinite negative => sign negative ++ "inf"
  | .finite negative m e =>
    let unit := Nat.pow 10 places
    let scaled := m * unit
    let units := Binary64.roundDiv (scaled * Nat.pow 2 e.toNat) (Nat.pow 2 (-e).toNat)
    let whole := natural (units / unit)
    if places = 0 then sign negative ++ whole
    else
      let fraction := natural (units % unit)
      sign negative ++ whole ++ "." ++ zeros (places - fraction.length) ++ fraction

end Decimal

end BenchCampaign
