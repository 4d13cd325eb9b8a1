import BenchCampaign.Decimal.Binary64

/-!
# Decimal text as a number

An optional sign, digits with at most one point and at least one digit beside
it, and an optional power of ten.  The value is the nearest double.

* `Decimal.read?`: the double of a decimal text.
-/

namespace BenchCampaign

namespace Decimal

/-- The value of a digit. -/
def digitValue (c : Char) : Nat := c.toNat - '0'.toNat

/-- The number that a list of digits spells. -/
def ofDigits (cs : List Char) : Nat :=
  cs.foldl (fun n c => n * 10 + digitValue c) 0

/-- The number of a non-empty text of digits. -/
def natural? (cs : List Char) : Option Nat :=
  if cs.isEmpty || !cs.all Char.isDigit then none else some (ofDigits cs)

/-- Takes a leading sign off; true for a minus. -/
def splitSign : List Char → Bool × List Char
  | '-' :: rest => (true, rest)
  | '+' :: rest => (false, rest)
  | rest => (false, rest)

/-- The power of ten that a text ends in; no text is the power zero. -/
def power? : List Char → Option Int
  | [] => some 0
  | c :: rest =>
    if c = 'e' || c = 'E' then
      let (negative, ds) := splitSign rest
      (natural? ds).map fun n => if negative then -(n : Int) else n
    else none

/-- A decimal number: `significand · 10 ^ power`. -/
structure Parts where
  negative : Bool
  significand : Nat
  power : Int
deriving DecidableEq, Repr

/-- The parts of an unsigned decimal text. -/
def unsigned? (negative : Bool) (cs : List Char) : Option Parts :=
  let whole := cs.takeWhile Char.isDigit
  let rest := cs.dropWhile Char.isDigit
  let (fraction, tail) := match rest with
    | '.' :: r => (r.takeWhile Char.isDigit, r.dropWhile Char.isDigit)
    | r => ([], r)
  if whole.isEmpty && fraction.isEmpty then none
  else (power? tail).map fun p =>
    ⟨negative, ofDigits (whole ++ fraction), p - fraction.length⟩

/-- The parts of a decimal text. -/
def parts? (cs : List Char) : Option Parts :=
  let (negative, rest) := splitSign cs
  unsigned? negative rest

/-- The double nearest to a decimal number.  Powers far outside the range of
doubles are decided without computing them. -/
def Parts.toFloat (p : Parts) : Float :=
  let size : Int := p.power + (p.significand.log2 / 3 : Nat) + 1
  if p.significand = 0 || size < -400 then Binary64.nearest p.negative 0 1
  else if 400 < p.power then Binary64.nearest p.negative (Nat.pow 2 2000) 1
  else Binary64.nearest p.negative (p.significand * Nat.pow 10 p.power.toNat)
    (Nat.pow 10 (-p.power).toNat)

/-- The nearest double of a decimal text. -/
def read? (cs : List Char) : Option Float :=
  (parts? cs).map Parts.toFloat

end Decimal

end BenchCampaign
