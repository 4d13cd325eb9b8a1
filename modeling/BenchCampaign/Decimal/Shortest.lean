import BenchCampaign.Decimal.Binary64

/-!
# The fewest digits that read back

Many decimal numbers round to the same double.  The shortest text of a double
has the fewest digits among them and is the nearest of those; of two that are
equally near, the format chooses.  The decimal
numbers with `n` digits form a grid; if any point of it rounds to the double,
one of the two grid points next to the double does.

* `Shortest.digits`: these digits, without trailing zeros, and the place of the point.
-/

namespace BenchCampaign

namespace Shortest

/-- Digits as a natural number that is no multiple of ten, and the power of ten
of the place before the first digit: `0.digits · 10 ^ point`. -/
structure Digits where
  value : Nat
  point : Int
deriving DecidableEq, Repr

/-- The number of decimal digits of a natural number. -/
def width (n : Nat) : Nat := (Nat.toDigits 10 n).length

/-- The least `k` from `from` on with `den ≤ num · 10 ^ k`, looking at `fuel` numbers. -/
def shiftFor (num den : Nat) : Nat → Nat → Nat
  | 0, k => k
  | fuel + 1, k => if den ≤ num * Nat.pow 10 k then k else shiftFor num den fuel (k + 1)

/-- The place of the point of `num / den`, which is positive: the least `p` with
`num / den < 10 ^ p`. -/
def pointOf (num den : Nat) : Int :=
  if den ≤ num then width (num / den)
  else 1 - (shiftFor num den (width den) 0 : Int)

/-- Drops trailing zeros. -/
def dropZeros : Nat → Nat → Nat
  | 0, n => n
  | fuel + 1, n => if n % 10 = 0 then dropZeros fuel (n / 10) else n

/-- The interval of numbers that round to a double, over a common denominator. -/
structure Interval where
  low : Nat
  value : Nat
  high : Nat
  denominator : Nat
  /-- Whether the ends round to the double as well. -/
  closed : Bool

/-- The interval of `significand · 2 ^ exponent`: half way to either neighbour. -/
def Interval.of (significand : Nat) (exponent : Int) : Interval :=
  let up := Nat.pow 2 exponent.toNat
  let down := Nat.pow 2 (-exponent).toNat
  let below := if significand = Nat.pow 2 52 && Binary64.minExponent < exponent then 1 else 2
  { low := (4 * significand - below) * up
    value := 4 * significand * up
    high := (4 * significand + 2) * up
    denominator := 4 * down
    closed := significand % 2 == 0 }

/-- Whether the quotient `num / den` lies in the interval. -/
def Interval.holds (i : Interval) (num den : Nat) : Bool :=
  let x := num * i.denominator
  let low := i.low * den
  let high := i.high * den
  if i.closed then decide (low ≤ x) && decide (x ≤ high)
  else decide (low < x) && decide (x < high)

/-- Which of two neighbours a number takes that is equally near to both. -/
inductive Tie where
  /-- The even one. -/
  | even
  /-- The greater one. -/
  | upper
deriving DecidableEq, Repr

/-- The natural number nearest to a quotient. -/
def Tie.round (tie : Tie) (num den : Nat) : Nat :=
  match tie with
  | even => Binary64.roundDiv num den
  | upper => (2 * num + den) / (2 * den)

/-- The nearer of the two grid points next to the value that lies in the
interval, on the grid of step `10 ^ step`. -/
def Interval.candidate? (i : Interval) (tie : Tie) (step : Int) : Option Nat :=
  let up := Nat.pow 10 step.toNat
  let down := Nat.pow 10 (-step).toNat
  let num := i.value * down
  let den := i.denominator * up
  let lower := num / den
  let nearer := tie.round num den
  let other := if nearer = lower then lower + 1 else lower
  if i.holds (nearer * up) down then some nearer
  else if i.holds (other * up) down then some other
  else none

/-- Tries ever finer grids. -/
def search (i : Interval) (tie : Tie) (point : Int) : Nat → Nat → Digits
  | 0, _ => ⟨0, point⟩
  | fuel + 1, n =>
    match i.candidate? tie (point - n) with
    | some c =>
      ⟨dropZeros (width c) c, point - n + width c⟩
    | none => search i tie point fuel (n + 1)

/-- The shortest digits of a positive double. -/
def digits (tie : Tie) (significand : Nat) (exponent : Int) : Digits :=
  let i := Interval.of significand exponent
  search i tie (pointOf i.value i.denominator) 17 1

end Shortest

end BenchCampaign
