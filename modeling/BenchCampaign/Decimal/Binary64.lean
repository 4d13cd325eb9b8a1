import BenchCampaign.Arithmetic

/-!
# Double-precision numbers, taken apart

A finite double is `± significand · 2 ^ exponent` with natural significand.
Taking a double apart makes its exact value available to integer arithmetic,
which is what reading and writing decimal text rests on.

* `Binary64.ofFloat` takes a double apart.
* `Binary64.nearest` is the double nearest to a quotient of natural numbers.
* `Binary64.rank` orders all doubles: what is no number first, then by size.
-/

namespace BenchCampaign

/-- The value of a double. -/
inductive Binary64 where
  | nan
  | infinite (negative : Bool)
  | finite (negative : Bool) (significand : Nat) (exponent : Int)
deriving DecidableEq, Repr

namespace Binary64

/-- The exponent of the smallest positive double. -/
def minExponent : Int := -1074

/-- The parts of a double. -/
def ofFloat (x : Float) : Binary64 :=
  let bits := x.toBits.toNat
  let negative := decide (Nat.pow 2 63 ≤ bits)
  let field : Nat := bits / Nat.pow 2 52 % Nat.pow 2 11
  let fraction : Nat := bits % Nat.pow 2 52
  if field = 2047 then
    if fraction = 0 then infinite negative else nan
  else if field = 0 then finite negative fraction minExponent
  else finite negative (Nat.pow 2 52 + fraction) ((field : Int) - 1 + minExponent)

/-- Whether a double is a whole number. -/
def isWhole (x : Float) : Bool :=
  match ofFloat x with
  | finite _ significand exponent => significand % Nat.pow 2 (-exponent).toNat == 0
  | _ => false

/-- The quotient of two natural numbers, a half going to the even neighbour. -/
def roundDiv (num den : Nat) : Nat :=
  let q := num / den
  let r := num % den
  if den < 2 * r || (2 * r == den && q % 2 == 1) then q + 1 else q

/-- The numerator and denominator of `num / den / 2 ^ e`. -/
def scaled (num den : Nat) (e : Int) : Nat × Nat :=
  if e < 0 then (num * Nat.pow 2 e.natAbs, den) else (num, den * Nat.pow 2 e.natAbs)

/-- The exponent at which the quotient has 53 binary digits, or the least one. -/
def exponentFor (num den : Nat) : Int :=
  let guess : Int := (num.log2 : Int) - den.log2 - 52
  let (n, d) := scaled num den guess
  max minExponent (if n / d < Nat.pow 2 52 then guess - 1 else guess)

/-- The bits of the double nearest to `num / den`, which is not negative. -/
def nearestBits (num den : Nat) : Nat :=
  if num = 0 || den = 0 then 0
  else
    let e := exponentFor num den
    let (n, d) := scaled num den e
    let bits := (e - minExponent).toNat * Nat.pow 2 52 + roundDiv n d
    min bits (2047 * Nat.pow 2 52)

/-- The double nearest to a quotient; a half goes to the even significand. -/
def nearest (negative : Bool) (num den : Nat) : Float :=
  let bits := nearestBits num den
  Float.ofBits (UInt64.ofNat (if negative then Nat.pow 2 63 + bits else bits))

/-- The place of a double in the order of all doubles: what is no number comes
first, then negative numbers, negative zero, zero and positive numbers.  What is
no number has its place by its sign bit.  All that is compared here is the
result of an operation, which leaves that sign open; it is taken to be set, as
processors set it where an operation has no result, and what has it set comes
before all numbers. -/
def rank (x : Float) : Int :=
  let bits := x.toBits.toNat
  if x.isNaN then -(Nat.pow 2 63 : Nat)
  else if bits < Nat.pow 2 63 then bits
  else -((bits : Int) - (Nat.pow 2 63 : Nat)) - 1

/-- Whether a double comes no later than another in the order of all doubles. -/
def precedes (x y : Float) : Bool :=
  decide (rank x ≤ rank y)

end Binary64

instance : Arithmetic Float where
  ofNat n := Binary64.nearest false n 1
  emptySum := -0.0
  below a b := a < b
  isNumber a := a == a

end BenchCampaign
