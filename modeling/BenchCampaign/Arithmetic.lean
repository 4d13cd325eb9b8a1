/-!
# Arithmetic

Costs and coordinates are computed by a few operations, always in the same
order.  `Arithmetic` names these operations, so that one definition serves
double-precision numbers, where every step rounds, and exact numbers, where
the laws of the computation are stated.
-/

namespace BenchCampaign

/-- The operations that costs and coordinates are computed with. -/
class Arithmetic (α : Type) extends Add α, Sub α, Mul α, Div α where
  /-- The number nearest to a natural number. -/
  ofNat : Nat → α
  /-- The sum of no numbers. -/
  emptySum : α
  /-- Whether the first number is less than the second. -/
  below : α → α → Bool
  /-- Whether this is a number at all. -/
  isNumber : α → Bool

namespace Arithmetic

variable {α : Type} [Arithmetic α]

/-- The sum of a list, from the left. -/
def sum (xs : List α) : α :=
  xs.foldl (· + ·) emptySum

/-- The greater of two, where anything is greater than what is no number. -/
def greater (a b : α) : α :=
  if isNumber a && !below a b then a
  else if isNumber b then b
  else a

end Arithmetic

end BenchCampaign
