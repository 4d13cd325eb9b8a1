import BenchCampaign.Arithmetic
import BenchCampaign.NameTable
import BenchCampaign.Notice

/-!
# Relative speed

A baseline gives reference times of some drivers.  A driver's coefficient is
its time over the time of the fastest, so the fastest has coefficient one; a
time of zero is no reference.  A driver without a coefficient is taken to be as
fast as the fastest, and that is reported.

* `Coefficients.ofBaseline`, `Coefficients.factor`, `Coefficients.reports`.
-/

namespace BenchCampaign

/-- Reference times by driver name. -/
abbrev Baseline := NameTable UInt64

/-- Relative times by driver name. -/
abbrev Coefficients (α : Type) := NameTable α

namespace Baseline

/-- The entries that are references: those of a positive time. -/
def references (b : Baseline) : List (String × UInt64) :=
  b.entries.filter fun e => decide (0 < e.2)

/-- The smallest positive reference time. -/
def fastest? (b : Baseline) : Option UInt64 :=
  (b.references.map Prod.snd).min?

end Baseline

/-- A driver's cost had to be guessed. -/
structure GuessedCoefficient where
  driver : String
deriving DecidableEq, Repr

/-- The warning about a guessed coefficient. -/
def GuessedCoefficient.notice (g : GuessedCoefficient) : Notice :=
  ⟨.warning, "No baseline for driver " ++ g.driver ++ ", assuming coefficient 1.0", none⟩

namespace Coefficients

variable {α : Type} [Arithmetic α]

/-- Every reference time over the smallest one. -/
def ofBaseline (b : Baseline) : Coefficients α :=
  match Baseline.fastest? b with
  | none => NameTable.empty
  | some fastest =>
    ⟨(Baseline.references b).map fun e =>
      (e.1, Arithmetic.ofNat e.2.toNat / Arithmetic.ofNat fastest.toNat)⟩

/-- The coefficient of a driver: one, if there is none. -/
def factor (c : Coefficients α) (driver : String) : α :=
  (c.get? driver).getD (Arithmetic.ofNat 1)

/-- What looking up a driver's coefficient reports. -/
def reports (c : Coefficients α) (driver : String) : List GuessedCoefficient :=
  if c.contains driver then [] else [⟨driver⟩]

end Coefficients

end BenchCampaign
