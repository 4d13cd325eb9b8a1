import BenchCampaign.ResultSet

/-!
# The geometry of a bar chart

A chart has one bar per driver on a common base line, and a value axis from
zero to the greatest value with six ticks.  Bars and ticks are scaled to the
same height; each bar stands in a slot of its own, with the slots side by side.

* `Geometry.ofResults`: the parts of the chart of a non-empty result set.
-/

namespace BenchCampaign

namespace Chart

/-- The size of a chart. -/
structure Size (α : Type) where
  width : α
  height : α
deriving Repr

/-- A mark on the value axis. -/
structure Tick (α : Type) where
  value : α
  y : α
deriving Repr

/-- The bar of a driver. -/
structure Bar (α : Type) where
  driver : String
  value : α
  x : α
  y : α
  width : α
  height : α
  /-- The middle of the bar. -/
  center : α
deriving Repr

section
variable {α : Type} [Arithmetic α]

/-! ## Margins -/

/-- The margin to the left of the plot. -/
def marginLeft : α := Arithmetic.ofNat 90

/-- The margin to the right of the plot. -/
def marginRight : α := Arithmetic.ofNat 20

/-- The margin above the plot. -/
def marginTop : α := Arithmetic.ofNat 50

/-- The margin below the plot. -/
def marginBottom : α := Arithmetic.ofNat 60

/-- The number of steps of the value axis. -/
def tickSteps : Nat := 5

/-- The part of a slot that its bar fills: four fifths. -/
def barShare : α := Arithmetic.ofNat 4 / Arithmetic.ofNat 5

namespace Size

/-- The width of the plot. -/
def plotWidth (s : Size α) : α := s.width - marginLeft - marginRight

/-- The height of the plot. -/
def plotHeight (s : Size α) : α := s.height - marginTop - marginBottom

/-- The right end of the plot. -/
def plotRight (s : Size α) : α := marginLeft + s.plotWidth

/-- The line that bars stand on. -/
def baseline (s : Size α) : α := marginTop + s.plotHeight

end Size

/-! ## Ticks and bars -/

/-- The value at the top of the plot: the greatest value if that is positive, else one. -/
def topValue (greatest : α) : α :=
  if Arithmetic.below (Arithmetic.ofNat 0) greatest then greatest else Arithmetic.ofNat 1

/-- A tick of the value axis. -/
def tick (s : Size α) (top : α) (k : Nat) : Tick α :=
  { value := top * Arithmetic.ofNat k / Arithmetic.ofNat tickSteps
    y := s.baseline - s.plotHeight * Arithmetic.ofNat k / Arithmetic.ofNat tickSteps }

/-- The slot width for a number of bars. -/
def slotWidth (s : Size α) (count : Nat) : α := s.plotWidth / Arithmetic.ofNat count

/-- The height of a bar; a value that is not positive has none. -/
def barHeight (s : Size α) (top value : α) : α :=
  s.plotHeight * Arithmetic.greater value (Arithmetic.ofNat 0) / top

/-- The bar of an entry at a position. -/
def bar (s : Size α) (top : α) (count index : Nat) (driver : String) (value : α) : Bar α :=
  let slot := slotWidth s count
  let width := slot * barShare
  let height := barHeight s top value
  let x := marginLeft + slot * Arithmetic.ofNat index + (slot - width) / Arithmetic.ofNat 2
  { driver := driver
    value := value
    x := x
    y := s.baseline - height
    width := width
    height := height
    center := x + width / Arithmetic.ofNat 2 }

/-- The parts of a chart. -/
structure Geometry (α : Type) where
  size : Size α
  ticks : List (Tick α)
  bars : List (Bar α)
deriving Repr

/-- The chart of a result set; without results there is nothing to draw. -/
def Geometry.ofResults? (s : Size α) (results : ResultSet α) : Option (Geometry α) :=
  (ResultSet.max? results).map fun greatest =>
    let top := topValue greatest
    { size := s
      ticks := (List.range (tickSteps + 1)).map (tick s top)
      bars := results.entries.zipIdx.map fun e =>
        bar s top results.size e.2 e.1.1 e.1.2 }

end

end Chart

end BenchCampaign
