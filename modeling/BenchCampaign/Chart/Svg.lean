import BenchCampaign.Chart.Geometry
import BenchCampaign.Decimal.Text

/-!
# Charts as SVG

A chart is written as a document of elements, one a line.  An element is a
piece of markup or a text with its markup around it; free text is escaped, so
that it cannot alter the markup.

* `Svg.escape`: text that holds no markup.
* `Chart.render`: the document of a chart.
-/

namespace BenchCampaign

/-! ## Documents -/

namespace Svg

/-- A character as it stands in free text. -/
def escapeChar (c : Char) : List Char :=
  if c = '&' then "&amp;".toList
  else if c = '<' then "&lt;".toList
  else if c = '>' then "&gt;".toList
  else if c = '"' then "&quot;".toList
  else [c]

/-- Text that holds no markup. -/
def escape (text : List Char) : List Char := text.flatMap escapeChar

/-- An attribute of an element. -/
structure Attribute where
  name : String
  value : String
deriving Repr

/-- A line of a document. -/
inductive Element where
  /-- The beginning of the document. -/
  | opening (attributes : List Attribute)
  /-- An element without content. -/
  | shape (name : String) (attributes : List Attribute)
  /-- A text, not yet escaped. -/
  | text (attributes : List Attribute) (content : String)
  /-- The end of the document. -/
  | closing
deriving Repr

/-- An attribute with a blank before it. -/
def Attribute.render (a : Attribute) : List Char :=
  [' '] ++ a.name.toList ++ ['=', '"'] ++ a.value.toList ++ ['"']

/-- A tag of markup. -/
def tag (name : String) (attributes : List Attribute) (ending : List Char) : List Char :=
  ['<'] ++ name.toList ++ attributes.flatMap Attribute.render ++ ending

/-- An element on its line. -/
def Element.render : Element → List Char
  | opening attributes => tag "svg" attributes ['>', '\n']
  | shape name attributes => tag name attributes ['/', '>', '\n']
  | text attributes content =>
    tag "text" attributes ['>'] ++ escape content.toList ++ "</text>\n".toList
  | closing => "</svg>\n".toList

/-- The text of a document. -/
def render (elements : List Element) : List Char := elements.flatMap Element.render

end Svg

/-! ## The document of a chart -/

namespace Chart

open Svg

/-- A coordinate. -/
def coordinate (x : Float) : String := Decimal.positional x

/-- A value as labels show it: whole numbers without a place, others with one. -/
def valueLabel (x : Float) : String :=
  if Binary64.isWhole x then Decimal.fixed 0 x else Decimal.fixed 1 x

/-- The colours of the bars, in turn. -/
def colors : List String := ["red", "blue", "teal", "green", "yellow"]

/-- The colour of the bar at a position. -/
def color (index : Nat) : String := (colors[index % colors.length]?).getD ""

/-- A centred or right-aligned text of some size at a place. -/
def label (x y : Float) (anchor : String) (fontSize : Nat) (content : String) : Element :=
  .text [⟨"x", coordinate x⟩, ⟨"y", coordinate y⟩, ⟨"text-anchor", anchor⟩,
    ⟨"font-size", toString fontSize⟩] content

/-- A straight line. -/
def segment (x1 y1 x2 y2 : Float) (stroke : String) : Element :=
  .shape "line" [⟨"x1", coordinate x1⟩, ⟨"y1", coordinate y1⟩, ⟨"x2", coordinate x2⟩,
    ⟨"y2", coordinate y2⟩, ⟨"stroke", stroke⟩]

/-- The beginning of the document, its background and its title. -/
def heading (s : Size Float) (title : String) : List Element :=
  let w := coordinate s.width
  let h := coordinate s.height
  [ .opening [⟨"xmlns", "http://www.w3.org/2000/svg"⟩, ⟨"width", w⟩, ⟨"height", h⟩,
      ⟨"viewBox", "0 0 " ++ w ++ " " ++ h⟩, ⟨"font-family", "sans-serif"⟩],
    .shape "rect" [⟨"width", w⟩, ⟨"height", h⟩, ⟨"fill", "white"⟩],
    label (s.width / 2) (marginTop / 2) "middle" 16 title ]

/-- A tick's line across the plot and its value. -/
def tickElements (s : Size Float) (t : Tick Float) : List Element :=
  [ segment marginLeft t.y s.plotRight t.y "lightgray",
    label (marginLeft - 5) (t.y + 3) "end" 10 (valueLabel t.value) ]

/-- A bar, its value above it and its driver below it. -/
def barElements (s : Size Float) (index : Nat) (b : Bar Float) : List Element :=
  [ .shape "rect" [⟨"x", coordinate b.x⟩, ⟨"y", coordinate b.y⟩, ⟨"width", coordinate b.width⟩,
      ⟨"height", coordinate b.height⟩, ⟨"fill", color index⟩],
    label b.center (b.y - 4) "middle" 11 (valueLabel b.value),
    label b.center (s.baseline + 15) "middle" 11 b.driver ]

/-- The axes and what they measure, and the end of the document. -/
def axes (s : Size Float) : List Element :=
  let middle := coordinate (marginTop + s.plotHeight / 2)
  [ segment marginLeft marginTop marginLeft s.baseline "black",
    segment marginLeft s.baseline s.plotRight s.baseline "black",
    label (marginLeft + s.plotWidth / 2) (s.height - 15) "middle" 12 "Driver",
    .text [⟨"x", "15"⟩, ⟨"y", middle⟩, ⟨"text-anchor", "middle"⟩, ⟨"font-size", "12"⟩,
      ⟨"transform", "rotate(-90 15 " ++ middle ++ ")"⟩] "Time in milliseconds (less is better)",
    .closing ]

/-- The elements of a chart. -/
def elements (g : Geometry Float) (title : String) : List Element :=
  heading g.size title ++ g.ticks.flatMap (tickElements g.size) ++
    (g.bars.zipIdx.flatMap fun b => barElements g.size b.2 b.1) ++ axes g.size

/-- The size that charts have unless another is asked for. -/
def standardSize : Size Float := ⟨640, 480⟩

/-- The document of a result set's chart; without results there is none. -/
def render? (s : Size Float) (results : ResultSet Float) (title : String) : Option String :=
  (Geometry.ofResults? s results).map fun g => String.ofList (Svg.render (elements g title))

end Chart

end BenchCampaign
