import BenchCampaign.Proofs.Chart.Markup
import BenchCampaign.Proofs.Decimal.Numeral

/-!
# Names in a chart

A chart shows two kinds of free text, its title and the names of the drivers.  Both stand in text
elements, so that nothing else of the document depends on them, and there they can be read back.

* `Chart.closed_elements`: no attribute of a chart ends a tag.
* `Chart.hollow_elements`, `Chart.nameless_ofResults?`: apart from free text a chart depends on
  the numbers alone.
* `Chart.contents_elements`: the texts of a chart.
* `Chart.markup_independent_of_names`: what this comes to for the documents of charts.
-/

namespace BenchCampaign

namespace Chart

open Svg

/-! ## Attributes -/

/-- Numbers have no sign of markup. -/
theorem not_mem_of_spells {text : String} {c : Char} (markup : c ∈ ['>', '"'])
    (spelled : Decimal.Spells text) : c ∉ text.toList := by
  have other : ∀ c ∈ ['>', '"'],
      ¬ (c.isDigit = true ∨ c ∈ ['-', '.', 'N', 'a', 'i', 'n', 'f']) := by simp
  exact fun shown => other c markup (spelled c shown)

@[simp]
theorem not_mem_coordinate (x : Float) : '>' ∉ (coordinate x).toList :=
  not_mem_of_spells (by decide) (Decimal.spells_positional x)

@[simp]
theorem not_mem_toDigits (n : Nat) : '>' ∉ Nat.toDigits 10 n := fun shown =>
  absurd (Decimal.isDigit_toDigits shown) (by decide)

theorem color_mem (index : Nat) : color index ∈ colors := by
  have bound : index % colors.length < colors.length := Nat.mod_lt index (by decide)
  rw [color, List.getElem?_eq_getElem bound]
  exact List.getElem_mem bound

@[simp]
theorem not_mem_color (index : Nat) : '>' ∉ (color index).toList := by
  have plain : ∀ name ∈ colors, '>' ∉ name.toList := by simp [colors]
  exact plain _ (color_mem index)

/-! ## Elements -/

theorem closed_label {anchor : String} (plain : '>' ∉ anchor.toList) (x y : Float)
    (fontSize : Nat) (content : String) : (label x y anchor fontSize content).Closed := by
  simp [label, Attribute.Closed, plain]

theorem closed_segment {stroke : String} (plain : '>' ∉ stroke.toList) (x₁ y₁ x₂ y₂ : Float) :
    (segment x₁ y₁ x₂ y₂ stroke).Closed := by
  simp [segment, Attribute.Closed, IsName, plain]

theorem closed_heading (s : Size Float) (title : String) : ∀ e ∈ heading s title, e.Closed := by
  simp [heading, closed_label, Attribute.Closed, IsName]

theorem closed_tickElements (s : Size Float) (t : Tick Float) :
    ∀ e ∈ tickElements s t, e.Closed := by
  simp [tickElements, closed_label, closed_segment]

theorem closed_barElements (s : Size Float) (index : Nat) (b : Bar Float) :
    ∀ e ∈ barElements s index b, e.Closed := by
  simp [barElements, closed_label, Attribute.Closed, IsName]

theorem closed_axes (s : Size Float) : ∀ e ∈ axes s, e.Closed := by
  simp [axes, closed_label, closed_segment, Attribute.Closed]

/-- No attribute of a chart ends a tag. -/
theorem closed_elements (g : Geometry Float) (title : String) :
    ∀ e ∈ elements g title, e.Closed := by
  simp only [elements, List.forall_mem_append, List.forall_mem_flatMap]
  exact ⟨⟨⟨closed_heading g.size title, fun t _ => closed_tickElements g.size t⟩,
    fun b _ => closed_barElements g.size b.2 b.1⟩, closed_axes g.size⟩

/-! ## Texts -/

theorem flatMap_zipIdx {α β : Type} (f : α → List β) (l : List α) :
    (l.zipIdx.flatMap fun e => f e.1) = l.flatMap f := by
  have entries : l.zipIdx.map Prod.fst = l := List.zipIdx_map_fst 0 l
  rw [← List.flatMap_map, entries]

/-- The texts of a chart: its title, the axis, the bars with their drivers, and what is
measured. -/
theorem contents_elements (g : Geometry Float) (title : String) :
    (elements g title).flatMap Element.contents =
      title :: (g.ticks.map fun t => valueLabel t.value) ++
        (g.bars.flatMap fun b => [valueLabel b.value, b.driver]) ++
        ["Driver", "Time in milliseconds (less is better)"] := by
  have ticks : (g.ticks.flatMap (tickElements g.size)).flatMap Element.contents =
      g.ticks.map fun t => valueLabel t.value := by
    rw [List.flatMap_assoc]
    exact List.map_eq_flatMap.symm
  have bars : (g.bars.zipIdx.flatMap fun b => barElements g.size b.2 b.1).flatMap
      Element.contents = g.bars.flatMap fun b => [valueLabel b.value, b.driver] := by
    rw [List.flatMap_assoc]
    exact flatMap_zipIdx (fun b => [valueLabel b.value, b.driver]) g.bars
  rw [elements, List.flatMap_append, List.flatMap_append, List.flatMap_append, ticks, bars]
  rfl

/-! ## What depends on texts -/

/-- A bar without the name of its driver. -/
def Bar.nameless (b : Bar Float) : Bar Float := { b with driver := "" }

/-- A geometry without the names of drivers. -/
def Geometry.nameless (g : Geometry Float) : Geometry Float :=
  { g with bars := g.bars.map Bar.nameless }

/-- Apart from its texts a chart depends on its geometry alone. -/
theorem hollow_elements (g : Geometry Float) (title : String) :
    (elements g title).map Element.hollow = (elements g.nameless "").map Element.hollow := by
  have bars : (g.bars.zipIdx.flatMap fun b => barElements g.size b.2 b.1).map Element.hollow =
      (g.nameless.bars.zipIdx.flatMap fun b => barElements g.size b.2 b.1).map Element.hollow := by
    rw [Geometry.nameless, List.zipIdx_map, List.flatMap_map, List.map_flatMap, List.map_flatMap]
    rfl
  simp only [elements, List.map_append, bars]
  rfl

/-- The geometry of a result set depends on names only where these are told. -/
theorem nameless_ofResults? (s : Size Float) (results : ResultSet Float) :
    (Geometry.ofResults? s results).map Geometry.nameless =
      (ResultSet.max? results).map fun greatest =>
        { size := s
          ticks := (List.range (tickSteps + 1)).map (tick s (topValue greatest))
          bars := (ResultSet.values results).zipIdx.map fun v =>
            bar s (topValue greatest) (ResultSet.values results).length v.2 "" v.1 } := by
  have count : (ResultSet.values results).length = results.size := List.length_map _
  rw [Geometry.ofResults?, Option.map_map, count]
  congr 1
  funext greatest
  simp only [Function.comp_apply, Geometry.nameless, ResultSet.values, List.zipIdx_map,
    List.map_map]
  rfl

/-- Result sets with the same numbers have the same geometry, but for the names. -/
theorem nameless_ofResults?_eq (s : Size Float) {results others : ResultSet Float}
    (same : ResultSet.values others = ResultSet.values results) :
    (Geometry.ofResults? s others).map Geometry.nameless =
      (Geometry.ofResults? s results).map Geometry.nameless := by
  rw [nameless_ofResults?, nameless_ofResults?, ResultSet.max?, ResultSet.max?, same]

/-- What is not empty can be drawn. -/
theorem exists_ofResults? {α : Type} [Arithmetic α] (s : Size α) {results : ResultSet α}
    (some : results.entries ≠ []) : ∃ g, Geometry.ofResults? s results = .some g := by
  obtain ⟨e, rest, entries⟩ := List.exists_cons_of_ne_nil some
  have values : ResultSet.values results = e.2 :: rest.map Prod.snd := by
    rw [ResultSet.values, entries]
    rfl
  rw [Geometry.ofResults?, ResultSet.max?, values]
  exact ⟨_, rfl⟩

/-- The bars of a chart are those of the entries, in order. -/
theorem bars_ofResults? {s : Size Float} {results : ResultSet Float} {g : Geometry Float}
    (drawn : Geometry.ofResults? s results = some g) :
    (g.bars.flatMap fun b => [valueLabel b.value, b.driver]) =
      results.entries.flatMap fun e => [valueLabel e.2, e.1] := by
  obtain ⟨greatest, -, rfl⟩ := Option.map_eq_some_iff.mp drawn
  dsimp only
  rw [List.flatMap_map]
  exact flatMap_zipIdx (fun e : String × Float => [valueLabel e.2, e.1]) results.entries

/-! ## Documents -/

/-- The text elements of a document hold the texts of the chart. -/
theorem textContents_elements (g : Geometry Float) (title : String) :
    (textContents (Svg.render (elements g title))).map unescape =
      ((elements g title).flatMap Element.contents).map String.toList := by
  rw [textContents_render (closed_elements g title), List.map_map]
  exact List.map_congr_left fun content _ => unescape_escape content.toList

/-- The tags of a document are those of a chart without texts. -/
theorem tags_elements (g : Geometry Float) (title : String) :
    tags (Svg.render (elements g title)) = tags (Svg.render (elements g.nameless "")) :=
  tags_render_eq (closed_elements g title) (closed_elements g.nameless "")
    (hollow_elements g title)

/-- **Titles and names of drivers do not alter the markup.**  Escaped text shows nothing that
markup is made of but ampersands in front of entities, and in one pass it reads back as the text
it came from.  So every result set that is not empty has a document in which the texts are the
title, the values of the axis, and each driver behind its value, in order; and all result sets
with the same numbers, whatever the names and titles are, have documents with the same tags. -/
theorem markup_independent_of_names :
    (∀ text, '<' ∉ escape text ∧ '>' ∉ escape text ∧ '"' ∉ escape text ∧
      (∀ before behind, escape text = before ++ '&' :: behind → ∃ e ∈ entities, e <+: behind) ∧
      unescape (escape text) = text ∧
      escape text = replace '"' "&quot;"
        (replace '>' "&gt;" (replace '<' "&lt;" (replace '&' "&amp;" text)))) ∧
    Function.Injective escape ∧
    ∀ (s : Size Float) (results : ResultSet Float) (title : String), results.entries ≠ [] →
      ∃ g document, Geometry.ofResults? s results = some g ∧
        render? s results title = some document ∧
        (textContents document.toList).map unescape =
          (title :: (g.ticks.map fun t => valueLabel t.value) ++
            (results.entries.flatMap fun e => [valueLabel e.2, e.1]) ++
            ["Driver", "Time in milliseconds (less is better)"]).map String.toList ∧
        ∀ (others : ResultSet Float) (otherTitle : String),
          ResultSet.values others = ResultSet.values results →
            ∃ other, render? s others otherTitle = some other ∧
              tags other.toList = tags document.toList := by
  refine ⟨fun text => ?_, escape_injective, fun s results title filled => ?_⟩
  · have hidden := not_mem_escape text
    exact ⟨hidden '<' (by decide), hidden '>' (by decide), hidden '"' (by decide),
      fun _ _ => mem_entities_of_escape, unescape_escape text, escape_eq_replace text⟩
  · obtain ⟨g, drawn⟩ := exists_ofResults? s filled
    refine ⟨g, String.ofList (Svg.render (elements g title)), drawn, ?_, ?_, ?_⟩
    · rw [render?, drawn]
      rfl
    · rw [String.toList_ofList, textContents_elements, contents_elements, bars_ofResults? drawn]
    · intro others otherTitle same
      have bare := nameless_ofResults?_eq s same
      rw [drawn] at bare
      obtain ⟨g', drawn', nameless⟩ := Option.map_eq_some_iff.mp bare
      refine ⟨String.ofList (Svg.render (elements g' otherTitle)), ?_, ?_⟩
      · rw [render?, drawn']
        rfl
      · rw [String.toList_ofList, String.toList_ofList, tags_elements g',
          tags_elements g, nameless]

/-- Names that look like an entity and like the end of their element. -/
theorem tags_closingName :
    let results : ResultSet Float := ⟨[("&lt;", 1), ("</text>", 2)]⟩
    let others : ResultSet Float := ⟨[("rust", 1), ("cpp", 2)]⟩
    results.entries ≠ [] ∧ ResultSet.values others = ResultSet.values results ∧
      ∃ document other, render? standardSize results "a & b" = some document ∧
        render? standardSize others "" = some other ∧
        tags other.toList = tags document.toList ∧
        ∀ name ∈ ["a & b", "&lt;", "</text>"],
          name.toList ∈ (textContents document.toList).map unescape := by
  intro results others
  have filled : results.entries ≠ [] := nofun
  obtain ⟨g, document, -, drawn, texts, independent⟩ :=
    markup_independent_of_names.2.2 standardSize results "a & b" filled
  obtain ⟨other, drawnOther, same⟩ := independent others "" rfl
  refine ⟨filled, rfl, document, other, drawn, drawnOther, same, ?_⟩
  rw [texts]
  simp [results]

end Chart

end BenchCampaign
