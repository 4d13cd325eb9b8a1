import BenchCampaign.Chart.File
import BenchCampaign.Proofs.Chart.Attributes
import BenchCampaign.Proofs.Chart.Finite
import BenchCampaign.Proofs.Decimal.Plain

/-!
# Numbers in the document of a chart

A document shows numbers in the attributes that places and sizes are told by, and in the labels of
ticks and bars.  All of them are plain decimals if and only if every value can be drawn: what is no
number or infinite shows in its label, and what is too large in the height of its bar.  A chart file
can have such values, as all of them are numbers to a reader of YAML.

* `Chart.numericNames`, `Chart.IsNumeric`: the attributes that are to be numbers.
* `Chart.attributes_elements`: the attributes of a document are those of the elements of its chart.
* `Chart.plain_iff_drawable`: when a document has only plain decimals.
-/

namespace BenchCampaign

namespace Chart

open Svg Decimal

/-! ## Reading attributes -/

@[simp]
theorem quote_not_mem_coordinate (x : Float) : '"' ∉ (coordinate x).toList :=
  not_mem_of_spells (by decide) (Decimal.spells_positional x)

@[simp]
theorem quote_not_mem_toDigits (n : Nat) : '"' ∉ Nat.toDigits 10 n := fun shown =>
  absurd (Decimal.isDigit_toDigits shown) (by decide)

@[simp]
theorem quote_not_mem_color (index : Nat) : '"' ∉ (color index).toList := by
  have plain : ∀ name ∈ colors, '"' ∉ name.toList := by simp [colors]
  exact plain _ (color_mem index)

theorem readable_label {anchor : String} (plain : '"' ∉ anchor.toList) (x y : Float)
    (fontSize : Nat) (content : String) :
    (label x y anchor fontSize content).Every Attribute.Readable := by
  simp [label, Attribute.Readable, plain]

theorem readable_segment {stroke : String} (plain : '"' ∉ stroke.toList) (x₁ y₁ x₂ y₂ : Float) :
    (segment x₁ y₁ x₂ y₂ stroke).Every Attribute.Readable := by
  simp [segment, Attribute.Readable, plain]

/-- All attributes of a chart can be read. -/
theorem readable_elements (g : Geometry Float) (title : String) :
    ∀ e ∈ elements g title, e.Every Attribute.Readable := by
  simp only [elements, List.forall_mem_append, List.forall_mem_flatMap]
  refine ⟨⟨⟨?_, fun t _ => ?_⟩, fun b _ => ?_⟩, ?_⟩
  · simp [heading, readable_label, Attribute.Readable]
  · simp [tickElements, readable_label, readable_segment]
  · simp [barElements, readable_label, Attribute.Readable]
  · simp [axes, readable_label, readable_segment, Attribute.Readable]

theorem attributes_elements (g : Geometry Float) (title : String) :
    attributes (Svg.render (elements g title)) = (elements g title).flatMap Element.attributes :=
  attributes_render (closed_elements g title) (readable_elements g title)

/-! ## Numbers -/

/-- The attributes that tell a place or a size. -/
def numericNames : List String :=
  ["x", "y", "x1", "y1", "x2", "y2", "width", "height", "font-size"]

/-- An attribute that is a plain decimal if it tells a place or a size. -/
def IsNumeric (a : Attribute) : Prop := a.name ∈ numericNames → IsPlain a.value.toList

@[simp]
theorem isPlain_coordinate_iff (x : Float) :
    IsPlain (coordinate x).toList ↔ x.isFinite = true := isPlain_positional_iff x

@[simp]
theorem isPlain_valueLabel_iff (x : Float) :
    IsPlain (valueLabel x).toList ↔ x.isFinite = true := by
  unfold valueLabel
  split <;> exact isPlain_fixed_iff _ x

@[simp]
theorem isPlain_toDigits (n : Nat) : IsPlain (Nat.toDigits 10 n) :=
  .inl (.inl (areDigits_toDigits n))

@[simp]
theorem isNumeric_label (x y : Float) (anchor : String) (fontSize : Nat) (content : String) :
    (label x y anchor fontSize content).Every IsNumeric ↔
      x.isFinite = true ∧ y.isFinite = true := by
  simp [label, IsNumeric, numericNames]

@[simp]
theorem isNumeric_segment (x₁ y₁ x₂ y₂ : Float) (stroke : String) :
    (segment x₁ y₁ x₂ y₂ stroke).Every IsNumeric ↔
      x₁.isFinite = true ∧ y₁.isFinite = true ∧ x₂.isFinite = true ∧ y₂.isFinite = true := by
  simp [segment, IsNumeric, numericNames]

theorem isNumeric_heading (title : String) :
    ∀ e ∈ heading standardSize title, e.Every IsNumeric := by
  have size : standardSize.width.isFinite = true ∧ standardSize.height.isFinite = true := by
    decide +kernel
  have place : (standardSize.width / 2).isFinite = true ∧
      ((marginTop : Float) / 2).isFinite = true := by
    decide +kernel
  simp [heading, IsNumeric, numericNames, size, place]

theorem isNumeric_axes : ∀ e ∈ axes standardSize, e.Every IsNumeric := by
  have corners : (marginLeft : Float).isFinite = true ∧ (marginTop : Float).isFinite = true ∧
      standardSize.baseline.isFinite = true ∧ standardSize.plotRight.isFinite = true := by
    decide +kernel
  have middles : (marginLeft + standardSize.plotWidth / 2).isFinite = true ∧
      (standardSize.height - 15).isFinite = true ∧
      (marginTop + standardSize.plotHeight / 2).isFinite = true := by
    decide +kernel
  have left : IsPlain ['1', '5'] := isPlain_toDigits 15
  have fontSize : IsPlain ['1', '2'] := isPlain_toDigits 12
  simp [axes, IsNumeric, numericNames, corners, middles, left, fontSize]

theorem isNumeric_tickElements (t : Tick Float) :
    (∀ e ∈ tickElements standardSize t, e.Every IsNumeric) ↔ t.Placed := by
  have ends : (marginLeft : Float).isFinite = true ∧ standardSize.plotRight.isFinite = true ∧
      ((marginLeft : Float) - 5).isFinite = true := by
    decide +kernel
  have numeric : (∀ e ∈ tickElements standardSize t, e.Every IsNumeric) ↔
      t.y.isFinite = true ∧ (t.y + 3).isFinite = true := by
    simp [tickElements, ends]
  exact numeric.trans ⟨fun finite => ⟨finite.1, finite.2⟩, fun placed => ⟨placed.y, placed.label⟩⟩

theorem isNumeric_barElements (index : Nat) (b : Bar Float) :
    (∀ e ∈ barElements standardSize index b, e.Every IsNumeric) ↔ b.Placed := by
  have line : (standardSize.baseline + 15).isFinite = true := by decide +kernel
  have numeric : (∀ e ∈ barElements standardSize index b, e.Every IsNumeric) ↔
      (b.x.isFinite = true ∧ b.y.isFinite = true ∧ b.width.isFinite = true ∧
        b.height.isFinite = true) ∧
      (b.center.isFinite = true ∧ (b.y - 4).isFinite = true) ∧ b.center.isFinite = true := by
    simp [barElements, IsNumeric, numericNames, line]
  rw [numeric]
  constructor
  · rintro ⟨⟨x, y, width, height⟩, ⟨center, label⟩, -⟩
    exact ⟨x, y, width, height, center, label⟩
  · rintro ⟨x, y, width, height, center, label⟩
    exact ⟨⟨x, y, width, height⟩, ⟨center, label⟩, center⟩

/-- The attributes of a chart are numbers exactly if its ticks and bars are drawn at finite
coordinates. -/
theorem isNumeric_elements_iff {g : Geometry Float} (size : g.size = standardSize)
    (title : String) :
    (∀ e ∈ elements g title, e.Every IsNumeric) ↔
      (∀ t ∈ g.ticks, t.Placed) ∧ ∀ b ∈ g.bars, b.Placed := by
  have bars : (∀ b ∈ g.bars.zipIdx, b.1.Placed) ↔ ∀ b ∈ g.bars, b.Placed := by
    rw [← List.forall_mem_map (f := Prod.fst) (P := Bar.Placed), List.zipIdx_map_fst]
  simp only [elements, size, List.forall_mem_append, List.forall_mem_flatMap,
    isNumeric_tickElements, isNumeric_barElements, bars]
  exact ⟨fun numeric => ⟨numeric.1.1.2, numeric.1.2⟩,
    fun placed => ⟨⟨⟨isNumeric_heading title, placed.1⟩, placed.2⟩, isNumeric_axes⟩⟩

/-! ## Charts -/

section Charts

variable {results : ResultSet Float} {g : Geometry Float}

/-- Everything in a chart is finite exactly if all values can be drawn. -/
theorem finite_iff_drawable (drawn : Geometry.ofResults? standardSize results = some g)
    (counted : results.size < 2 ^ 64) :
    (((∀ t ∈ g.ticks, t.Placed) ∧ ∀ b ∈ g.bars, b.Placed) ∧
        (∀ t ∈ g.ticks, t.value.isFinite = true) ∧
        ∀ v ∈ ResultSet.values results, v.isFinite = true) ↔
      ∀ v ∈ ResultSet.values results, Drawable v := by
  obtain ⟨m, found, rfl⟩ := Option.map_eq_some_iff.1 drawn
  dsimp only
  constructor
  · rintro ⟨⟨-, bars⟩, -, finite⟩ v listed
    obtain ⟨e, member, rfl⟩ := List.mem_map.1 listed
    obtain ⟨i, at_i⟩ := List.mem_iff_getElem?.1 member
    have indexed : (e, i) ∈ results.entries.zipIdx := List.mem_zipIdx_iff_getElem?.2 at_i
    have shown := bars _ (List.mem_map_of_mem indexed)
    exact drawable_of_isFinite finite found listed shown.height
  · intro drawable
    have finite : ∀ v ∈ ResultSet.values results, v.isFinite = true :=
      fun v listed => (drawable v listed).finite
    obtain ⟨p, pos, top, -⟩ := exists_top finite found
    have positive : 0 < topValue m := Binary64.pos_of_denotes pos.ne' top
    have last {k : ℕ} (listed : k ∈ List.range (tickSteps + 1)) : k ≤ tickSteps :=
      Nat.le_of_lt_succ (List.mem_range.1 listed)
    refine ⟨⟨List.forall_mem_map.2 fun k listed => placed_tick (topValue m) (last listed),
      List.forall_mem_map.2 fun e listed => ?_⟩, List.forall_mem_map.2 fun k listed =>
        isFinite_tick_value (drawable_topValue drawable found) positive (last listed), finite⟩
    have member : e.1.2 ∈ ResultSet.values results :=
      List.mem_map_of_mem (List.fst_mem_of_mem_zipIdx listed)
    exact placed_bar e.1.1 (within_barHeight finite found member (drawable _ member))
      (List.snd_lt_of_mem_zipIdx listed) counted

end Charts

/-! ## Documents -/

/-- An attribute that is as it should be if it holds more than one coordinate. -/
def IsFixed (a : Attribute) : Prop :=
  (a.name = "viewBox" → a.value = "0 0 640 480") ∧
    (a.name = "transform" → a.value = "rotate(-90 15 235)")

theorem isFixed_elements {g : Geometry Float} (size : g.size = standardSize) (title : String) :
    ∀ e ∈ elements g title, e.Every IsFixed := by
  have box : "0 0 " ++ coordinate standardSize.width ++ " " ++ coordinate standardSize.height =
      "0 0 640 480" := by
    decide +kernel
  have turn : "rotate(-90 15 " ++ coordinate (marginTop + standardSize.plotHeight / 2) ++ ")" =
      "rotate(-90 15 235)" := by
    decide +kernel
  simp only [elements, size, List.forall_mem_append, List.forall_mem_flatMap]
  refine ⟨⟨⟨?_, fun t _ => ?_⟩, fun b _ => ?_⟩, ?_⟩
  · simp [heading, label, IsFixed, box]
  · simp [tickElements, label, segment, IsFixed]
  · simp [barElements, label, IsFixed]
  · simp [axes, label, segment, IsFixed, turn]

/-- **A chart renders as numbers exactly if its values can be drawn.**  Every result set that is not
empty has a document, in which the texts are the title, the labels of the axis, and the label of
each value and its driver, in order.  All attributes that tell places and sizes and all labels are
plain decimals exactly if every value is finite and, if it is positive, its product with the height
of the plot is finite too.  The attributes of more than one coordinate are the same always. -/
theorem plain_iff_drawable (results : ResultSet Float) (title : String)
    (filled : results.entries ≠ []) (counted : results.size < 2 ^ 64) :
    ∃ g document, Geometry.ofResults? standardSize results = some g ∧
      render? standardSize results title = some document ∧
      (textContents document.toList).map unescape =
        (title :: (g.ticks.map fun t => valueLabel t.value) ++
          (results.entries.flatMap fun e => [valueLabel e.2, e.1]) ++
          ["Driver", "Time in milliseconds (less is better)"]).map String.toList ∧
      (∀ a ∈ attributes document.toList, IsFixed a) ∧
      (((∀ a ∈ attributes document.toList, IsNumeric a) ∧
          (∀ t ∈ g.ticks, IsPlain (valueLabel t.value).toList) ∧
          ∀ e ∈ results.entries, IsPlain (valueLabel e.2).toList) ↔
        ∀ v ∈ ResultSet.values results, Drawable v) := by
  obtain ⟨g, drawn⟩ := exists_ofResults? standardSize filled
  obtain ⟨m, -, size, -, -⟩ := parts_ofResults? drawn
  refine ⟨g, String.ofList (Svg.render (elements g title)), drawn, ?_, ?_, ?_, ?_⟩
  · rw [render?, drawn]
    rfl
  · rw [String.toList_ofList, textContents_elements, contents_elements, bars_ofResults? drawn]
  · rw [String.toList_ofList, attributes_elements, List.forall_mem_flatMap]
    exact isFixed_elements size title
  · have numeric : (∀ a ∈ attributes (Svg.render (elements g title)), IsNumeric a) ↔
        (∀ t ∈ g.ticks, t.Placed) ∧ ∀ b ∈ g.bars, b.Placed := by
      rw [attributes_elements, List.forall_mem_flatMap]
      exact isNumeric_elements_iff size title
    rw [String.toList_ofList, numeric, ← finite_iff_drawable drawn counted, ResultSet.values,
      List.forall_mem_map]
    simp only [isPlain_valueLabel_iff]

/-- A value below zero, none, and one that is nearly too large. -/
theorem plain_nearlyTooLarge :
    let results : ResultSet Float := ⟨[("a", -1.5), ("b", 0), ("c", 4e305)]⟩
    results.entries ≠ [] ∧ results.size < 2 ^ 64 ∧
      ∃ document, render? standardSize results "a & b" = some document ∧
        (∀ a ∈ attributes document.toList, IsNumeric a) ∧
        ∀ e ∈ results.entries, IsPlain (valueLabel e.2).toList := by
  intro results
  have filled : results.entries ≠ [] := nofun
  have counted : results.size < 2 ^ 64 := by decide
  obtain ⟨g, document, -, drawn, -, -, plain⟩ :=
    plain_iff_drawable results "a & b" filled counted
  have drawable : ∀ v ∈ ResultSet.values results, Drawable v := by
    refine List.forall_mem_cons.2 ⟨⟨by decide +kernel, fun above => absurd above ?_⟩,
      List.forall_mem_cons.2 ⟨⟨by decide +kernel, fun above => absurd above ?_⟩,
        List.forall_mem_singleton.2 ⟨by decide +kernel, fun _ => by decide +kernel⟩⟩⟩
    all_goals decide +kernel
  exact ⟨filled, counted, document, drawn, (plain.2 drawable).1, (plain.2 drawable).2.2⟩

/-- To a reader of YAML, what is no number is one, and so it becomes a label. -/
theorem label_notANumber :
    ∃ file results document,
      File.read? "title: t\nresults: \x7ba: .nan\x7d\n".toList = some file ∧
        file.resultSet = .ok results ∧ results.entries ≠ [] ∧
        render? standardSize results file.title = some document ∧
        (∃ e ∈ results.entries, valueLabel e.2 = "NaN" ∧
          "NaN".toList ∈ (textContents document.toList).map unescape) ∧
        ¬ IsPlain "NaN".toList := by
  have read : ((File.read? "title: t\nresults: \x7ba: .nan\x7d\n".toList).bind fun file =>
      file.resultSet.toOption.map fun results =>
        results.entries.map fun e => (e.1, valueLabel e.2)) = some [("a", "NaN")] := by
    decide +kernel
  obtain ⟨file, accepted, shown⟩ := Option.bind_eq_some_iff.1 read
  obtain ⟨results, made, labels⟩ := Option.map_eq_some_iff.1 shown
  have ok : file.resultSet = .ok results := by
    cases result : file.resultSet with
    | error fault =>
      rw [result] at made
      cases made
    | ok set =>
      rw [result] at made
      exact congrArg Except.ok (Option.some.inj made)
  have listed : ("a", "NaN") ∈ results.entries.map fun e => (e.1, valueLabel e.2) := by
    rw [labels]
    exact List.mem_singleton_self _
  obtain ⟨e, member, same⟩ := List.mem_map.1 listed
  have label : valueLabel e.2 = "NaN" := (Prod.mk.inj same).2
  obtain ⟨g, drawn⟩ := exists_ofResults? standardSize (List.ne_nil_of_mem member)
  refine ⟨file, results, String.ofList (Svg.render (elements g file.title)), accepted, ok,
    List.ne_nil_of_mem member, ?_, ⟨e, member, label, ?_⟩, (not_isPlain_letters false).1⟩
  · rw [render?, drawn]
    rfl
  · have shown : valueLabel e.2 ∈ results.entries.flatMap fun e => [valueLabel e.2, e.1] :=
      List.mem_flatMap.2 ⟨e, member, List.mem_cons_self ..⟩
    rw [String.toList_ofList, textContents_elements, contents_elements, bars_ofResults? drawn,
      ← label]
    exact List.mem_map_of_mem (List.mem_append_left _ (List.mem_append_right _ shown))

end Chart

end BenchCampaign
