import BenchCampaign.Proofs.Arithmetic.Greatest
import BenchCampaign.Proofs.Arithmetic.Rational
import BenchCampaign.Proofs.Chart.Document
import Mathlib.Tactic.FieldSimp
import Mathlib.Tactic.Linarith
import Mathlib.Tactic.Ring

/-!
# What bars tell

Bars and ticks are scaled by formulas of their own.  In exact arithmetic the two agree, whatever the
values are: the bars stand side by side in the plot, one in each slot, and are as high as the ticks
say.  Where no value is positive the scale ends at one, and no bar has a height.

* `Chart.Geometry.SideBySide`: bars in the order of a result set, each in its slot.
* `Chart.Geometry.ToScale`: bars that are as high as their values, on the scale of the ticks.
* `Chart.bars_to_scale`: every chart of a result set is both, and its document shows the scale.
-/

namespace BenchCampaign

namespace Chart

/-! ## Exact coordinates -/

namespace Size

variable (s : Size ℚ)

@[simp]
theorem plotWidth_rat : s.plotWidth = s.width - 110 := by
  simp only [plotWidth, marginLeft, marginRight, Arithmetic.ofNat_rat]
  ring

@[simp]
theorem plotHeight_rat : s.plotHeight = s.height - 110 := by
  simp only [plotHeight, marginTop, marginBottom, Arithmetic.ofNat_rat]
  ring

@[simp]
theorem baseline_rat : s.baseline = s.height - 60 := by
  simp only [baseline, plotHeight_rat, marginTop, Arithmetic.ofNat_rat]
  ring

end Size

/-- The value at the top is positive, whatever the values are. -/
theorem topValue_pos (greatest : ℚ) : 0 < topValue greatest := by
  unfold topValue
  split
  next positive => exact of_decide_eq_true positive
  next => exact one_pos

theorem topValue_of_pos {greatest : ℚ} (positive : 0 < greatest) :
    topValue greatest = greatest := if_pos (decide_eq_true positive)

theorem le_topValue {greatest v : ℚ} (le : v ≤ greatest) : v ≤ topValue greatest := by
  rcases lt_or_ge 0 greatest with positive | none
  · rwa [topValue_of_pos positive]
  · exact (le.trans none).trans (topValue_pos greatest).le

/-! ## Heights -/

section Heights

variable {s : Size ℚ} {top v w : ℚ}

theorem barHeight_rat (s : Size ℚ) (top v : ℚ) :
    barHeight s top v = (s.height - 110) * max v 0 / top := by
  rw [barHeight, Arithmetic.greater_rat, Size.plotHeight_rat]
  rfl

/-- A value that is not positive has no height. -/
theorem barHeight_of_nonpos (none : v ≤ 0) : barHeight s top v = 0 := by
  rw [barHeight_rat, max_eq_right none, mul_zero, zero_div]

/-- Greater values are not less high. -/
theorem barHeight_mono (high : 110 < s.height) (positive : 0 < top) (le : v ≤ w) :
    barHeight s top v ≤ barHeight s top w := by
  have room : 0 ≤ s.height - 110 := by linarith
  rw [barHeight_rat, barHeight_rat]
  gcongr

/-- A height is none at least. -/
theorem barHeight_nonneg (high : 110 < s.height) (positive : 0 < top) :
    0 ≤ barHeight s top v := by
  have room : 0 ≤ s.height - 110 := by linarith
  rw [barHeight_rat]
  exact div_nonneg (mul_nonneg room (le_max_right v 0)) positive.le

/-- The value at the top has the height of the plot. -/
theorem barHeight_top (positive : 0 < top) : barHeight s top top = s.height - 110 := by
  rw [barHeight_rat, max_eq_left positive.le, mul_div_cancel_right₀ _ positive.ne']

/-- A positive value can be told from its height. -/
theorem eq_of_barHeight_eq (high : 110 < s.height) (positive : 0 < top) (some : 0 < v)
    (same : barHeight s top v = barHeight s top w) : v = w := by
  have room : s.height - 110 ≠ 0 := by linarith
  rw [barHeight_rat, barHeight_rat, div_left_inj' positive.ne', mul_right_inj' room,
    max_eq_left some.le] at same
  -- the height is not that of what is not positive
  rcases le_total w 0 with none | some'
  · rw [max_eq_right none] at same
    exact absurd same some.ne'
  · rwa [max_eq_left some'] at same

/-- A bar that has the value of a tick ends at the tick's line. -/
theorem baseline_sub_barHeight_eq {k : ℕ} (some : 0 < v) (positive : 0 < top)
    (value : v = (tick s top k).value) : s.baseline - barHeight s top v = (tick s top k).y := by
  have scaled : barHeight s top v = (s.height - 110) * k / 5 := by
    rw [barHeight_rat, max_eq_left some.le, value]
    simp only [tick, tickSteps, Arithmetic.ofNat_rat]
    push_cast
    field_simp
  rw [scaled]
  simp [tick, tickSteps]

end Heights

/-! ## Slots -/

/-- Where the slot of a bar begins; the slots share the width of the plot. -/
def slotStart (s : Size ℚ) (count index : ℕ) : ℚ := 90 + (s.width - 110) / count * index

section Slots

variable {s : Size ℚ} {count index later : ℕ}

theorem slotStart_zero : slotStart s count 0 = 90 := by simp [slotStart]

theorem slotStart_count (some : 0 < count) : slotStart s count count = s.width - 20 := by
  have nonzero : (count : ℚ) ≠ 0 := Nat.cast_ne_zero.2 some.ne'
  rw [slotStart, div_mul_cancel₀ _ nonzero]
  ring

theorem slotStart_mono (wide : 110 < s.width) (le : index ≤ later) :
    slotStart s count index ≤ slotStart s count later := by
  have slot : 0 ≤ (s.width - 110) / count := div_nonneg (by linarith) (Nat.cast_nonneg count)
  unfold slotStart
  gcongr

variable (top : ℚ) (driver : String) (value : ℚ)

/-- A bar keeps a tenth of its slot free on either side. -/
theorem bar_inside_slot (wide : 110 < s.width) (some : 0 < count) :
    let b := bar s top count index driver value
    slotStart s count index < b.x ∧ 0 < b.width ∧
      b.x + b.width < slotStart s count (index + 1) := by
  intro b
  have slot : 0 < (s.width - 110) / count :=
    div_pos (by linarith) (Nat.cast_pos.2 some)
  have width : b.width = (s.width - 110) / count * (4 / 5) := by
    simp [b, bar, slotWidth, barShare]
  have left : b.x = slotStart s count index + (s.width - 110) / count * (1 / 10) := by
    simp only [b, bar, slotWidth, slotStart, barShare, marginLeft, Size.plotWidth_rat,
      Arithmetic.ofNat_rat]
    push_cast
    ring
  have next : slotStart s count (index + 1) =
      slotStart s count index + (s.width - 110) / count := by
    simp only [slotStart]
    push_cast
    ring
  rw [left, width, next]
  refine ⟨?_, ?_, ?_⟩ <;> linarith

end Slots

/-! ## The parts of a chart -/

section Parts

variable {α : Type} [Arithmetic α] {s : Size α} {results : ResultSet α} {g : Geometry α}

/-- The bar at a position is that of the entry there, and the ticks are those of the scale. -/
theorem parts_ofResults? (drawn : Geometry.ofResults? s results = some g) :
    ∃ m, ResultSet.max? results = some m ∧ g.size = s ∧
      (∀ k ≤ tickSteps, g.ticks[k]? = some (tick s (topValue m) k)) ∧
      ∀ i : ℕ, g.bars[i]? = results.entries[i]?.map fun e =>
        bar s (topValue m) results.size i e.1 e.2 := by
  obtain ⟨m, greatest, rfl⟩ := Option.map_eq_some_iff.1 drawn
  refine ⟨m, greatest, rfl, fun k le => ?_, fun i => ?_⟩
  · rw [List.getElem?_map, List.getElem?_range (Nat.lt_succ_of_le le)]
    rfl
  · rw [List.getElem?_map, List.getElem?_zipIdx, Option.map_map]
    simp only [Nat.zero_add]
    rfl

end Parts

/-! ## Charts -/

/-- Bars that stand side by side in the plot, in the order of a result set. -/
structure Geometry.SideBySide (g : Geometry ℚ) (results : ResultSet ℚ) : Prop where
  bars : (g.bars.map fun b => (b.driver, b.value)) = results.entries
  /-- Each bar stands strictly inside the slot of its position. -/
  slots : ∀ (i : ℕ) (b : Bar ℚ), g.bars[i]? = some b →
    slotStart g.size results.size i < b.x ∧ 0 < b.width ∧
      b.x + b.width < slotStart g.size results.size (i + 1)
  apart : g.bars.Pairwise fun b c => b.x + b.width < c.x
  inside : ∀ b ∈ g.bars, 90 < b.x ∧ b.x + b.width < g.size.width - 20

/-- Bars that are as high as their values, on the scale of the ticks. -/
structure Geometry.ToScale (g : Geometry ℚ) (greatest : ℚ) : Prop where
  standing : ∀ b ∈ g.bars, b.y + b.height = g.size.height - 60
  heights : ∀ b ∈ g.bars, 0 ≤ b.height ∧ b.height ≤ g.size.height - 110
  monotone : ∀ b ∈ g.bars, ∀ c ∈ g.bars, b.value ≤ c.value → b.height ≤ c.height
  injective : ∀ b ∈ g.bars, ∀ c ∈ g.bars, 0 < b.value → b.height = c.height → b.value = c.value
  flat : ∀ b ∈ g.bars, b.value ≤ 0 → b.height = 0
  /-- A greatest value is shown, and if it is positive it reaches the top of the plot. -/
  top : (∃ b ∈ g.bars, b.value = greatest) ∧
    ∀ b ∈ g.bars, b.value ≤ greatest ∧ (b.value = greatest → 0 < greatest → b.y = 50)
  /-- A fifth of the greatest value or some fifths of it end at the line of their tick. -/
  ticks : ∀ k : ℕ, k ≤ 5 → ∃ t, g.ticks[k]? = some t ∧ (0 < greatest → t.value = greatest * k / 5) ∧
    ∀ b ∈ g.bars, 0 < b.value → b.value = greatest * k / 5 → b.y = t.y

section Exact

variable {s : Size ℚ} {results : ResultSet ℚ} {g : Geometry ℚ} {m : ℚ}

/-- Exact numbers are compared as they are. -/
theorem comparedBy_id : Arithmetic.ComparedBy (id : ℚ → ℚ) := fun _ _ => decide_eq_true_iff

/-- Bars that stand in their slots stand apart, and inside the plot. -/
theorem sideBySide_of_slots (wide : 110 < g.size.width)
    (bars : (g.bars.map fun b => (b.driver, b.value)) = results.entries)
    (slots : ∀ (i : ℕ) (b : Bar ℚ), g.bars[i]? = some b →
      slotStart g.size results.size i < b.x ∧ 0 < b.width ∧
        b.x + b.width < slotStart g.size results.size (i + 1)) :
    g.SideBySide results where
  bars := bars
  slots := slots
  apart := by
    rw [List.pairwise_iff_getElem]
    intro i j hi hj before
    have ending := (slots i _ (List.getElem?_eq_getElem hi)).2.2
    have beginning := (slots j _ (List.getElem?_eq_getElem hj)).1
    exact (ending.trans_le (slotStart_mono wide before)).trans beginning
  inside b listed := by
    obtain ⟨i, hi, rfl⟩ := List.getElem_of_mem listed
    obtain ⟨beginning, -, ending⟩ := slots i _ (List.getElem?_eq_getElem hi)
    have bound : i < results.size := by
      have count := congrArg List.length bars
      rw [List.length_map] at count
      exact hi.trans_eq count
    have first : slotStart g.size results.size 0 ≤ slotStart g.size results.size i :=
      slotStart_mono wide (Nat.zero_le i)
    have last : slotStart g.size results.size (i + 1) ≤
        slotStart g.size results.size results.size :=
      slotStart_mono wide (Nat.succ_le_of_lt bound)
    rw [slotStart_zero] at first
    rw [slotStart_count (Nat.zero_lt_of_lt bound)] at last
    exact ⟨first.trans_lt beginning, ending.trans_le last⟩

/-- Bars that have the heights of their values are to scale, if the ticks are. -/
theorem toScale_of_heights (high : 110 < g.size.height)
    (greatest : Arithmetic.IsGreatest id (g.bars.map Bar.value) m)
    (heights : ∀ b ∈ g.bars, b.height = barHeight g.size (topValue m) b.value ∧
      b.y = g.size.baseline - b.height)
    (ticks : ∀ k ≤ tickSteps, g.ticks[k]? = some (tick g.size (topValue m) k)) :
    g.ToScale m := by
  have positive := topValue_pos m
  have bounded : ∀ b ∈ g.bars, b.value ≤ m := fun b listed =>
    greatest.le b.value (List.mem_map_of_mem listed) rfl
  have height {b : Bar ℚ} (listed : b ∈ g.bars) := (heights b listed).1
  have y {b : Bar ℚ} (listed : b ∈ g.bars) :
      b.y = g.size.baseline - barHeight g.size (topValue m) b.value := by
    rw [(heights b listed).2, height listed]
  have full : barHeight g.size (topValue m) (topValue m) = g.size.height - 110 :=
    barHeight_top positive
  refine ⟨fun b listed => ?_, fun b listed => ⟨?_, ?_⟩, fun b listed c listed' le => ?_,
    fun b listed c listed' some same => ?_, fun b listed none => ?_,
    ⟨List.mem_map.1 greatest.mem, fun b listed => ⟨bounded b listed, fun value some => ?_⟩⟩,
    fun k le => ⟨_, ticks k le, fun some => ?_, fun b listed some value => ?_⟩⟩
  · rw [(heights b listed).2, sub_add_cancel, Size.baseline_rat]
  · rw [height listed]
    exact barHeight_nonneg high positive
  · rw [height listed, ← full]
    exact barHeight_mono high positive (le_topValue (bounded b listed))
  · rw [height listed, height listed']
    exact barHeight_mono high positive le
  · rw [height listed, height listed'] at same
    exact eq_of_barHeight_eq high positive some same
  · rw [height listed, barHeight_of_nonpos none]
  · have top := topValue_of_pos some
    rw [top] at full
    rw [y listed, value, top, full, Size.baseline_rat]
    ring
  · rw [topValue_of_pos some]
    rfl
  · have above : 0 < m := some.trans_le (bounded b listed)
    rw [y listed]
    refine baseline_sub_barHeight_eq some positive ?_
    rw [value, topValue_of_pos above]
    rfl

end Exact

/-! ## Documents -/

section Documents

variable {s : Size Float} {results : ResultSet Float} {g : Geometry Float}

/-- A tick is drawn as a line and labelled. -/
theorem tickElements_within {t : Tick Float} (listed : t ∈ g.ticks) (title : String) :
    tickElements g.size t <:+: elements g title := by
  obtain ⟨before, behind, ticks⟩ := List.append_of_mem listed
  refine ⟨heading g.size title ++ before.flatMap (tickElements g.size),
    behind.flatMap (tickElements g.size) ++
      (g.bars.zipIdx.flatMap fun b => barElements g.size b.2 b.1) ++ axes g.size, ?_⟩
  simp [elements, ticks, List.append_assoc]

/-- A bar is drawn as a rectangle, with its value and its driver. -/
theorem barElements_within {i : ℕ} {b : Bar Float} (listed : g.bars[i]? = some b)
    (title : String) : barElements g.size i b <:+: elements g title := by
  have indexed : (b, i) ∈ g.bars.zipIdx := List.mem_zipIdx_iff_getElem?.2 listed
  obtain ⟨before, behind, bars⟩ := List.append_of_mem indexed
  refine ⟨heading g.size title ++ g.ticks.flatMap (tickElements g.size) ++
      before.flatMap fun b => barElements g.size b.2 b.1,
    (behind.flatMap fun b => barElements g.size b.2 b.1) ++ axes g.size, ?_⟩
  simp [elements, bars, List.append_assoc]

end Documents

/-- **Bars tell the truth.**  In exact arithmetic every chart of a result set that is not empty, if
it is large enough for a plot, has its bars side by side in the order of the set, as high as the
values are on the scale of the ticks, which ends at the greatest value.  A document of a chart draws
each tick as a line with the tick's value as its label, and each bar where the geometry has it. -/
theorem bars_to_scale :
    (∀ (s : Size ℚ) (results : ResultSet ℚ), 110 < s.width → 110 < s.height →
      results.entries ≠ [] → ∃ g m, Geometry.ofResults? s results = some g ∧ g.size = s ∧
        ResultSet.max? results = some m ∧ g.SideBySide results ∧ g.ToScale m) ∧
    ∀ (s : Size Float) (results : ResultSet Float) (title : String), results.entries ≠ [] →
      ∃ g m, Geometry.ofResults? s results = some g ∧ ResultSet.max? results = some m ∧
        render? s results title = some (String.ofList (Svg.render (elements g title))) ∧
        (∀ k ≤ 5, ∃ t, g.ticks[k]? = some t ∧
          t.value = topValue m * Arithmetic.ofNat k / Arithmetic.ofNat 5 ∧
          [segment marginLeft t.y g.size.plotRight t.y "lightgray",
            label (marginLeft - 5) (t.y + 3) "end" 10 (valueLabel t.value)] <:+:
              elements g title) ∧
        ∀ (i : ℕ) (b : Bar Float), g.bars[i]? = some b →
          .shape "rect" [⟨"x", coordinate b.x⟩, ⟨"y", coordinate b.y⟩,
            ⟨"width", coordinate b.width⟩, ⟨"height", coordinate b.height⟩,
            ⟨"fill", color i⟩] ∈ elements g title := by
  refine ⟨fun s results wide high filled => ?_, fun s results title filled => ?_⟩
  · obtain ⟨g, drawn⟩ := exists_ofResults? s filled
    obtain ⟨m, greatest, rfl, ticks, bars⟩ := parts_ofResults? drawn
    have some : 0 < results.size := List.length_pos_iff.2 filled
    have shown : (g.bars.map fun b => (b.driver, b.value)) = results.entries := by
      refine List.ext_getElem? fun i => ?_
      rw [List.getElem?_map, bars, Option.map_map]
      exact congrFun Option.map_id _
    have values : g.bars.map Bar.value = ResultSet.values results := by
      rw [ResultSet.values, ← shown, List.map_map]
      rfl
    refine ⟨g, m, drawn, rfl, greatest, sideBySide_of_slots wide shown fun i b at_i => ?_,
      toScale_of_heights high ?_ (fun b listed => ?_) ticks⟩
    · rw [bars] at at_i
      obtain ⟨e, -, rfl⟩ := Option.map_eq_some_iff.1 at_i
      exact bar_inside_slot (topValue m) e.1 e.2 wide some
    · rw [values]
      exact ResultSet.isGreatest_max? comparedBy_id greatest
    · obtain ⟨i, at_i⟩ := List.mem_iff_getElem?.1 listed
      rw [bars] at at_i
      obtain ⟨e, -, rfl⟩ := Option.map_eq_some_iff.1 at_i
      exact ⟨rfl, rfl⟩
  · obtain ⟨g, drawn⟩ := exists_ofResults? s filled
    obtain ⟨m, greatest, rfl, ticks, bars⟩ := parts_ofResults? drawn
    refine ⟨g, m, drawn, greatest, ?_, fun k le => ⟨_, ticks k le, rfl, ?_⟩,
      fun i b at_i => ?_⟩
    · rw [render?, drawn]
      rfl
    · exact tickElements_within (List.mem_of_getElem? (ticks k le)) title
    · exact (barElements_within at_i title).subset (List.mem_cons_self ..)

/-- Values below zero, at zero and above it; one of them is three fifths of the greatest. -/
theorem bars_to_scale_mixedSigns :
    let s : Size ℚ := ⟨640, 480⟩
    let results : ResultSet ℚ := ⟨[("a", -1), ("b", 0), ("c", 3), ("d", 5)]⟩
    let measured : ResultSet Float := ⟨[("a", 3), ("b", 5)]⟩
    110 < s.width ∧ 110 < s.height ∧ results.entries ≠ [] ∧ measured.entries ≠ [] ∧
      (∃ g, Geometry.ofResults? s results = some g ∧ g.SideBySide results ∧ g.ToScale 5 ∧
        ∀ b ∈ g.bars, b.value = 3 → ∃ t, g.ticks[3]? = some t ∧ t.value = 3 ∧ b.y = t.y) ∧
      ∃ g, Geometry.ofResults? standardSize measured = some g ∧
        render? standardSize measured "" =
          some (String.ofList (Svg.render (elements g ""))) := by
  intro s results measured
  have wide : 110 < s.width := by norm_num [s]
  have high : 110 < s.height := by norm_num [s]
  have filled : results.entries ≠ [] := nofun
  have filled' : measured.entries ≠ [] := nofun
  obtain ⟨g, m, drawn, -, greatest, apart, scale⟩ := bars_to_scale.1 s results wide high filled
  have five : m = 5 := by
    have known : ResultSet.max? results = some 5 := by decide +kernel
    exact Option.some.inj (greatest.symm.trans known)
  rw [five] at scale
  obtain ⟨g', -, drawn', -, document, -⟩ :=
    bars_to_scale.2 standardSize measured "" filled'
  refine ⟨wide, high, filled, filled', ⟨g, drawn, apart, scale, fun b listed value => ?_⟩,
    g', drawn', document⟩
  obtain ⟨t, at_three, tick, ends⟩ := scale.ticks 3 (by decide)
  have three : (5 : ℚ) * (3 : ℕ) / 5 = 3 := by norm_num
  rw [three] at tick ends
  exact ⟨t, at_three, tick (by norm_num), ends b listed (by rw [value]; norm_num) value⟩

end Chart

end BenchCampaign
