import BenchCampaign.Chart.Svg
import BenchCampaign.Proofs.Binary64.Magnitude
import BenchCampaign.Proofs.Chart.Bars

/-!
# Which values can be drawn

In a chart of the usual size the coordinates of bars come nowhere near the greatest double, as the
slots share the width of the plot and heights are at most twice that of the plot.  What can go wrong
is the product that a height is computed from: it is infinite where a value is too large.  Ticks
need smaller products.

* `Chart.Drawable`: values that are finite and have a finite product.
* `Chart.exists_top`: the value at the top, which no other one exceeds.
* `Chart.isFinite_tick_value`, `Chart.placed_tick`: ticks of a chart of such values.
* `Chart.placed_bar`: its bars.
* `Chart.drawable_of_isFinite`: where a bar has a finite height, its value can be drawn.
-/

namespace BenchCampaign

namespace Chart

open Binary64

/-- A finite value that is not too large for a chart of the usual size. -/
structure Drawable (v : Float) : Prop where
  finite : v.isFinite = true
  /-- The height of a positive value is a quotient of this. -/
  scaled : 0 < v → (standardSize.plotHeight * v).isFinite = true

/-- A tick that is drawn at a finite height, as is its label. -/
structure Tick.Placed (t : Tick Float) : Prop where
  y : t.y.isFinite = true
  label : (t.y + 3).isFinite = true

/-- A bar that is drawn at finite coordinates, as is its label. -/
structure Bar.Placed (b : Bar Float) : Prop where
  x : b.x.isFinite = true
  y : b.y.isFinite = true
  width : b.width.isFinite = true
  height : b.height.isFinite = true
  center : b.center.isFinite = true
  label : (b.y - 4).isFinite = true

/-! ## Sizes -/

theorem plotHeight_eq : standardSize.plotHeight = Arithmetic.ofNat 370 := by decide +kernel

theorem plotWidth_eq : standardSize.plotWidth = Arithmetic.ofNat 530 := by decide +kernel

theorem baseline_eq : standardSize.baseline = Arithmetic.ofNat 420 := by decide +kernel

theorem within_plotHeight : Within standardSize.plotHeight 9 := by
  rw [plotHeight_eq]
  exact within_ofNat (by decide) (by decide) (by decide)

theorem one_le_plotHeight : 1 ≤ magnitude standardSize.plotHeight := by
  obtain ⟨q, one, known⟩ := exists_magnitude_ofNat (n := 370) (by decide) (by decide)
  rw [plotHeight_eq, known]
  exact_mod_cast one

theorem within_baseline : Within standardSize.baseline 9 := by
  rw [baseline_eq]
  exact within_ofNat (by decide) (by decide) (by decide)

/-! ## The value at the top -/

variable {results : ResultSet Float} {m v : Float}

theorem topValue_of_zero_lt (positive : 0 < m) : topValue m = m := if_pos (decide_eq_true positive)

theorem topValue_of_not_zero_lt (none : ¬ 0 < m) : topValue m = Arithmetic.ofNat 1 :=
  if_neg fun positive => none (of_decide_eq_true positive)

/-- Of finite values, no positive one is above the top. -/
theorem exists_top (finite : ∀ v ∈ ResultSet.values results, v.isFinite = true)
    (found : ResultSet.max? results = some m) :
    ∃ p : ℚ, 0 < p ∧ Denotes (topValue m) p ∧
      ∀ v ∈ ResultSet.values results, 0 < v → ∃ q : ℚ, 0 < q ∧ q ≤ p ∧ Denotes v q := by
  have greatest := ResultSet.isGreatest_max? comparedBy_size found
  have below {v : Float} (listed : v ∈ ResultSet.values results) : size v ≤ size m :=
    greatest.le v listed (isNumber_iff.2 (isNaN_eq_false_of_isFinite (finite v listed)))
  have number := isNaN_eq_false_of_isFinite (finite m greatest.mem)
  by_cases positive : 0 < m
  · obtain ⟨p, pos, top⟩ := exists_denotes (finite m greatest.mem) positive
    rw [topValue_of_zero_lt positive]
    refine ⟨p, pos, top, fun v listed some => ?_⟩
    obtain ⟨q, pos', value⟩ := exists_denotes (finite v listed) some
    exact ⟨q, pos', le_of_size_le value top (below listed), value⟩
  · rw [topValue_of_not_zero_lt positive]
    refine ⟨1, one_pos, denotes_one, fun v listed some => absurd ?_ positive⟩
    have number' := isNaN_eq_false_of_isFinite (finite v listed)
    exact (size_lt_iff rfl number).2 (((size_lt_iff rfl number').1 some).trans_le (below listed))

/-- The value at the top can be drawn if all values can. -/
theorem drawable_topValue (drawable : ∀ v ∈ ResultSet.values results, Drawable v)
    (found : ResultSet.max? results = some m) : Drawable (topValue m) := by
  have greatest := ResultSet.isGreatest_max? comparedBy_size found
  by_cases positive : 0 < m
  · rw [topValue_of_zero_lt positive]
    exact drawable m greatest.mem
  · rw [topValue_of_not_zero_lt positive]
    exact ⟨by decide +kernel, fun _ => by decide +kernel⟩

/-! ## Ticks -/

theorem isFinite_tick_value (top : Drawable (topValue m)) (positive : 0 < topValue m) {k : ℕ}
    (le : k ≤ tickSteps) : (tick standardSize (topValue m) k).value.isFinite = true := by
  have small : k < 2 ^ 64 := le.trans_lt (by decide)
  have factor : magnitude (Arithmetic.ofNat k) ≤ magnitude standardSize.plotHeight := by
    rw [plotHeight_eq, magnitude_ofNat small, magnitude_ofNat (by decide)]
    refine nearestValue_mono (WithTop.coe_le_coe.2 ?_)
    exact_mod_cast le.trans (by decide)
  have product := isFinite_mul_of_le top.finite (top.scaled positive) within_plotHeight.isFinite
    factor
  rw [isFinite_iff] at product ⊢
  exact ((magnitude_div_ofNat_le _ (by decide) (by decide)).trans_lt
    (lt_top_iff_ne_top.2 product)).ne

/-- A tick is drawn at a finite height, whatever its value is. -/
theorem placed_tick (top : Float) {k : ℕ} (le : k ≤ tickSteps) :
    (tick standardSize top k).Placed := by
  have factor : Within (Arithmetic.ofNat k) 3 :=
    within_ofNat (le.trans (by decide)) (le.trans_lt (by decide)) (by decide)
  have three : Within 3 13 := by
    rw [show (3 : Float) = Arithmetic.ofNat 3 by decide +kernel]
    exact within_ofNat (by decide) (by decide) (by decide)
  have product := within_plotHeight.mul factor (by decide)
  have y : Within (tick standardSize top k).y 13 :=
    (within_baseline.mono (by decide)).sub (product.div_ofNat (by decide) (by decide)) (by decide)
  exact ⟨y.isFinite, (y.add three (by decide)).isFinite⟩

/-! ## Bars -/

theorem greater_zero_of_pos (finite : v.isFinite = true) (positive : 0 < v) :
    Arithmetic.greater v (Arithmetic.ofNat 0) = v := by
  have number := isNaN_eq_false_of_isFinite finite
  have above : ¬ v < 0 := fun less =>
    lt_asymm ((size_lt_iff rfl number).1 positive) ((size_lt_iff number rfl).1 less)
  have kept : Arithmetic.below v (Arithmetic.ofNat 0) = false := decide_eq_false above
  rw [Arithmetic.greater, isNumber_iff.2 number, kept]
  rfl

/-- Of a value that is not positive, zero is left. -/
theorem magnitude_greater_zero (finite : v.isFinite = true) (none : ¬ 0 < v) :
    magnitude (Arithmetic.greater v (Arithmetic.ofNat 0)) = 0 := by
  have number := isNaN_eq_false_of_isFinite finite
  unfold Arithmetic.greater
  split
  next kept =>
    rw [Bool.and_eq_true, Bool.not_eq_true'] at kept
    have none' : ¬ v < 0 := of_decide_eq_false kept.2
    rw [size_lt_iff rfl number, not_lt] at none
    rw [size_lt_iff number rfl, not_lt] at none'
    exact magnitude_eq_zero finite (le_antisymm none none')
  next => exact (magnitude_ofNat (n := 0) (by decide)).trans nearestValue_zero

/-- A bar is at most about twice as high as the plot. -/
theorem within_barHeight (finite : ∀ v ∈ ResultSet.values results, v.isFinite = true)
    (found : ResultSet.max? results = some m) (listed : v ∈ ResultSet.values results)
    (drawable : Drawable v) : Within (barHeight standardSize (topValue m) v) 10 := by
  obtain ⟨p, pos, top, below⟩ := exists_top finite found
  by_cases positive : 0 < v
  · obtain ⟨q, pos', le, value⟩ := below v listed positive
    rw [barHeight, greater_zero_of_pos drawable.finite positive]
    exact within_mul_div within_plotHeight one_le_plotHeight value top pos' le
      (drawable.scaled positive) (by decide)
  · have none := magnitude_greater_zero drawable.finite positive
    have product := magnitude_mul_zero within_plotHeight.isFinite none
    exact within_of_eq_zero (magnitude_zero_div product pos.ne' (magnitude_of_denotes top)) 10

/-- What a height is computed from is finite where the height is. -/
theorem drawable_of_isFinite (finite : ∀ v ∈ ResultSet.values results, v.isFinite = true)
    (found : ResultSet.max? results = some m) (listed : v ∈ ResultSet.values results)
    (height : (barHeight standardSize (topValue m) v).isFinite = true) : Drawable v := by
  refine ⟨finite v listed, fun positive => ?_⟩
  obtain ⟨p, -, top, -⟩ := exists_top finite found
  have bounded : magnitude (topValue m) ≠ ⊤ := by
    rw [magnitude_of_denotes top]
    exact WithTop.coe_ne_top
  rw [barHeight, greater_zero_of_pos (finite v listed) positive, isFinite_iff] at height
  rw [isFinite_iff]
  exact fun infinite => height (magnitude_div_eq_top infinite bounded)

/-- A bar of finite height is drawn at finite coordinates, wherever it stands. -/
theorem placed_bar {top : Float} {count index : ℕ} (driver : String)
    (height : Within (barHeight standardSize top v) 10) (before : index < count)
    (counted : count < 2 ^ 64) : (bar standardSize top count index driver v).Placed := by
  let b := bar standardSize top count index driver v
  have room : Within standardSize.plotWidth 10 := by
    rw [plotWidth_eq]
    exact within_ofNat (by decide) (by decide) (by decide)
  have share : Within barShare 2 :=
    Within.div_ofNat (within_ofNat (by decide) (by decide) (by decide)) (by decide) (by decide)
  have slot : Within (slotWidth standardSize count) 10 :=
    room.div_ofNat (Nat.zero_lt_of_lt before) counted
  have width : Within b.width 12 := slot.mul share (by decide)
  have four : Within 4 11 := by
    rw [show (4 : Float) = Arithmetic.ofNat 4 by decide +kernel]
    exact within_ofNat (by decide) (by decide) (by decide)
  have margin : Within marginLeft 74 := within_ofNat (by decide) (by decide) (by decide)
  have position : Within (Arithmetic.ofNat index) 64 :=
    within_ofNat (by omega) (by omega) (by decide)
  have start := margin.add (slot.mul position (by decide)) (by decide)
  have gap := ((slot.mono (by decide)).sub width (by decide)).div_ofNat
    (show 0 < 2 by decide) (by decide)
  have x : Within b.x 76 := start.add (gap.mono (by decide)) (by decide)
  have half := width.div_ofNat (show 0 < 2 by decide) (by decide)
  have center : Within b.center 77 := x.add (half.mono (by decide)) (by decide)
  have y : Within b.y 11 := (within_baseline.mono (by decide)).sub height (by decide)
  exact ⟨x.isFinite, y.isFinite, width.isFinite, height.isFinite, center.isFinite,
    (y.sub four (by decide)).isFinite⟩

end Chart

end BenchCampaign
