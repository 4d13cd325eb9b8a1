import BenchCampaign.Projection
import BenchCampaign.Proofs.Binary64.Amount
import BenchCampaign.Proofs.Estimate.Order
import BenchCampaign.Proofs.Settings.Soundness

/-!
# The projected time of checked settings

The projection is computed in doubles, and no special number comes out of it by itself: estimates
are amounts, the coefficients of drivers are positive and their sum, however many drivers there
are, is finite.  An estimate may be infinite, but it is only multiplied by positive numbers.  What
is left is the overhead of a restart.  The checks refuse one that is below zero; one that is no
number is not below zero, and it is all that can make the projected time no number.

* `Estimator.isAmount_estimate`: estimates of positive seconds are amounts.
* `Coefficients.between_factor`: coefficients neither vanish nor overflow.
* `Projection.isAmount_runSeconds`: what runs take without restarts.
* `Settings.projection_of_unflawed`: the projected time is never below zero, and when it is a
  number.
-/

namespace BenchCampaign

open Binary64

/-! ## Whole numbers of the settings -/

theorem between_ofNat_of_lt {n k : ℕ} (pos : 0 < n) (bound : n < 2 ^ k) (small : k ≤ 1022) :
    Between (Arithmetic.ofNat n) 0 k := by
  have digits : n.log2 < k := (Nat.log2_lt pos.ne').2 bound
  exact (between_ofNat pos (by omega)).mono (by omega) (by omega)

theorem between_uint64 {n : UInt64} (pos : 0 < n) :
    Between (Arithmetic.ofNat n.toNat) 0 64 :=
  between_ofNat_of_lt (UInt64.lt_iff_toNat_lt.1 pos) n.toNat_lt (by decide)

theorem between_uint32 {n : UInt32} (pos : 0 < n) :
    Between (Arithmetic.ofNat n.toNat) 0 32 :=
  between_ofNat_of_lt (UInt32.lt_iff_toNat_lt.1 pos) n.toNat_lt (by decide)

/-! ## Estimates -/

namespace Estimator

variable {e : Estimator Float} {c : Configuration}

theorem isAmount_ownSeconds (seconds : 0 < e.secondsPerTask) (tasks : 0 < c.tasks)
    (concurrency : 0 < c.concurrency) : IsAmount (e.ownSeconds c).toModel.unpack := by
  have rounds : Between (Arithmetic.ofNat c.tasks.toNat / Arithmetic.ofNat c.concurrency.toNat)
      (0 - 32) (64 - 0) :=
    (between_uint64 tasks).div (between_uint32 concurrency) (by decide) (by decide)
  rw [ownSeconds, float_mul_comm]
  exact isAmount_mul (isAmount_of_pos seconds) rounds

/-- With a positive time per task, an estimate is an amount. -/
theorem isAmount_estimate (seconds : 0 < e.secondsPerTask) (tasks : 0 < c.tasks)
    (concurrency : 0 < c.concurrency) : IsAmount (e.estimate c).toModel.unpack := by
  have own := isAmount_ownSeconds seconds tasks concurrency
  unfold estimate
  split
  · exact isAmount_add own (isAmount_ownSeconds seconds tasks (e.populationPhase_pos concurrency))
  · exact own

end Estimator

/-! ## Coefficients -/

namespace Baseline

theorem references_pos {b : Baseline} {e : String × UInt64} (listed : e ∈ b.references) :
    0 < e.2 :=
  of_decide_eq_true (List.mem_filter.1 listed).2

theorem fastest_pos {b : Baseline} {time : UInt64} (fastest : b.fastest? = some time) :
    0 < time := by
  obtain ⟨e, listed, rfl⟩ := List.mem_map.1 (List.min?_mem fastest)
  exact references_pos listed

end Baseline

namespace Coefficients

/-- What a baseline gives a driver is the quotient of two reference times. -/
theorem between_of_get? {b : Baseline} {driver : String} {x : Float}
    (found : (ofBaseline b : Coefficients Float).get? driver = some x) : Between x (-64) 64 := by
  unfold ofBaseline at found
  cases fastest : Baseline.fastest? b with
  | none =>
    rw [fastest] at found
    cases found
  | some time =>
    rw [fastest] at found
    obtain ⟨⟨name, y⟩, entry, rfl⟩ := Option.map_eq_some_iff.1 found
    obtain ⟨e, listed, same⟩ := List.mem_map.1 (List.mem_of_find?_eq_some entry)
    cases same
    exact (between_uint64 (Baseline.references_pos listed)).div
      (between_uint64 (Baseline.fastest_pos fastest)) (by decide) (by decide)

/-- The coefficient of a driver is positive and finite, whatever the baseline. -/
theorem between_factor (b : Baseline) (driver : String) :
    Between ((ofBaseline b).factor driver) (-64) 64 := by
  unfold factor
  cases found : (ofBaseline b : Coefficients Float).get? driver with
  | none =>
    exact (between_ofNat_of_lt (k := 1) Nat.one_pos (by decide) (by decide)).mono (by decide)
      (by decide)
  | some x => exact between_of_get? found

end Coefficients

/-! ## Projections -/

namespace Projection

/-- The coefficients of all drivers together are positive and finite, however many they are. -/
theorem between_driverFactor (b : Baseline) {plan : Plan} (drivers : plan.drivers ≠ []) :
    Between (driverFactor plan (Coefficients.ofBaseline b)) (-64) 128 := by
  refine between_sum ?_ ?_ (l := 64) (by decide) (by decide) (by decide)
  · exact fun none => drivers (List.map_eq_nil_iff.1 none)
  · intro x listed
    obtain ⟨d, -, rfl⟩ := List.mem_map.1 listed
    exact Coefficients.between_factor b d.name

/-- Without restarts, a plan of amounts takes an amount of time. -/
theorem isAmount_runSeconds {e : Estimator Float} {plan : Plan} (b : Baseline)
    (estimates : ∀ c ∈ plan.configurations, IsAmount (e.estimate c).toModel.unpack)
    (drivers : plan.drivers ≠ []) (samples : 0 < plan.samples) :
    IsAmount (runSeconds e plan (Coefficients.ofBaseline b)).toModel.unpack := by
  refine isAmount_sum fun x listed => ?_
  obtain ⟨c, planned, rfl⟩ := List.mem_map.1 listed
  exact isAmount_mul (isAmount_mul (estimates c planned) (between_driverFactor b drivers))
    (between_uint32 samples)

variable {e : Estimator Float} {plan : Plan} {c : Coefficients Float}

/-- With restarts that take an amount of time each, the projected time is an amount. -/
theorem isAmount_ofPlan {overhead : Option Float}
    (runs : IsAmount (runSeconds e plan c).toModel.unpack) (nonempty : 0 < plan.size)
    (size : plan.size < UInt64.size)
    (amount : ∀ h ∈ overhead, IsAmount h.toModel.unpack) :
    IsAmount (ofPlan e plan c overhead).seconds.toModel.unpack := by
  cases overhead with
  | none => exact runs
  | some h =>
    have restarts : IsAmount (Arithmetic.ofNat plan.len.toNat * h).toModel.unpack := by
      rw [float_mul_comm, Plan.toNat_len size]
      exact isAmount_mul (amount h rfl)
        (between_ofNat_of_lt (k := 64) nonempty size (by decide))
    exact isAmount_add runs restarts

/-- Restarts that take what is no number of seconds leave no number. -/
theorem isNaN_ofPlan {h : Float} (none : h.isNaN = true) :
    (ofPlan e plan c (some h)).seconds.isNaN = true :=
  isNaN_add _ (isNaN_mul _ none)

end Projection

/-! ## Settings -/

namespace Settings

namespace Sound

variable {s : Settings}

theorem isAmount_runSeconds (sound : s.Sound) :
    IsAmount (Projection.runSeconds s.estimator (s.planOf s.optionSpace)
      s.coefficients).toModel.unpack := by
  refine Projection.isAmount_runSeconds _ (fun c planned => ?_) sound.drivers_ne_nil
    (UInt32.pos_iff_ne_zero.2 sound.samples_ne_zero)
  have drawn : c ∈ s.optionSpace.configurations :=
    (s.planOf_configurations_perm s.optionSpace).mem_iff.1 planned
  obtain ⟨tasks, concurrency⟩ := sound.pos_of_mem_configurations drawn
  exact Estimator.isAmount_estimate sound.seconds_pos tasks concurrency

/-- The overhead of sound settings is an amount, if it is a number at all. -/
theorem isAmount_restartOverhead (sound : s.Sound)
    (number : ¬ (s.calibration.restarts = true ∧ s.calibration.restartOverhead.isNaN = true)) :
    ∀ h ∈ s.restartOverhead, IsAmount h.toModel.unpack := by
  intro h given
  unfold restartOverhead at given
  split at given
  next restarts =>
    obtain rfl := Option.some.inj given
    refine (isAmount_iff _).2 ⟨?_, sound.overhead_nonneg⟩
    exact Bool.eq_false_iff.2 fun none => number ⟨restarts, none⟩
  next => cases given

end Sound

/-- Restarts that take no number of seconds leave no number, sound settings or not. -/
theorem isNaN_projection {s : Settings} (space : Space) (restarts : s.calibration.restarts = true)
    (none : s.calibration.restartOverhead.isNaN = true) :
    (Projection.ofPlan s.estimator (s.planOf space) s.coefficients
      s.restartOverhead).seconds.isNaN = true := by
  rw [restartOverhead, if_pos restarts]
  exact Projection.isNaN_ofPlan none

/-- **A projected time is never below zero, and no number only where a restart takes no number of
seconds.**  The options of settings without fault span a space, and unless its plan has more runs
than can be counted, the time that is projected for it from the settings' own baseline and
overhead is a number or the overhead is none. -/
theorem projection_of_unflawed (s : Settings) (unflawed : s.isFlawed = false) :
    ∃ space, s.spaceOf = .ok space ∧
      ((s.planOf space).size < UInt64.size →
        let seconds := (Projection.ofPlan s.estimator (s.planOf space) s.coefficients
          s.restartOverhead).seconds
        ¬ seconds < 0 ∧
          (seconds.isNaN = true ↔
            s.calibration.restarts = true ∧ s.calibration.restartOverhead.isNaN = true)) := by
  have sound := s.isFlawed_eq_false_iff.1 unflawed
  refine ⟨s.optionSpace, sound.spaceOf_eq, ?_⟩
  intro size seconds
  -- the checks compare the overhead with zero, and what is no number passes every such test
  by_cases none : s.calibration.restarts = true ∧ s.calibration.restartOverhead.isNaN = true
  · have noNumber : seconds.isNaN = true := isNaN_projection _ none.1 none.2
    exact ⟨not_lt_of_isNaN noNumber 0, iff_of_true noNumber none⟩
  · have amount : IsAmount seconds.toModel.unpack :=
      Projection.isAmount_ofPlan sound.isAmount_runSeconds sound.size_pos size
        (sound.isAmount_restartOverhead none)
    obtain ⟨number, nonneg⟩ := (isAmount_iff seconds).1 amount
    exact ⟨nonneg, iff_of_false (Bool.eq_false_iff.1 number) none⟩

/-- Settings with restarts that take no number of seconds. -/
def unmeasuredRestarts : Settings :=
  { runners := "runners", samples := 1, nodes := ⟨["db"], Nodes.defaultPort⟩
    drivers := [⟨"a", none, false⟩]
    space := ⟨[1], [1], [.inserts], 0⟩
    calibration := { restarts := true, restartOverhead := 0.0 / 0.0 } }

/-- Restarts of unlimited seconds pass the checks, and the projected time is still a number. -/
theorem projection_unlimitedRestarts :
    let s : Settings := { unmeasuredRestarts with
      calibration := { restarts := true, restartOverhead := 1.0 / 0.0 } }
    s.isFlawed = false ∧ ∃ space, s.spaceOf = .ok space ∧ (s.planOf space).size < UInt64.size ∧
      ¬ (Projection.ofPlan s.estimator (s.planOf space) s.coefficients
          s.restartOverhead).seconds < 0 ∧
      (Projection.ofPlan s.estimator (s.planOf space) s.coefficients
          s.restartOverhead).seconds.isNaN = false := by
  intro s
  have unflawed : s.isFlawed = false := by decide +kernel
  obtain ⟨space, spans, projected⟩ := projection_of_unflawed s unflawed
  obtain rfl : s.optionSpace = space := Except.ok.inj spans
  have size : (s.planOf s.optionSpace).size < UInt64.size := by decide +kernel
  obtain ⟨nonneg, none⟩ := projected size
  refine ⟨unflawed, _, spans, size, nonneg, Bool.eq_false_iff.2 fun noNumber => ?_⟩
  exact absurd (none.1 noNumber).2 (by decide +kernel)

/-- The checks let such settings through, and no time can be projected for them. -/
theorem projection_unmeasuredRestarts :
    unmeasuredRestarts.isFlawed = false ∧
      ∃ space, unmeasuredRestarts.spaceOf = .ok space ∧
        (Projection.ofPlan unmeasuredRestarts.estimator (unmeasuredRestarts.planOf space)
          unmeasuredRestarts.coefficients unmeasuredRestarts.restartOverhead).seconds.isNaN =
            true :=
  ⟨by decide +kernel, _, rfl, isNaN_projection _ rfl (by decide +kernel)⟩

end Settings

end BenchCampaign
