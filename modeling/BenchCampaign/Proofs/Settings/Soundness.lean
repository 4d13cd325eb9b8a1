import BenchCampaign.Proofs.Plan.Order
import BenchCampaign.Proofs.Space.Configurations
import BenchCampaign.Settings.Preflight

/-!
# Sound settings

Settings are sound when every rule of the checks holds of them.  The checks look
for what breaks a rule, one rule at a time and whatever the others say, and a
missing baseline breaks none, so they find a fault exactly in settings that are
not sound.  Nothing that is planned from sound settings has to be checked again.

* `Settings.Sound`: the rules.
* `Settings.isFlawed_eq_false_iff`: settings without fault are the sound ones.
* `Settings.planOf_of_unflawed`: they span a space, and each run of their plan is
  known by the line of its tag.
-/

namespace BenchCampaign

/-! ## Single findings -/

namespace Finding

theorem any_isFault_ifFound (found : Bool) (f : Finding) :
    (ifFound found f).any isFault = (found && f.isFault) := by
  cases found with
  | true => exact Bool.or_false _
  | false => rfl

end Finding

namespace Settings

open Finding

/-! ## The rules -/

/-- What the checks ask of settings. -/
structure Sound (s : Settings) : Prop where
  drivers_ne_nil : s.drivers ≠ []
  driverNames_nodup : s.driverNames.Nodup
  samples_ne_zero : s.samples ≠ 0
  hosts_ne_nil : s.nodes.hosts ≠ []
  tasks_ne_nil : s.space.tasks ≠ []
  concurrency_ne_nil : s.space.concurrency ≠ []
  workloads_ne_nil : s.space.workloads ≠ []
  zero_notMem_tasks : 0 ∉ s.space.tasks
  zero_notMem_concurrency : 0 ∉ s.space.concurrency
  tasks_nodup : s.space.tasks.Nodup
  concurrency_nodup : s.space.concurrency.Nodup
  workloads_nodup : s.space.workloads.Nodup
  seconds_pos : 0 < s.calibration.secondsPerTask
  floor_ne_zero : s.calibration.populationFloor ≠ 0
  overhead_nonneg : ¬ s.calibration.restartOverhead < 0

/-! ## What each group of checks finds -/

theorem mem_repeatedDrivers {s : Settings} {f : Finding} :
    f ∈ s.repeatedDrivers ↔
      ∃ name, 1 < s.driverNames.count name ∧
        f = repeatedDriver name (s.driverNames.count name) := by
  unfold repeatedDrivers
  rw [List.mem_mergeSort, List.mem_map]
  constructor
  · rintro ⟨name, found, rfl⟩
    exact ⟨name, of_decide_eq_true (List.mem_filter.1 found).2, rfl⟩
  · rintro ⟨name, repeated, rfl⟩
    have named : name ∈ s.driverNames := List.count_pos_iff.1 (Nat.lt_of_succ_lt repeated)
    exact ⟨name, List.mem_filter.2 ⟨List.mem_eraseDups.2 named, decide_eq_true repeated⟩, rfl⟩

theorem any_repeatedDrivers (s : Settings) :
    s.repeatedDrivers.any isFault = false ↔ s.driverNames.Nodup := by
  rw [List.any_eq_false, List.nodup_iff_count_le_one]
  constructor
  · intro none name
    by_contra repeated
    exact none _ (mem_repeatedDrivers.2 ⟨name, Nat.lt_of_not_le repeated, rfl⟩) rfl
  · intro once f found
    obtain ⟨name, repeated, -⟩ := mem_repeatedDrivers.1 found
    exact absurd (once name) (Nat.not_le_of_lt repeated)

theorem any_spaceFindings (o : SpaceOptions) :
    (spaceFindings o).any isFault = false ↔
      (o.tasks ≠ [] ∧ o.concurrency ≠ [] ∧ o.workloads ≠ []) ∧
        (0 ∉ o.tasks ∧ 0 ∉ o.concurrency) ∧
          o.tasks.Nodup ∧ o.concurrency.Nodup ∧ o.workloads.Nodup := by
  simp [spaceFindings, any_isFault_ifFound, isFault, and_assoc]

theorem any_calibrationFindings (c : Calibration) :
    (calibrationFindings c).any isFault = false ↔
      0 < c.secondsPerTask ∧ c.populationFloor ≠ 0 ∧ ¬ c.restartOverhead < 0 := by
  simp [calibrationFindings, any_isFault_ifFound, isFault]

/-- A driver without reference time is no fault. -/
theorem any_baselineFindings (s : Settings) : s.baselineFindings.any isFault = false := by
  simp [baselineFindings, any_isFault_ifFound, isFault]

/-- Settings in which the checks find no fault are the sound ones. -/
theorem isFlawed_eq_false_iff (s : Settings) : s.isFlawed = false ↔ s.Sound := by
  simp only [isFlawed, findings, List.any_append, Bool.or_eq_false_iff, any_isFault_ifFound,
    any_repeatedDrivers, any_spaceFindings, any_calibrationFindings, any_baselineFindings,
    isFault, Bool.and_true, List.isEmpty_eq_false_iff, beq_eq_false_iff_ne, and_true]
  constructor
  · rintro ⟨⟨⟨⟨⟨drivers, names⟩, samples⟩, hosts⟩, ⟨tasks, concurrency, workloads⟩,
      ⟨tasksPos, concurrencyPos⟩, tasksNodup, concurrencyNodup, workloadsNodup⟩,
      seconds, floor, overhead⟩
    exact ⟨drivers, names, samples, hosts, tasks, concurrency, workloads, tasksPos,
      concurrencyPos, tasksNodup, concurrencyNodup, workloadsNodup, seconds, floor, overhead⟩
  · intro sound
    exact ⟨⟨⟨⟨⟨sound.drivers_ne_nil, sound.driverNames_nodup⟩, sound.samples_ne_zero⟩,
      sound.hosts_ne_nil⟩,
      ⟨sound.tasks_ne_nil, sound.concurrency_ne_nil, sound.workloads_ne_nil⟩,
      ⟨sound.zero_notMem_tasks, sound.zero_notMem_concurrency⟩,
      sound.tasks_nodup, sound.concurrency_nodup, sound.workloads_nodup⟩,
      sound.seconds_pos, sound.floor_ne_zero, sound.overhead_nonneg⟩

/-! ## What sound settings plan -/

/-- A plan orders the configurations of its space. -/
theorem planOf_configurations_perm (s : Settings) (space : Space) :
    (s.planOf space).configurations.Perm space.configurations :=
  (s.estimator.sort_arranges space.configurations).perm

/-- A plan begins with what is estimated to take least. -/
theorem pairwise_planOf_configurations (s : Settings) (space : Space) :
    (s.planOf space).configurations.Pairwise fun c d =>
      Binary64.precedes (s.estimator.estimate c) (s.estimator.estimate d) = true :=
  (s.estimator.sort_arranges space.configurations).pairwise Estimator.noDearer_trans

/-- The options as a space, whatever they are. -/
def optionSpace (s : Settings) : Space :=
  ⟨s.space.tasks, s.space.concurrency, s.space.workloads, s.space.largeTaskMinConcurrency⟩

namespace Sound

variable {s : Settings}

/-- Sound options span a space. -/
theorem spaceOf_eq (sound : s.Sound) : s.spaceOf = .ok s.optionSpace :=
  Space.ofOptions_eq_ok_iff.2
    ⟨⟨sound.tasks_ne_nil, sound.concurrency_ne_nil, sound.workloads_ne_nil⟩,
      ⟨sound.zero_notMem_tasks, sound.zero_notMem_concurrency⟩, rfl⟩

theorem configurations_ne_nil (sound : s.Sound) : s.optionSpace.configurations ≠ [] :=
  Space.configurations_ne_nil sound.tasks_ne_nil sound.concurrency_ne_nil sound.workloads_ne_nil

theorem nodup_configurations (sound : s.Sound) : s.optionSpace.configurations.Nodup :=
  Space.nodup_configurations sound.tasks_nodup sound.concurrency_nodup sound.workloads_nodup

theorem pos_of_mem_configurations (sound : s.Sound) {c : Configuration}
    (drawn : c ∈ s.optionSpace.configurations) : 0 < c.tasks ∧ 0 < c.concurrency := by
  obtain ⟨tasks, concurrency, -⟩ := Space.mem_of_mem_configurations drawn
  constructor
  · exact UInt64.pos_iff_ne_zero.2 fun zero => sound.zero_notMem_tasks (zero ▸ tasks)
  · exact UInt32.pos_iff_ne_zero.2 fun zero => sound.zero_notMem_concurrency (zero ▸ concurrency)

theorem size_pos (sound : s.Sound) : 0 < (s.planOf s.optionSpace).size := by
  have ordered := s.planOf_configurations_perm s.optionSpace
  have planned : (s.planOf s.optionSpace).configurations ≠ [] := fun none =>
    sound.configurations_ne_nil (List.perm_nil.1 (none ▸ ordered.symm))
  exact Plan.size_pos planned sound.drivers_ne_nil sound.samples_ne_zero

/-- A plan of no more runs than a word of 64 bits can count is seen to have some. -/
theorem isEmpty_planOf (sound : s.Sound)
    (fits : (s.planOf s.optionSpace).size < UInt64.size) :
    (s.planOf s.optionSpace).isEmpty = false := by
  rw [Bool.eq_false_iff, ne_eq, Plan.isEmpty_iff fits]
  exact Nat.ne_of_gt sound.size_pos

/-- A position of the plan is known by its tag. -/
theorem position_eq_of_tag (sound : s.Sound) {i j : Nat} {q r : Run}
    (first : (s.planOf s.optionSpace).run? i = some q)
    (second : (s.planOf s.optionSpace).run? j = some r) (same : Tag.ofRun q = Tag.ofRun r) :
    i = j := by
  have distinct : (s.planOf s.optionSpace).configurations.Nodup :=
    (s.planOf_configurations_perm s.optionSpace).nodup_iff.2 sound.nodup_configurations
  exact Plan.eq_of_run?_tag distinct sound.driverNames_nodup first second same

/-- The line of a tag belongs to one position of the plan. -/
theorem existsUnique_position (sound : s.Sound) {r : Run}
    (planned : r ∈ (s.planOf s.optionSpace).runs) :
    ∃! i, ((s.planOf s.optionSpace).run? i).map (fun q => (Tag.ofRun q).line) =
      some (Tag.ofRun r).line := by
  obtain ⟨i, found⟩ := List.mem_iff_getElem?.1 planned
  rw [← Plan.run?_eq_getElem?] at found
  refine ⟨i, by simp only [found, Option.map_some], ?_⟩
  intro j other
  obtain ⟨q, foundOther, same⟩ := Option.map_eq_some_iff.1 other
  exact sound.position_eq_of_tag foundOther found (Tag.line_injective same)

end Sound

/-- **No check is left to what comes after settings without fault.**  Their options span a space
of distinct configurations, there are runs in the plan, which is not taken for an empty one unless
it has more runs than a word of 64 bits can count, and every run has a tag, and a tag line, that
no other position of the plan has. -/
theorem planOf_of_unflawed (s : Settings) (unflawed : s.isFlawed = false) :
    ∃ space, s.spaceOf = .ok space ∧
      space.configurations ≠ [] ∧ space.configurations.Nodup ∧
      (∀ c ∈ space.configurations, 0 < c.tasks ∧ 0 < c.concurrency) ∧
      (s.planOf space).runs ≠ [] ∧
      ((s.planOf space).size < UInt64.size → (s.planOf space).isEmpty = false) ∧
      (∀ i j q r, (s.planOf space).run? i = some q → (s.planOf space).run? j = some r → i ≠ j →
        Tag.ofRun q ≠ Tag.ofRun r ∧ (Tag.ofRun q).line ≠ (Tag.ofRun r).line) ∧
      ∀ r ∈ (s.planOf space).runs,
        ∃! i, ((s.planOf space).run? i).map (fun q => (Tag.ofRun q).line) =
          some (Tag.ofRun r).line := by
  have sound := s.isFlawed_eq_false_iff.1 unflawed
  refine ⟨s.optionSpace, sound.spaceOf_eq, sound.configurations_ne_nil,
    sound.nodup_configurations, fun c drawn => sound.pos_of_mem_configurations drawn,
    (Plan.size_pos_iff _).1 sound.size_pos, sound.isEmpty_planOf, ?_,
    fun r planned => sound.existsUnique_position planned⟩
  intro i j q r first second ne
  constructor
  · exact fun same => ne (sound.position_eq_of_tag first second same)
  · exact fun same => ne (sound.position_eq_of_tag first second (Tag.line_injective same))

/-- Two drivers, two samples, and a task count that is left out at low concurrency. -/
theorem planOf_twoDrivers :
    let s : Settings :=
      { runners := "runners", samples := 2, nodes := ⟨["db"], Nodes.defaultPort⟩
        drivers := [⟨"a", none, false⟩, ⟨"b", none, true⟩]
        space := ⟨[100, 1], [1, 8], [.inserts, .mixed], 4⟩
        calibration := {} }
    s.isFlawed = false ∧ ∃ space, s.spaceOf = .ok space ∧ (s.planOf space).runs ≠ [] ∧
      (s.planOf space).isEmpty = false ∧ ∀ r ∈ (s.planOf space).runs,
        ∃! i, ((s.planOf space).run? i).map (fun q => (Tag.ofRun q).line) =
          some (Tag.ofRun r).line := by
  intro s
  have unflawed : s.isFlawed = false := by decide +kernel
  obtain ⟨space, spans, -, -, -, planned, counted, -, known⟩ := planOf_of_unflawed s unflawed
  obtain rfl : s.optionSpace = space := Except.ok.inj spans
  have fits : (s.planOf s.optionSpace).size < UInt64.size := by
    rw [Plan.size, (s.planOf_configurations_perm s.optionSpace).length_eq]
    decide
  exact ⟨unflawed, _, spans, planned, counted fits, known⟩

end Settings

end BenchCampaign
