import BenchCampaign.Proofs.Plan.Runs
import BenchCampaign.Proofs.Record.Written
import BenchCampaign.Space
import Mathlib.Data.List.Nodup

/-!
# Distinct configurations, runs and tags

Neither a space nor a plan repeats anything that its options do not repeat.
Products are lists of rows; a row is told from another one by what each of its
entries shows of it, the task count of a configuration or the driver of a run.

* `Space.configurations_ne_nil`: the smallest task count is never left out.
* `Space.nodup_configurations`: no configuration twice.
* `Plan.nodup_runs`, `Plan.nodup_tags`: no run twice, and no two runs of one tag.
* `Plan.eq_of_run?_tag`: no two positions of one tag.
* `Tag.line_injective`: a tag is known by its line.
-/

namespace BenchCampaign

/-! ## Products -/

/-- Rows have no entry in common where each entry shows a mark of its row. -/
theorem nodup_flatMap_marked {α β γ : Type} {f : α → List β} {l : List α} (mark : α → γ)
    (shown : β → γ) (shows : ∀ a ∈ l, ∀ b ∈ f a, shown b = mark a)
    (rows : ∀ a ∈ l, (f a).Nodup) (marks : (l.map mark).Nodup) : (l.flatMap f).Nodup := by
  rw [List.nodup_flatMap]
  refine ⟨rows, (List.pairwise_map.1 marks).imp_of_mem ?_⟩
  intro a a' inList inList' ne b inRow inRow'
  exact ne ((shows a inList b inRow).symm.trans (shows a' inList' b inRow'))

/-! ## Configurations of a space -/

namespace Space

variable {s : Space} {c : Configuration}

theorem mem_combinations :
    c ∈ s.combinations ↔ c.tasks ∈ s.tasks ∧ c.concurrency ∈ s.concurrency ∧
      c.workload ∈ s.workloads := by
  obtain ⟨t, n, w⟩ := c
  simp [combinations]

theorem nodup_combinations (tasks : s.tasks.Nodup) (concurrency : s.concurrency.Nodup)
    (workloads : s.workloads.Nodup) : s.combinations.Nodup := by
  refine nodup_flatMap_marked id Configuration.tasks ?_ ?_ (by rwa [List.map_id])
  · intro t _ c inRow
    simp only [List.mem_flatMap, List.mem_map] at inRow
    obtain ⟨_, _, _, _, rfl⟩ := inRow
    rfl
  · intro t _
    refine nodup_flatMap_marked id Configuration.concurrency ?_ ?_ (by rwa [List.map_id])
    · intro n _ c inRow
      obtain ⟨_, _, rfl⟩ := List.mem_map.1 inRow
      rfl
    · intro n _
      exact workloads.map fun _ _ same => congrArg Configuration.workload same

/-- No configuration is drawn twice from options without repetitions. -/
theorem nodup_configurations (tasks : s.tasks.Nodup) (concurrency : s.concurrency.Nodup)
    (workloads : s.workloads.Nodup) : s.configurations.Nodup :=
  (nodup_combinations tasks concurrency workloads).filter _

theorem mem_of_mem_configurations (drawn : c ∈ s.configurations) :
    c.tasks ∈ s.tasks ∧ c.concurrency ∈ s.concurrency ∧ c.workload ∈ s.workloads :=
  mem_combinations.1 (List.mem_filter.1 drawn).1

theorem smallestTasks_mem (nonempty : s.tasks ≠ []) : s.smallestTasks ∈ s.tasks := by
  obtain ⟨least, found⟩ := Option.isSome_iff_exists.1 (List.isSome_min?_of_ne_nil nonempty)
  rw [smallestTasks, found]
  exact List.min?_mem found

theorem isExcluded_of_smallest (smallest : c.tasks = s.smallestTasks) :
    s.isExcluded c = false := by
  rw [isExcluded, smallest, decide_eq_false (UInt64.lt_irrefl _), Bool.false_and]

/-- Only the smallest task count is sure to be run, and it is run with all else. -/
theorem configurations_ne_nil (tasks : s.tasks ≠ []) (concurrency : s.concurrency ≠ [])
    (workloads : s.workloads ≠ []) : s.configurations ≠ [] := by
  obtain ⟨n, hasConcurrency⟩ := List.exists_mem_of_ne_nil _ concurrency
  obtain ⟨w, hasWorkload⟩ := List.exists_mem_of_ne_nil _ workloads
  have combined : ⟨s.smallestTasks, n, w⟩ ∈ s.combinations :=
    mem_combinations.2 ⟨smallestTasks_mem tasks, hasConcurrency, hasWorkload⟩
  refine List.ne_nil_of_mem (List.mem_filter.2 ⟨combined, ?_⟩)
  rw [isExcluded_of_smallest rfl, Bool.not_false]

end Space

/-! ## Tags -/

namespace Tag

/-- A tag is known by its line. -/
theorem line_injective : Function.Injective line := by
  intro t u same
  have json : t.json = u.json := List.append_cancel_left same
  have read : some t = some u := by rw [← read?_json t, ← read?_json u, json]
  exact Option.some.inj read

end Tag

/-! ## Runs of a plan -/

namespace Plan

variable {p : Plan} {r : Run}

theorem ofNat_injOn_range (n : UInt32) :
    ∀ i ∈ List.range n.toNat, ∀ j ∈ List.range n.toNat,
      UInt32.ofNat i = UInt32.ofNat j → i = j := by
  intro i inRange j inRange' same
  have fits : i < UInt32.size := Nat.lt_trans (List.mem_range.1 inRange) n.toNat_lt_size
  have fits' : j < UInt32.size := Nat.lt_trans (List.mem_range.1 inRange') n.toNat_lt_size
  have values := congrArg UInt32.toNat same
  rwa [UInt32.toNat_ofNat_of_lt' fits, UInt32.toNat_ofNat_of_lt' fits'] at values

theorem nodup_samplesOf (p : Plan) (c : Configuration) (d : Driver) :
    (p.samplesOf c d).Nodup := by
  refine List.Nodup.map_on ?_ List.nodup_range
  intro i inRange j inRange' same
  exact ofNat_injOn_range p.samples i inRange j inRange' (congrArg Run.sample same)

theorem mem_runs_iff :
    r ∈ p.runs ↔ ∃ c ∈ p.configurations, ∃ d ∈ p.drivers, r ∈ p.samplesOf c d := by
  simp only [runs, List.mem_flatMap]

theorem mem_of_mem_samplesOf {c : Configuration} {d : Driver} (listed : r ∈ p.samplesOf c d) :
    r.configuration = c ∧ r.driver = d := by
  obtain ⟨_, _, rfl⟩ := List.mem_map.1 listed
  exact ⟨rfl, rfl⟩

theorem driver_mem_of_mem_runs (listed : r ∈ p.runs) : r.driver ∈ p.drivers := by
  obtain ⟨c, _, d, given, sampled⟩ := mem_runs_iff.1 listed
  rw [(mem_of_mem_samplesOf sampled).2]
  exact given

/-- A plan lists no run twice. -/
theorem nodup_runs (configurations : p.configurations.Nodup) (drivers : p.drivers.Nodup) :
    p.runs.Nodup := by
  refine nodup_flatMap_marked id Run.configuration ?_ ?_ (by rwa [List.map_id])
  · intro c _ r listed
    obtain ⟨d, _, sampled⟩ := List.mem_flatMap.1 listed
    exact (mem_of_mem_samplesOf sampled).1
  · intro c _
    refine nodup_flatMap_marked id Run.driver ?_ ?_ (by rwa [List.map_id])
    · intro d _ r sampled
      exact (mem_of_mem_samplesOf sampled).2
    · intro d _
      exact p.nodup_samplesOf c d

/-- Where a driver is known by its name, a run is known by its tag. -/
theorem eq_of_ofRun_eq (names : (p.drivers.map Driver.name).Nodup) {q r : Run}
    (listed : q ∈ p.runs) (listed' : r ∈ p.runs) (same : Tag.ofRun q = Tag.ofRun r) : q = r := by
  have driver : q.driver = r.driver :=
    List.inj_on_of_nodup_map names (driver_mem_of_mem_runs listed)
      (driver_mem_of_mem_runs listed') (congrArg Tag.driver same)
  have tasks := congrArg Tag.tasks same
  have concurrency := congrArg Tag.concurrency same
  have workload := congrArg Tag.workload same
  have sample := congrArg Tag.sample same
  obtain ⟨⟨t, n, w⟩, d, i⟩ := q
  obtain ⟨⟨t', n', w'⟩, d', i'⟩ := r
  simp only [Tag.ofRun] at driver tasks concurrency workload sample
  rw [tasks, concurrency, workload, driver, sample]

/-- No two runs of a plan have one tag. -/
theorem nodup_tags (configurations : p.configurations.Nodup)
    (names : (p.drivers.map Driver.name).Nodup) : (p.runs.map Tag.ofRun).Nodup :=
  List.Nodup.map_on (fun _ listed _ listed' => eq_of_ofRun_eq names listed listed')
    (nodup_runs configurations (names.of_map _))

/-- Two positions of a plan have different tags. -/
theorem eq_of_run?_tag (configurations : p.configurations.Nodup)
    (names : (p.drivers.map Driver.name).Nodup) {i j : Nat} {q r : Run}
    (atFirst : p.run? i = some q) (atSecond : p.run? j = some r)
    (same : Tag.ofRun q = Tag.ofRun r) : i = j := by
  have tag (k : Nat) : (p.runs.map Tag.ofRun)[k]? = (p.run? k).map Tag.ofRun := by
    rw [List.getElem?_map, run?_eq_getElem?]
  have first : (p.runs.map Tag.ofRun)[i]? = some (Tag.ofRun q) := by rw [tag, atFirst]; rfl
  have second : (p.runs.map Tag.ofRun)[j]? = some (Tag.ofRun r) := by rw [tag, atSecond]; rfl
  have inside : i < (p.runs.map Tag.ofRun).length := (List.getElem?_eq_some_iff.1 first).1
  rw [← same] at second
  exact (List.getElem?_inj inside (nodup_tags configurations names)).1 (first.trans second.symm)

/-- A plan with configurations, drivers and samples has runs. -/
theorem size_pos (configurations : p.configurations ≠ []) (drivers : p.drivers ≠ [])
    (samples : p.samples ≠ 0) : 0 < p.size := by
  have sampled : 0 < p.samples.toNat := Nat.pos_of_ne_zero fun zero =>
    samples (UInt32.toNat_inj.1 zero)
  exact Nat.mul_pos (Nat.mul_pos (List.length_pos_of_ne_nil configurations)
    (List.length_pos_of_ne_nil drivers)) sampled

end Plan

end BenchCampaign
