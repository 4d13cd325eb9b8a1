import BenchCampaign.Proofs.Plan.Distinct
import Mathlib.Data.List.Count

/-!
# The configurations of a space

The options of a space come in any order and with any repetitions.  Its configurations are the
rows of the product, with a row left out where its task count is not the smallest one and its
concurrency is below the threshold.  How often a configuration is drawn is how often its parts are
given together, so nothing is left out but that, and nothing is drawn for any other reason.

* `Space.getElem?_combinations`: the product, by position.
* `Space.count_configurations`: how often a configuration is drawn.
* `Space.isExcluded_iff`: which configurations are left out.
* `Space.sublist_configurations`: what a lower threshold adds.
* `Space.ofOptions_draws`: which options span a space, and what is drawn from them.
-/

namespace BenchCampaign

/-! ## Products of lists with repetitions -/

/-- An entry that only the rows of one mark have is there as often as the mark is. -/
theorem count_flatMap_row {α β : Type} [DecidableEq α] [DecidableEq β] {f : α → List β} {a : α}
    {b : β} (others : ∀ a', a' ≠ a → b ∉ f a') (l : List α) :
    (l.flatMap f).count b = l.count a * (f a).count b := by
  induction l with
  | nil => rw [List.flatMap_nil, List.count_nil, List.count_nil, Nat.zero_mul]
  | cons a' l ih =>
    rw [List.flatMap_cons, List.count_append, ih]
    by_cases same : a' = a
    · rw [same, List.count_cons_self, Nat.succ_mul, Nat.add_comm]
    · rw [List.count_eq_zero.2 (others a' same), List.count_cons_of_ne same, Nat.zero_add]

namespace Space

/-- The combinations of one task count. -/
def row (s : Space) (t : UInt64) : List Configuration :=
  s.concurrency.flatMap fun n => s.workloads.map (Configuration.mk t n)

variable {s : Space} {c : Configuration}

theorem combinations_eq_rows (s : Space) : s.combinations = s.tasks.flatMap s.row := rfl

theorem tasks_of_mem_row {t : UInt64} (listed : c ∈ s.row t) : c.tasks = t := by
  simp only [row, List.mem_flatMap, List.mem_map] at listed
  obtain ⟨_, _, _, _, rfl⟩ := listed
  rfl

theorem count_row (s : Space) (c : Configuration) :
    (s.row c.tasks).count c =
      s.concurrency.count c.concurrency * s.workloads.count c.workload := by
  have workloads : (s.workloads.map (Configuration.mk c.tasks c.concurrency)).count c =
      s.workloads.count c.workload :=
    List.count_map_of_injective _ (Configuration.mk c.tasks c.concurrency)
      (fun _ _ same => congrArg Configuration.workload same) c.workload
  have others (n : UInt32) (ne : n ≠ c.concurrency) :
      c ∉ s.workloads.map (Configuration.mk c.tasks n) := by
    intro listed
    obtain ⟨w, -, same⟩ := List.mem_map.1 listed
    exact ne (congrArg Configuration.concurrency same)
  rw [row, count_flatMap_row others, workloads]

/-- A combination is there as often as its parts are given together. -/
theorem count_combinations (s : Space) (c : Configuration) :
    s.combinations.count c =
      s.tasks.count c.tasks * s.concurrency.count c.concurrency *
        s.workloads.count c.workload := by
  have others (t : UInt64) (ne : t ≠ c.tasks) : c ∉ s.row t :=
    fun listed => ne (tasks_of_mem_row listed).symm
  rw [combinations_eq_rows, count_flatMap_row others, count_row, Nat.mul_assoc]

theorem length_row (s : Space) (t : UInt64) :
    (s.row t).length = s.concurrency.length * s.workloads.length :=
  Plan.length_flatMap_rows (fun _ => List.length_map _) s.concurrency

/-- The product by position: task counts outermost, then concurrency, then workloads. -/
theorem getElem?_combinations (s : Space) (i : Nat) :
    s.combinations[i]? =
      s.tasks[i / (s.concurrency.length * s.workloads.length)]?.bind fun t =>
        s.concurrency[i / s.workloads.length % s.concurrency.length]?.bind fun n =>
          s.workloads[i % s.workloads.length]?.map (Configuration.mk t n) := by
  rw [combinations_eq_rows, Plan.getElem?_flatMap_rows s.length_row]
  congr 1
  funext t
  rw [row, Plan.getElem?_flatMap_rows fun _ => List.length_map _, Nat.mul_comm s.concurrency.length,
    Nat.mod_mul_right_div_self, Nat.mod_mul_right_mod]
  simp only [List.getElem?_map]

/-! ## What is left out -/

theorem smallestTasks_le (nonempty : s.tasks ≠ []) {t : UInt64} (given : t ∈ s.tasks) :
    s.smallestTasks ≤ t := by
  obtain ⟨least, found⟩ := Option.isSome_iff_exists.1 (List.isSome_min?_of_ne_nil nonempty)
  rw [smallestTasks, found]
  exact (List.le_min?_iff found).1 (UInt64.le_refl least) t given

/-- What is left out has more tasks than need be, and runs too few of them at a time. -/
theorem isExcluded_iff (nonempty : s.tasks ≠ []) :
    s.isExcluded c = true ↔
      (∃ t ∈ s.tasks, t < c.tasks) ∧ c.concurrency < s.largeTaskMinConcurrency := by
  rw [isExcluded, Bool.and_eq_true, decide_eq_true_iff, decide_eq_true_iff]
  refine and_congr_left' ⟨fun larger => ⟨_, smallestTasks_mem nonempty, larger⟩, ?_⟩
  rintro ⟨t, given, larger⟩
  exact UInt64.lt_of_le_of_lt (smallestTasks_le nonempty given) larger

/-- A configuration is drawn as often as its parts are given, or left out altogether. -/
theorem count_configurations (s : Space) (c : Configuration) :
    s.configurations.count c =
      if s.isExcluded c then 0
      else s.tasks.count c.tasks * s.concurrency.count c.concurrency *
        s.workloads.count c.workload := by
  cases excluded : s.isExcluded c with
  | true =>
    rw [if_pos rfl, List.count_eq_zero]
    intro drawn
    have kept := (List.mem_filter.1 drawn).2
    rw [excluded] at kept
    cases kept
  | false =>
    rw [if_neg Bool.false_ne_true, ← count_combinations, configurations, List.count_filter]
    rw [excluded, Bool.not_false]

/-- Options that are left out at a lower threshold are left out at a higher one. -/
theorem isExcluded_of_lower {lower : UInt32} (below : lower ≤ s.largeTaskMinConcurrency)
    (excluded : { s with largeTaskMinConcurrency := lower }.isExcluded c = true) :
    s.isExcluded c = true := by
  rw [isExcluded, Bool.and_eq_true, decide_eq_true_iff, decide_eq_true_iff] at excluded ⊢
  exact ⟨excluded.1, UInt32.lt_of_lt_of_le excluded.2 below⟩

/-- A lower threshold leaves out no more, and reorders nothing. -/
theorem sublist_configurations (s : Space) {lower : UInt32}
    (below : lower ≤ s.largeTaskMinConcurrency) :
    s.configurations.Sublist { s with largeTaskMinConcurrency := lower }.configurations := by
  refine List.monotone_filter_right s.combinations fun c kept => ?_
  rw [Bool.not_eq_true'] at kept ⊢
  exact Bool.eq_false_iff.2 fun excluded =>
    Bool.eq_false_iff.1 kept (isExcluded_of_lower below excluded)

/-- The smallest task count is run at any concurrency, and a concurrency that reaches the
threshold with any task count. -/
theorem mem_configurations (tasks : c.tasks ∈ s.tasks) (concurrency : c.concurrency ∈ s.concurrency)
    (workload : c.workload ∈ s.workloads)
    (allowed : (∀ t ∈ s.tasks, c.tasks ≤ t) ∨ s.largeTaskMinConcurrency ≤ c.concurrency) :
    c ∈ s.configurations := by
  refine List.mem_filter.2 ⟨mem_combinations.2 ⟨tasks, concurrency, workload⟩, ?_⟩
  rw [Bool.not_eq_true', Bool.eq_false_iff]
  intro excluded
  -- being left out takes both a smaller task count and a concurrency below the threshold
  obtain ⟨⟨t, given, larger⟩, low⟩ := (isExcluded_iff (List.ne_nil_of_mem tasks)).1 excluded
  rcases allowed with smallest | high
  · exact UInt64.not_le.2 larger (smallest t given)
  · exact UInt32.not_le.2 low high

/-! ## Spaces of options -/

section Options

variable {tasks : List UInt64} {concurrency : List UInt32} {workloads : List Workload}
  {threshold : UInt32}

theorem ofOptions_eq_ok_iff :
    ofOptions tasks concurrency workloads threshold = .ok s ↔
      (tasks ≠ [] ∧ concurrency ≠ [] ∧ workloads ≠ []) ∧ (0 ∉ tasks ∧ 0 ∉ concurrency) ∧
        s = ⟨tasks, concurrency, workloads, threshold⟩ := by
  unfold ofOptions
  constructor
  · intro spans
    split at spans
    next => cases spans
    next nonempty =>
      split at spans
      next => cases spans
      next tasksPos =>
        split at spans
        next => cases spans
        next concurrencyPos =>
          rw [Bool.or_eq_true, Bool.or_eq_true, List.isEmpty_iff, List.isEmpty_iff,
            List.isEmpty_iff, not_or, not_or, and_assoc] at nonempty
          rw [List.contains_iff_mem] at tasksPos concurrencyPos
          exact ⟨nonempty, ⟨tasksPos, concurrencyPos⟩, (Except.ok.inj spans).symm⟩
  · rintro ⟨⟨tasks, concurrency, workloads⟩, ⟨tasksPos, concurrencyPos⟩, rfl⟩
    simp [tasks, concurrency, workloads, tasksPos, concurrencyPos]

/-- Options span no space if a list is empty or a number is zero, and only then. -/
theorem exists_ofOptions_eq_error_iff :
    (∃ fault, ofOptions tasks concurrency workloads threshold = .error fault) ↔
      (tasks = [] ∨ concurrency = [] ∨ workloads = []) ∨ 0 ∈ tasks ∨ 0 ∈ concurrency := by
  constructor
  · rintro ⟨fault, refused⟩
    by_contra sound
    rw [not_or, not_or, not_or, not_or] at sound
    rw [ofOptions_eq_ok_iff.2 ⟨sound.1, sound.2, rfl⟩] at refused
    cases refused
  · intro unsound
    cases result : ofOptions tasks concurrency workloads threshold with
    | error fault => exact ⟨fault, rfl⟩
    | ok s =>
      obtain ⟨⟨tasks, concurrency, workloads⟩, ⟨tasksPos, concurrencyPos⟩, -⟩ :=
        ofOptions_eq_ok_iff.1 result
      rcases unsound with (empty | empty | empty) | zero | zero
      · exact absurd empty tasks
      · exact absurd empty concurrency
      · exact absurd empty workloads
      · exact absurd zero tasksPos
      · exact absurd zero concurrencyPos

end Options

/-- **A space draws exactly the allowed part of the product of its options.**  Options span a
space unless a list of them is empty or a number is zero.  A configuration is left out if a
smaller task count is given and its concurrency is below the threshold; any other one is drawn
as often as its parts are given together, in the order of the product.  The smallest task count
and any concurrency that reaches the threshold are always drawn, so there is something to run, and
lowering the threshold only adds to it. -/
theorem ofOptions_draws (tasks : List UInt64) (concurrency : List UInt32)
    (workloads : List Workload) (threshold : UInt32) :
    ((∃ fault, ofOptions tasks concurrency workloads threshold = .error fault) ↔
        (tasks = [] ∨ concurrency = [] ∨ workloads = []) ∨ 0 ∈ tasks ∨ 0 ∈ concurrency) ∧
      ∀ s, ofOptions tasks concurrency workloads threshold = .ok s →
        (∀ c, s.isExcluded c = true ↔
          (∃ t ∈ tasks, t < c.tasks) ∧ c.concurrency < threshold) ∧
        (∀ c, s.configurations.count c =
          if s.isExcluded c then 0
          else tasks.count c.tasks * concurrency.count c.concurrency *
            workloads.count c.workload) ∧
        s.configurations = s.combinations.filter (fun c => !s.isExcluded c) ∧
        (∀ i, s.combinations[i]? =
          tasks[i / (concurrency.length * workloads.length)]?.bind fun t =>
            concurrency[i / workloads.length % concurrency.length]?.bind fun n =>
              workloads[i % workloads.length]?.map (Configuration.mk t n)) ∧
        (∀ c, c.tasks ∈ tasks → c.concurrency ∈ concurrency → c.workload ∈ workloads →
          (∀ t ∈ tasks, c.tasks ≤ t) ∨ threshold ≤ c.concurrency → c ∈ s.configurations) ∧
        s.configurations ≠ [] ∧
        ∀ lower ≤ threshold, ∃ s', ofOptions tasks concurrency workloads lower = .ok s' ∧
          s.configurations.Sublist s'.configurations := by
  refine ⟨exists_ofOptions_eq_error_iff, fun s spans => ?_⟩
  obtain ⟨nonempty, positive, rfl⟩ := ofOptions_eq_ok_iff.1 spans
  refine ⟨fun c => isExcluded_iff nonempty.1, count_configurations _, rfl,
    getElem?_combinations _, ?_, configurations_ne_nil nonempty.1 nonempty.2.1 nonempty.2.2, ?_⟩
  · intro c hasTasks hasConcurrency hasWorkload allowed
    exact mem_configurations hasTasks hasConcurrency hasWorkload allowed
  · intro lower below
    exact ⟨_, ofOptions_eq_ok_iff.2 ⟨nonempty, positive, rfl⟩, sublist_configurations _ below⟩

/-- Options with repetitions: the larger task count at the lower concurrency is left out. -/
theorem ofOptions_repeated :
    let s : Space := ⟨[10, 1, 10], [8, 2], [.inserts], 4⟩
    ofOptions [10, 1, 10] [8, 2] [.inserts] 4 = .ok s ∧
      s.configurations.count ⟨10, 8, .inserts⟩ = 2 ∧
      s.configurations.count ⟨10, 2, .inserts⟩ = 0 ∧ ⟨1, 2, .inserts⟩ ∈ s.configurations := by
  intro s
  have spans : ofOptions [10, 1, 10] [8, 2] [.inserts] 4 = .ok s :=
    ofOptions_eq_ok_iff.2 ⟨by decide, by decide, rfl⟩
  obtain ⟨-, drawn⟩ := ofOptions_draws [10, 1, 10] [8, 2] [.inserts] 4
  obtain ⟨-, count, -, -, allowed, -, -⟩ := drawn s spans
  refine ⟨spans, (count _).trans (by decide), (count _).trans (by decide), ?_⟩
  exact allowed ⟨1, 2, .inserts⟩ (by decide) (by decide) (by decide) (.inl (by simp))

end Space

end BenchCampaign
