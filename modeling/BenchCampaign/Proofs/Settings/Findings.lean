import BenchCampaign.Proofs.Decimal.Numeral
import BenchCampaign.Proofs.Settings.GuessedSpeed
import BenchCampaign.Proofs.Settings.Soundness

/-!
# What the checks tell

Every rule of the checks is about one thing, and what breaks it is told in words of its own.  So
whatever else is wrong, a rule that is broken is told once and a rule that holds is not told; and a
name that is given to several drivers is told once, with the number of these drivers.

* `Settings.Rule`, `Settings.Rule.Holds`: the rules, apart from that on names.
* `Finding.notice_injective`: what is told says which finding it is.
* `Settings.count_notice_finding`, `Settings.count_notice_repeatedDriver`: how often a finding is
  told.
-/

namespace BenchCampaign

/-! ## Rules -/

namespace Settings

/-- What the checks ask of settings, apart from different names for the drivers. -/
inductive Rule where
  | drivers
  | samples
  | hosts
  | options
  | positiveOptions
  | distinctTasks
  | distinctConcurrency
  | distinctWorkloads
  | secondsPerTask
  | populationFloor
  | restartOverhead
deriving DecidableEq, Repr

namespace Rule

/-- Whether settings keep a rule. -/
def Holds (s : Settings) : Rule → Prop
  | drivers => s.drivers ≠ []
  | samples => s.samples ≠ 0
  | hosts => s.nodes.hosts ≠ []
  | options => s.space.tasks ≠ [] ∧ s.space.concurrency ≠ [] ∧ s.space.workloads ≠ []
  | positiveOptions => 0 ∉ s.space.tasks ∧ 0 ∉ s.space.concurrency
  | distinctTasks => s.space.tasks.Nodup
  | distinctConcurrency => s.space.concurrency.Nodup
  | distinctWorkloads => s.space.workloads.Nodup
  | secondsPerTask => 0 < s.calibration.secondsPerTask
  | populationFloor => s.calibration.populationFloor ≠ 0
  | restartOverhead => ¬ s.calibration.restartOverhead < 0

instance (s : Settings) : DecidablePred (Holds s) := fun r => by
  cases r <;> unfold Holds <;> infer_instance

/-- What is found where a rule is broken. -/
def finding : Rule → Finding
  | drivers => .noDriver
  | samples => .noSample
  | hosts => .noHost
  | options => .emptyOptions
  | positiveOptions => .zeroOption
  | distinctTasks => .repeatedTasks
  | distinctConcurrency => .repeatedConcurrency
  | distinctWorkloads => .repeatedWorkload
  | secondsPerTask => .secondsNotPositive
  | populationFloor => .floorNotPositive
  | restartOverhead => .negativeOverhead

end Rule

/-- Settings are sound where every rule holds and no two drivers have one name. -/
theorem sound_iff {s : Settings} :
    s.Sound ↔ (∀ r, Rule.Holds s r) ∧ s.driverNames.Nodup := by
  constructor
  · intro sound
    refine ⟨fun r => ?_, sound.driverNames_nodup⟩
    cases r with
    | drivers => exact sound.drivers_ne_nil
    | samples => exact sound.samples_ne_zero
    | hosts => exact sound.hosts_ne_nil
    | options => exact ⟨sound.tasks_ne_nil, sound.concurrency_ne_nil, sound.workloads_ne_nil⟩
    | positiveOptions => exact ⟨sound.zero_notMem_tasks, sound.zero_notMem_concurrency⟩
    | distinctTasks => exact sound.tasks_nodup
    | distinctConcurrency => exact sound.concurrency_nodup
    | distinctWorkloads => exact sound.workloads_nodup
    | secondsPerTask => exact sound.seconds_pos
    | populationFloor => exact sound.floor_ne_zero
    | restartOverhead => exact sound.overhead_nonneg
  · rintro ⟨holds, names⟩
    obtain ⟨tasks, concurrency, workloads⟩ := holds .options
    obtain ⟨tasksPos, concurrencyPos⟩ := holds .positiveOptions
    exact ⟨holds .drivers, names, holds .samples, holds .hosts, tasks, concurrency, workloads,
      tasksPos, concurrencyPos, holds .distinctTasks, holds .distinctConcurrency,
      holds .distinctWorkloads, holds .secondsPerTask, holds .populationFloor,
      holds .restartOverhead⟩

end Settings

/-! ## Words -/

namespace Finding

open Settings (Rule)

/-- A fault is a broken rule or a name of several drivers. -/
theorem fault_cases {f : Finding} (fault : f.isFault = true) :
    (∃ r : Rule, f = r.finding) ∨ ∃ name count, f = repeatedDriver name count := by
  cases f with
  | noDriver => exact .inl ⟨.drivers, rfl⟩
  | repeatedDriver name count => exact .inr ⟨name, count, rfl⟩
  | noSample => exact .inl ⟨.samples, rfl⟩
  | noHost => exact .inl ⟨.hosts, rfl⟩
  | emptyOptions => exact .inl ⟨.options, rfl⟩
  | zeroOption => exact .inl ⟨.positiveOptions, rfl⟩
  | repeatedTasks => exact .inl ⟨.distinctTasks, rfl⟩
  | repeatedConcurrency => exact .inl ⟨.distinctConcurrency, rfl⟩
  | repeatedWorkload => exact .inl ⟨.distinctWorkloads, rfl⟩
  | secondsNotPositive => exact .inl ⟨.secondsPerTask, rfl⟩
  | floorNotPositive => exact .inl ⟨.populationFloor, rfl⟩
  | negativeOverhead => exact .inl ⟨.restartOverhead, rfl⟩
  | noBaseline driver => cases fault

/-- Each rule is told in words of its own. -/
theorem message_finding_injective {r r' : Rule}
    (same : r.finding.message = r'.finding.message) : r = r' := by
  cases r <;> cases r' <;> first | rfl | exact absurd same (by decide)

/-- No rule is told in words that begin like those about a name. -/
theorem head?_message_finding (r : Rule) : r.finding.message.toList.head? ≠ some 'D' := by
  cases r <;> decide

theorem head?_message_repeatedDriver (name : String) (count : Nat) :
    (repeatedDriver name count).message.toList.head? = some 'D' := by
  simp [message]

theorem toList_toString (n : Nat) : (toString n).toList = Nat.toDigits 10 n :=
  String.toList_ofList

/-- What is in front of the last blank, and what is behind it. -/
theorem append_blank_inj {front front' word word' : List Char} (free : ' ' ∉ word)
    (free' : ' ' ∉ word') (same : front ++ ' ' :: word = front' ++ ' ' :: word') :
    front = front' ∧ word = word' := by
  have reversed := congrArg List.reverse same
  simp only [List.reverse_append, List.reverse_cons, List.append_assoc, List.singleton_append]
    at reversed
  have word_eq : word.reverse = word'.reverse := by
    have words := congrArg (List.takeWhile fun c => decide (c ≠ ' ')) reversed
    have all {w : List Char} (free : ' ' ∉ w) : ∀ c ∈ w.reverse, decide (c ≠ ' ') = true := by
      intro c listed
      exact decide_eq_true fun blank => free (List.mem_reverse.1 (blank ▸ listed))
    rwa [List.takeWhile_append_of_pos (all free), List.takeWhile_append_of_pos (all free'),
      List.takeWhile_cons_of_neg (by simp), List.takeWhile_cons_of_neg (by simp),
      List.append_nil, List.append_nil] at words
  rw [word_eq] at reversed
  refine ⟨?_, List.reverse_inj.1 word_eq⟩
  exact List.reverse_inj.1 (List.cons_inj_right _ |>.1 (List.append_cancel_left reversed))

/-- What is told of a name tells the name and the number, whatever the name is. -/
theorem message_repeatedDriver_injective {name name' : String} {count count' : Nat}
    (same : (repeatedDriver name count).message = (repeatedDriver name' count').message) :
    name = name' ∧ count = count' := by
  have noBlank (n : Nat) : ' ' ∉ Nat.toDigits 10 n := fun listed =>
    absurd (Decimal.isDigit_toDigits listed) (by decide)
  have letters := congrArg String.toList same
  simp only [message, String.toList_append, toList_toString] at letters
  have counted := List.append_cancel_right letters
  have parted (n : String) : ("Driver ".toList ++ n.toList) ++ " is defined ".toList =
      ("Driver ".toList ++ n.toList ++ " is defined".toList) ++ [' '] := by simp
  rw [parted, parted, List.append_assoc, List.append_assoc _ [' ']] at counted
  obtain ⟨front, digits⟩ := append_blank_inj (noBlank count) (noBlank count') counted
  have named := List.append_cancel_left (List.append_cancel_right front)
  refine ⟨String.toList_inj.1 named, ?_⟩
  rw [← Decimal.ofDigits_toDigits count, digits, Decimal.ofDigits_toDigits]

/-- What is told of a finding tells which one it is. -/
theorem notice_injective : Function.Injective notice := by
  intro f g same
  obtain ⟨severity, message, -⟩ := Notice.mk.inj same
  cases fault : f.isFault with
  | false =>
    rw [fault] at severity
    cases f with
    | noBaseline name =>
      cases g with
      | noBaseline other => rw [message_noBaseline_injective message]
      | _ => cases severity
    | _ => cases fault
  | true =>
    have fault' : g.isFault = true := by
      by_contra none
      rw [fault, Bool.eq_false_iff.2 none] at severity
      cases severity
    obtain ⟨r, rfl⟩ | ⟨name, count, rfl⟩ := fault_cases fault
    · obtain ⟨r', rfl⟩ | ⟨name', count', rfl⟩ := fault_cases fault'
      · rw [message_finding_injective message]
      · exact absurd (message ▸ head?_message_repeatedDriver name' count')
          (head?_message_finding r)
    · obtain ⟨r', rfl⟩ | ⟨name', count', rfl⟩ := fault_cases fault'
      · exact absurd (message ▸ head?_message_repeatedDriver name count)
          (head?_message_finding r')
      · obtain ⟨rfl, rfl⟩ := message_repeatedDriver_injective message
        rfl

end Finding

/-! ## Counting -/

namespace Settings

open Finding

variable {s : Settings}

theorem count_ifFound (found : Bool) (f g : Finding) :
    (ifFound found f).count g = if found = true ∧ f = g then 1 else 0 := by
  cases found with
  | false => rfl
  | true => by_cases same : f = g <;> simp [ifFound, same]

theorem count_baselineFindings {f : Finding} (fault : f.isFault = true) :
    s.baselineFindings.count f = 0 := by
  rw [List.count_eq_zero]
  intro listed
  obtain ⟨d, -, found⟩ := List.mem_flatMap.1 listed
  rw [(mem_ifFound.1 found).2] at fault
  cases fault

theorem nodup_repeatedDrivers (s : Settings) : s.repeatedDrivers.Nodup := by
  unfold repeatedDrivers
  refine (List.mergeSort_perm _ _).nodup_iff.2 ?_
  refine ((nodup_eraseDups s.driverNames).filter _).map_on ?_
  rintro name - other - same
  exact (Finding.repeatedDriver.inj same).1

theorem count_repeatedDrivers (s : Settings) (name : String) (k : Nat) :
    s.repeatedDrivers.count (repeatedDriver name k) =
      if 1 < k ∧ s.driverNames.count name = k then 1 else 0 := by
  have listed : repeatedDriver name k ∈ s.repeatedDrivers ↔
      1 < k ∧ s.driverNames.count name = k := by
    rw [mem_repeatedDrivers]
    constructor
    · rintro ⟨other, repeated, same⟩
      obtain ⟨rfl, rfl⟩ := Finding.repeatedDriver.inj same
      exact ⟨repeated, rfl⟩
    · rintro ⟨repeated, rfl⟩
      exact ⟨name, repeated, rfl⟩
  split
  next found => exact List.count_eq_one_of_mem s.nodup_repeatedDrivers (listed.2 found)
  next none => exact List.count_eq_zero.2 fun found => none (listed.1 found)

theorem count_repeatedDrivers_finding (s : Settings) (r : Rule) :
    s.repeatedDrivers.count r.finding = 0 := by
  rw [List.count_eq_zero]
  intro listed
  obtain ⟨name, -, same⟩ := mem_repeatedDrivers.1 listed
  cases r <;> cases same

/-- A broken rule is found once, whatever the other rules say. -/
theorem count_finding (s : Settings) (r : Rule) :
    s.findings.count r.finding = if r.Holds s then 0 else 1 := by
  have fault : r.finding.isFault = true := by cases r <;> rfl
  simp only [findings, spaceFindings, calibrationFindings, List.count_append,
    count_repeatedDrivers_finding, count_baselineFindings fault, count_ifFound]
  cases r <;> simp [Rule.finding, Rule.Holds] <;> grind

/-- A name of several drivers is found once, with the number of the drivers. -/
theorem count_repeatedDriver (s : Settings) (name : String) (k : Nat) :
    s.findings.count (repeatedDriver name k) =
      if 1 < k ∧ s.driverNames.count name = k then 1 else 0 := by
  have fault : (repeatedDriver name k).isFault = true := rfl
  simp [findings, spaceFindings, calibrationFindings, count_repeatedDrivers,
    count_baselineFindings fault, count_ifFound]

theorem count_notice_finding (s : Settings) (r : Rule) :
    (s.findings.map notice).count r.finding.notice = if r.Holds s then 0 else 1 := by
  rw [List.count_map_of_injective _ _ notice_injective, count_finding]

theorem count_notice_repeatedDriver (s : Settings) (name : String) (k : Nat) :
    (s.findings.map notice).count (repeatedDriver name k).notice =
      if 1 < k ∧ s.driverNames.count name = k then 1 else 0 := by
  rw [List.count_map_of_injective _ _ notice_injective, count_repeatedDriver]

theorem severity_notice_eq_error_iff {f : Finding} :
    f.notice.severity = .error ↔ f.isFault = true := by
  unfold notice
  cases f.isFault <;> simp

/-- What is told as an error is a broken rule or a name of several drivers. -/
theorem error_cases {n : Notice} (told : n ∈ s.findings.map notice)
    (error : n.severity = .error) :
    (∃ r : Rule, n = r.finding.notice) ∨ ∃ name k, n = (repeatedDriver name k).notice := by
  obtain ⟨f, -, rfl⟩ := List.mem_map.1 told
  obtain ⟨r, rfl⟩ | ⟨name, k, rfl⟩ := fault_cases (severity_notice_eq_error_iff.1 error)
  · exact .inl ⟨r, rfl⟩
  · exact .inr ⟨name, k, rfl⟩

end Settings

end BenchCampaign
