import BenchCampaign.Proofs.Host.RunnerLaunch
import BenchCampaign.Proofs.Settings.Findings

/-!
# The checks, and what they tell

Settings are flawed exactly where the checks tell an error, and the runners of settings will do
exactly where their check tells nothing.  Both checks go on behind what they find: so every broken
rule, every name of several drivers and every driver whose runner will not do is told, once, and
nothing else is told as an error.

* `Host.LeadsToExecutable`: what a runner has to be.
* `Settings.isFlawed_iff_error`, `Settings.isFlawed_iff_broken`: flawed settings.
* `Settings.runnerFindings_eq`, `Settings.checkRunners_eq_error_iff`: drivers whose runner will
  not do.
* `Settings.checks_tell_every_problem`: both checks together.
-/

namespace BenchCampaign

/-! ## Executable files -/

/-- The bits of the owner, of the group and of others that allow to execute a file. -/
def RegularFile.executeBits : List Nat := [6, 3, 0]

namespace RegularFile

theorem testBit_execute (k : Nat) : (0o111 : Nat).testBit k = true ↔ k ∈ executeBits := by
  by_cases small : k < 7
  · have all : ∀ k < 7, (0o111 : Nat).testBit k = true ↔ k ∈ executeBits := by decide
    exact all k small
  · have none : (0o111 : Nat).testBit k = false :=
      Nat.testBit_lt_two_pow
        (Nat.lt_of_lt_of_le (by decide) (Nat.pow_le_pow_right Nat.two_pos (Nat.not_lt.1 small)))
    have low : ∀ b ∈ executeBits, b < 7 := by decide
    have above : k ∉ executeBits := fun listed => small (low k listed)
    exact iff_of_false (Bool.eq_false_iff.1 none) above

theorem isExecutable_iff {f : RegularFile} :
    f.isExecutable = true ↔ ∃ k ∈ executeBits, f.mode.testBit k = true := by
  have some : f.mode &&& 0o111 ≠ 0 ↔ ∃ k, (f.mode &&& 0o111).testBit k = true := by
    constructor
    · exact Nat.exists_testBit_of_ne_zero
    · rintro ⟨k, set⟩ zero
      rw [zero, Nat.zero_testBit] at set
      cases set
  rw [isExecutable, bne_iff_ne, some]
  refine exists_congr fun k => ?_
  rw [Nat.testBit_and, Bool.and_eq_true, testBit_execute, and_comm]

end RegularFile

namespace Host

/-- A path leads to a regular file that its owner, its group or others may execute. -/
def LeadsToExecutable (h : Host) (path : String) : Prop :=
  ∃ l f, h.resolve path = .ok l ∧ h.tree.entry? l = some (.file f) ∧
    ∃ k ∈ RegularFile.executeBits, f.mode.testBit k = true

theorem leadsToExecutable_iff {h : Host} {path : String} :
    h.LeadsToExecutable path ↔ ∃ f, h.file? path = some f ∧ f.isExecutable = true := by
  simp only [LeadsToExecutable, file?_eq_some_iff, RegularFile.isExecutable_iff]
  constructor
  · rintro ⟨l, f, leads, lies, executable⟩
    exact ⟨f, ⟨l, leads, lies⟩, executable⟩
  · rintro ⟨f, ⟨l, leads, lies⟩, executable⟩
    exact ⟨l, f, leads, lies, executable⟩

instance (h : Host) (path : String) : Decidable (h.LeadsToExecutable path) :=
  decidable_of_iff ((h.file? path).any RegularFile.isExecutable = true)
    (by rw [leadsToExecutable_iff, Option.any_eq_true])

end Host

namespace Settings

open Finding

variable {s : Settings} {h : Host}

/-! ## The rules -/

/-- Settings are flawed where something is told as an error. -/
theorem isFlawed_iff_error :
    s.isFlawed = true ↔ ∃ n ∈ s.findings.map notice, n.severity = .error := by
  simp only [isFlawed, List.any_eq_true, List.mem_map, exists_exists_and_eq_and,
    severity_notice_eq_error_iff]

/-- Settings are flawed where a rule is broken or a name is given to several drivers. -/
theorem isFlawed_iff_broken :
    s.isFlawed = true ↔
      (∃ r, ¬ Rule.Holds s r) ∨ ∃ name, 1 < s.driverNames.count name := by
  rw [← Bool.not_eq_false, isFlawed_eq_false_iff, sound_iff, not_and_or, not_forall,
    List.nodup_iff_count_le_one, not_forall]
  simp only [Nat.not_le]

/-- Options that span no space are a flaw. -/
theorem isFlawed_of_spaceOf_eq_error {fault : SpaceFault} (failed : s.spaceOf = .error fault) :
    s.isFlawed = true := by
  by_contra unflawed
  rw [Bool.not_eq_true, isFlawed_eq_false_iff] at unflawed
  rw [unflawed.spaceOf_eq] at failed
  cases failed

/-! ## The runners -/

/-- What is found where the runner of a driver will not do. -/
def runnerFindingOf (s : Settings) (h : Host) (d : Driver) : RunnerFinding :=
  ⟨d.name, s.runnerOf d, (h.file? (s.runnerOf d)).isSome⟩

theorem runnerFinding?_eq (s : Settings) (h : Host) (d : Driver) :
    s.runnerFinding? h d =
      if h.LeadsToExecutable (s.runnerOf d) then none else some (s.runnerFindingOf h d) := by
  rw [if_congr Host.leadsToExecutable_iff rfl rfl, runnerFinding?, runnerFindingOf]
  cases h.file? (s.runnerOf d) with
  | none => simp
  | some f => cases f.isExecutable <;> simp

/-- The drivers whose runner will not do, in the order of the settings. -/
def offenders (s : Settings) (h : Host) : List Driver :=
  s.drivers.filter fun d => ¬ h.LeadsToExecutable (s.runnerOf d)

/-- Each driver whose runner will not do is found, and no other. -/
theorem runnerFindings_eq (s : Settings) (h : Host) :
    s.runnerFindings h = (s.offenders h).map (s.runnerFindingOf h) := by
  unfold runnerFindings offenders
  induction s.drivers with
  | nil => rfl
  | cons d drivers ih =>
    rw [List.filterMap_cons, runnerFinding?_eq, ih, List.filter_cons]
    by_cases will : h.LeadsToExecutable (s.runnerOf d) <;> simp [will]

/-- The check names the first driver whose runner will not do. -/
theorem checkRunners_eq (s : Settings) (h : Host) :
    s.checkRunners h = match (s.offenders h).head? with
      | none => .ok ()
      | some d => .error d.name := by
  rw [checkRunners, runnerFindings_eq]
  cases s.offenders h <;> rfl

theorem checkRunners_eq_ok_iff_forall :
    s.checkRunners h = .ok () ↔ ∀ d ∈ s.drivers, h.LeadsToExecutable (s.runnerOf d) := by
  simp only [checkRunners_eq_ok_iff, Host.leadsToExecutable_iff]

theorem checkRunners_eq_error_iff {name : String} :
    s.checkRunners h = .error name ↔
      ∃ before d behind, s.drivers = before ++ d :: behind ∧ d.name = name ∧
        ¬ h.LeadsToExecutable (s.runnerOf d) ∧
        ∀ e ∈ before, h.LeadsToExecutable (s.runnerOf e) := by
  have first (d : Driver) : (s.offenders h).head? = some d ↔
      ¬ h.LeadsToExecutable (s.runnerOf d) ∧
        ∃ before behind, s.drivers = before ++ d :: behind ∧
          ∀ e ∈ before, h.LeadsToExecutable (s.runnerOf e) := by
    rw [offenders, List.head?_filter, List.find?_eq_some_iff_append]
    simp
  have named : s.checkRunners h = .error name ↔
      ∃ d, (s.offenders h).head? = some d ∧ d.name = name := by
    rw [checkRunners_eq]
    cases (s.offenders h).head? <;> simp
  rw [named]
  constructor
  · rintro ⟨d, found, rfl⟩
    obtain ⟨fails, before, behind, listed, good⟩ := (first d).1 found
    exact ⟨before, d, behind, listed, rfl, fails, good⟩
  · rintro ⟨before, d, behind, listed, rfl, fails, good⟩
    exact ⟨d, (first d).2 ⟨fails, before, behind, listed, good⟩, rfl⟩

/-- **The checks tell every problem, and only problems.**  Settings are flawed exactly where an
error is told: one for each broken rule, whatever the other rules say, and one with the number for
each name of several drivers.  Options that span no space are always among what is told.  The
runners of all drivers are looked at, and one error is told for each that is not an executable
file, in the order of the drivers; the check fails with the first of them. -/
theorem checks_tell_every_problem :
    (∀ s : Settings,
      let told := s.findings.map notice
      (s.isFlawed = true ↔ ∃ n ∈ told, n.severity = .error) ∧
      (s.isFlawed = true ↔ (∃ r, ¬ Rule.Holds s r) ∨ ∃ name, 1 < s.driverNames.count name) ∧
      (∀ r, told.count r.finding.notice = if Rule.Holds s r then 0 else 1) ∧
      (∀ name k, told.count (repeatedDriver name k).notice =
        if 1 < k ∧ s.driverNames.count name = k then 1 else 0) ∧
      (∀ n ∈ told, n.severity = .error →
        (∃ r : Rule, n = r.finding.notice) ∨ ∃ name k, n = (repeatedDriver name k).notice) ∧
      ∀ fault, s.spaceOf = .error fault → s.isFlawed = true) ∧
    ∀ (s : Settings) (h : Host),
      (s.checkRunners h = .ok () ↔
        ∀ d ∈ s.drivers, h.LeadsToExecutable (s.runnerOf d)) ∧
      (s.runnerFindings h).map RunnerFinding.notice =
        (s.drivers.filter fun d => ¬ h.LeadsToExecutable (s.runnerOf d)).map
          (fun d => (s.runnerFindingOf h d).notice) ∧
      (∀ n ∈ (s.runnerFindings h).map RunnerFinding.notice, n.severity = .error) ∧
      ∀ name, s.checkRunners h = .error name ↔
        ∃ before d behind, s.drivers = before ++ d :: behind ∧ d.name = name ∧
          ¬ h.LeadsToExecutable (s.runnerOf d) ∧
          ∀ e ∈ before, h.LeadsToExecutable (s.runnerOf e) := by
  constructor
  · intro s told
    exact ⟨isFlawed_iff_error, isFlawed_iff_broken, s.count_notice_finding,
      s.count_notice_repeatedDriver, fun n => error_cases,
      fun fault => isFlawed_of_spaceOf_eq_error⟩
  · intro s h
    refine ⟨checkRunners_eq_ok_iff_forall, ?_, ?_, fun name => checkRunners_eq_error_iff⟩
    · rw [runnerFindings_eq, List.map_map]
      rfl
    · intro n told
      obtain ⟨f, -, rfl⟩ := List.mem_map.1 told
      rfl

/-- A host with a runner, and settings without samples and without task counts, where of three
drivers two have one name, and two a runner that is none. -/
theorem checks_tell_severalProblems :
    let s : Settings :=
      { runners := "", samples := 0, nodes := ⟨["db"], Nodes.defaultPort⟩
        drivers := [⟨"a", some "./run.sh", false⟩, ⟨"b", some "/work", false⟩,
          ⟨"a", some "./gone.sh", false⟩]
        space := ⟨[], [1], [.inserts], 1⟩
        calibration := {} }
    let told := s.findings.map notice
    s.isFlawed = true ∧ told.count (repeatedDriver "a" 2).notice = 1 ∧
      told.count noSample.notice = 1 ∧ told.count emptyOptions.notice = 1 ∧
      told.count noHost.notice = 0 ∧
      s.checkRunners Host.besideRunner = .error "b" ∧
      (s.runnerFindings Host.besideRunner).map RunnerFinding.notice =
        [RunnerFinding.notice ⟨"b", "/work", false⟩,
          RunnerFinding.notice ⟨"a", "./gone.sh", false⟩] := by
  intro s told
  obtain ⟨checks, runners⟩ := checks_tell_every_problem
  obtain ⟨-, -, rules, names, -, spanless⟩ := checks s
  obtain ⟨-, findings, -, failed⟩ := runners s Host.besideRunner
  refine ⟨spanless .emptyOptions rfl, ?_, ?_, ?_, ?_, ?_, ?_⟩
  · exact (names "a" 2).trans (if_pos (by decide))
  · exact (rules .samples).trans (if_neg (by decide +kernel))
  · exact (rules .options).trans (if_neg (by decide +kernel))
  · exact (rules .hosts).trans (if_pos (by decide +kernel))
  · refine (failed "b").2 ⟨[⟨"a", some "./run.sh", false⟩], ⟨"b", some "/work", false⟩,
      [⟨"a", some "./gone.sh", false⟩], rfl, rfl, by decide +kernel, ?_⟩
    exact List.forall_mem_singleton.2 (by decide +kernel)
  · rw [findings]
    decide +kernel

end Settings

end BenchCampaign
