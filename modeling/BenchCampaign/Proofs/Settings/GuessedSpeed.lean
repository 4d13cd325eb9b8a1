import BenchCampaign.Proofs.NameTable.Insertions
import BenchCampaign.Settings.Preflight

/-!
# Drivers whose speed is guessed

Two parts of the library ask whether a driver has a reference time.  The checks look for its name
in the baseline and warn where there is none; the coefficients are made of the positive times
only, and what has none counts as the fastest.  So a driver is guessed without a warning exactly
where the baseline gives it no other time than zero.

* `Settings.noBaseline_mem_findings_iff`: when the checks warn.
* `Coefficients.contains_ofBaseline_iff`: when a driver has a coefficient.
* `Settings.warned_iff_guessed`: both compared.
-/

namespace BenchCampaign

/-! ## Warnings -/

namespace Finding

/-- The warning tells which driver it is about. -/
theorem message_noBaseline_injective {name other : String}
    (same : (noBaseline name).message = (noBaseline other).message) : name = other := by
  have letters := congrArg String.toList same
  simp only [message, String.toList_append] at letters
  exact String.toList_inj.1 (List.append_cancel_left (List.append_cancel_right letters))

/-- Nothing else is told in the words of a missing baseline. -/
theorem notice_noBaseline_mem_iff {name : String} {found : List Finding} :
    (noBaseline name).notice ∈ found.map notice ↔ noBaseline name ∈ found := by
  rw [List.mem_map]
  constructor
  · rintro ⟨f, listed, same⟩
    obtain ⟨severity, message, -⟩ := Notice.mk.inj same
    cases f with
    | noBaseline other =>
      rw [← message_noBaseline_injective message]
      exact listed
    | _ => cases severity
  · exact fun listed => ⟨_, listed, rfl⟩

theorem mem_ifFound {found : Bool} {f g : Finding} :
    g ∈ ifFound found f ↔ found = true ∧ g = f := by
  cases found <;> simp [ifFound]

end Finding

namespace Settings

open Finding

/-- The checks warn of the drivers whose name the baseline has not, if it has any name. -/
theorem noBaseline_mem_findings_iff {s : Settings} {name : String} :
    noBaseline name ∈ s.findings ↔
      (∃ d ∈ s.drivers, d.name = name) ∧ s.calibration.baseline.isEmpty = false ∧
        name ∉ s.calibration.baseline.names := by
  have elsewhere : noBaseline name ∉ s.repeatedDrivers := by
    unfold repeatedDrivers
    rw [List.mem_mergeSort]
    simp
  have warned : noBaseline name ∈ s.findings ↔ noBaseline name ∈ s.baselineFindings := by
    simp [findings, spaceFindings, calibrationFindings, mem_ifFound, elsewhere]
  rw [warned, baselineFindings, List.mem_flatMap]
  simp only [mem_ifFound, Bool.and_eq_true, Bool.not_eq_true', noBaseline.injEq,
    ← Bool.not_eq_true (NameTable.contains _ _), NameTable.contains_iff]
  constructor
  · rintro ⟨d, listed, ⟨given, unnamed⟩, rfl⟩
    exact ⟨⟨d, listed, rfl⟩, given, unnamed⟩
  · rintro ⟨⟨d, listed, rfl⟩, given, unnamed⟩
    exact ⟨d, listed, ⟨given, unnamed⟩, rfl⟩

end Settings

/-! ## Guesses -/

namespace Baseline

theorem mem_references {b : Baseline} {e : String × UInt64} :
    e ∈ b.references ↔ e ∈ b.entries ∧ e.2 ≠ 0 := by
  rw [references, List.mem_filter, decide_eq_true_iff, UInt64.pos_iff_ne_zero]

theorem fastest?_eq_none_iff {b : Baseline} : b.fastest? = none ↔ b.references = [] := by
  rw [fastest?, List.min?_eq_none_iff, List.map_eq_nil_iff]

end Baseline

namespace Coefficients

variable {α : Type} [Arithmetic α]

/-- The drivers of the references have a coefficient each. -/
theorem names_ofBaseline (b : Baseline) :
    (ofBaseline b : Coefficients α).names = b.references.map Prod.fst := by
  unfold ofBaseline
  cases fastest : b.fastest? with
  | none =>
    rw [Baseline.fastest?_eq_none_iff.1 fastest]
    rfl
  | some time => exact List.map_map

/-- A driver has no coefficient exactly where the baseline gives it no other time than zero. -/
theorem contains_ofBaseline_iff {b : Baseline} {name : String} :
    (ofBaseline b : Coefficients α).contains name = false ↔
      ∀ time, (name, time) ∈ b.entries → time = 0 := by
  rw [← Bool.not_eq_true, NameTable.contains_iff, names_ofBaseline]
  constructor
  · intro unnamed time listed
    by_contra positive
    have reference := Baseline.mem_references.2 ⟨listed, positive⟩
    exact unnamed (List.mem_map_of_mem (f := Prod.fst) reference)
  · intro zero named
    obtain ⟨⟨n, time⟩, reference, rfl⟩ := List.mem_map.1 named
    obtain ⟨listed, positive⟩ := Baseline.mem_references.1 reference
    exact positive (zero time listed)

/-- Where there is no coefficient, one stands in for it, and that is reported. -/
theorem guessed_iff {c : Coefficients α} {name : String} :
    c.factor name = Arithmetic.ofNat 1 ∧ c.reports name = [⟨name⟩] ↔ c.contains name = false := by
  unfold reports
  constructor
  · rintro ⟨-, reported⟩
    by_contra known
    rw [Bool.not_eq_false] at known
    rw [if_pos known] at reported
    cases reported
  · intro unknown
    have missing : c.get? name = none :=
      Option.isNone_iff_eq_none.1 (Option.isSome_eq_false_iff.1 unknown)
    rw [factor, missing, unknown]
    exact ⟨rfl, rfl⟩

end Coefficients

/-! ## Both compared -/

namespace Settings

open Finding

/-- **The checks warn of the drivers whose speed is guessed, but for times of zero.**  Where there
is a baseline, the checks warn of a driver exactly if the baseline has not its name, and its
coefficient is guessed, which is reported, exactly if the baseline has no time other than zero for
it.  So of every driver to whom the baseline does not give a time of zero, the one is told if and
only if the other is. -/
theorem warned_iff_guessed (s : Settings) (given : s.calibration.baseline.isEmpty = false)
    {d : Driver} (listed : d ∈ s.drivers) :
    let baseline := s.calibration.baseline
    let warned := (noBaseline d.name).notice ∈ s.findings.map notice
    let guessed := s.coefficients.factor d.name = Arithmetic.ofNat 1 ∧
      s.coefficients.reports d.name = [⟨d.name⟩]
    (warned ↔ ∀ time, (d.name, time) ∉ baseline.entries) ∧
      (guessed ↔ ∀ time, (d.name, time) ∈ baseline.entries → time = 0) ∧
      ((d.name, 0) ∉ baseline.entries → (warned ↔ guessed)) := by
  intro baseline warned guessed
  have warns : warned ↔ ∀ time, (d.name, time) ∉ baseline.entries := by
    have named : d.name ∈ baseline.names ↔ ∃ time, (d.name, time) ∈ baseline.entries := by
      simp [NameTable.names]
    rw [← not_exists, ← named]
    refine notice_noBaseline_mem_iff.trans (noBaseline_mem_findings_iff.trans ?_)
    exact ⟨fun found => found.2.2, fun unnamed => ⟨⟨d, listed, rfl⟩, given, unnamed⟩⟩
  have guesses : guessed ↔ ∀ time, (d.name, time) ∈ baseline.entries → time = 0 :=
    Coefficients.guessed_iff.trans Coefficients.contains_ofBaseline_iff
  refine ⟨warns, guesses, fun noZero => warns.trans (Iff.trans ?_ guesses.symm)⟩
  constructor
  · exact fun absent time entry => absurd entry (absent time)
  · rintro zero time entry
    exact noZero (zero time entry ▸ entry)

/-- A baseline that gives a time to one driver, of two. -/
theorem warned_iff_guessed_otherDriver :
    let s : Settings :=
      { runners := "runners", samples := 1, nodes := ⟨["db"], Nodes.defaultPort⟩
        drivers := [⟨"a", none, false⟩, ⟨"b", none, false⟩]
        space := ⟨[1], [1], [.inserts], 0⟩
        calibration := { baseline := ⟨[("b", 5)]⟩ } }
    s.calibration.baseline.isEmpty = false ∧ ⟨"a", none, false⟩ ∈ s.drivers ∧
      ("a", 0) ∉ s.calibration.baseline.entries ∧
      (noBaseline "a").notice ∈ s.findings.map notice ∧
      s.coefficients.reports "a" = [⟨"a"⟩] := by
  intro s
  have given : s.calibration.baseline.isEmpty = false := rfl
  have listed : (⟨"a", none, false⟩ : Driver) ∈ s.drivers := List.mem_cons_self
  have timed : ("a", 0) ∉ s.calibration.baseline.entries := by decide
  obtain ⟨warns, -, agree⟩ := warned_iff_guessed s given listed
  have warned := warns.2 fun time => by simp [s]
  exact ⟨given, listed, timed, warned, ((agree timed).1 warned).2⟩

/-- A driver whose reference time is zero: its coefficient is guessed, and the checks do not warn
of it. -/
theorem guessed_unwarned_zeroTime :
    let s : Settings :=
      { runners := "runners", samples := 1, nodes := ⟨["db"], Nodes.defaultPort⟩
        drivers := [⟨"a", none, false⟩, ⟨"b", none, false⟩]
        space := ⟨[1], [1], [.inserts], 0⟩
        calibration := { baseline := ⟨[("a", 0), ("b", 5)]⟩ } }
    s.calibration.baseline.isEmpty = false ∧ ⟨"a", none, false⟩ ∈ s.drivers ∧
      (noBaseline "a").notice ∉ s.findings.map notice ∧
      s.coefficients.factor "a" = Arithmetic.ofNat 1 ∧ s.coefficients.reports "a" = [⟨"a"⟩] := by
  intro s
  have unwarned : (noBaseline "a").notice ∉ s.findings.map notice := fun warned =>
    (noBaseline_mem_findings_iff.1 (notice_noBaseline_mem_iff.1 warned)).2.2 List.mem_cons_self
  exact ⟨rfl, List.mem_cons_self, unwarned, Coefficients.guessed_iff.2 rfl⟩

end Settings

end BenchCampaign
