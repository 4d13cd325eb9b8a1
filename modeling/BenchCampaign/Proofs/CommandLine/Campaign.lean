import BenchCampaign.CommandLine.Campaign
import BenchCampaign.Proofs.Dispatch.Stream
import BenchCampaign.Proofs.Settings.Soundness

/-!
# Checks before a campaign

A command about a campaign passes every check that stands in front of it, or it is given up with
nothing written and nothing launched.  Behind the checks nothing can fail any more but the runs,
and these do not change how the command ends.

* `CampaignCommand.Admitted`: what the checks let through.
* `CampaignCommand.Succeeds`, `CampaignCommand.GivenUp`: the two ends of a command.
* `CampaignCommand.admitted_succeeds_refused_givenUp`: which command comes to which end, and what
  it has done then.
-/

namespace BenchCampaign

namespace CommandLine

namespace CampaignCommand

/-! ## Command lines -/

section Arguments

variable {path : String}

theorem readFrom_config (o : Options)
    (declared : o.opening "-c" = .option (pathOption "config" 'c') none) (named : path ≠ "")
    (can : Options.canBeValue path = true) (rest : List String) :
    o.readFrom ("-c" :: path :: rest) [] = o.readFrom rest [("config", path)] := by
  have accepted : Options.add [] (pathOption "config" 'c') path = .ok [("config", path)] := by
    simp [Options.add, pathOption, isPath, named]
  rw [Options.readFrom, declared]
  simp only [pathOption] at accepted ⊢
  rw [if_pos can, accepted]
  rfl

theorem ofArguments_run (named : path ≠ "") (can : Options.canBeValue path = true) :
    ofArguments ["run", "-c", path] = .ok (.run path false) := by
  have given := readFrom_config runOptions rfl named can []
  show (runOptions.readFrom _ []).bind _ = _
  rw [given]
  rfl

theorem ofArguments_rehearse (named : path ≠ "") (can : Options.canBeValue path = true) :
    ofArguments ["run", "-c", path, "--dry-run"] = .ok (.run path true) := by
  have given := readFrom_config runOptions rfl named can ["--dry-run"]
  show (runOptions.readFrom _ []).bind _ = _
  rw [given]
  rfl

theorem ofArguments_estimate (named : path ≠ "") (can : Options.canBeValue path = true) :
    ofArguments ["estimate", "-c", path] = .ok (.estimate path) := by
  have given := readFrom_config estimateOptions rfl named can []
  show (estimateOptions.readFrom _ []).bind _ = _
  rw [given]
  rfl

end Arguments

/-! ## What the checks let through -/

/-- What the checks in front of a campaign let through: settings that are read and have no
fault, and runners that can be executed, unless none is to be launched. -/
structure Admitted (h : Host) (path : String) (rehearses : Bool) (s : Settings) : Prop where
  loaded : Settings.load h path = .ok s
  unflawed : s.isFlawed = false
  runners : rehearses = false → s.checkRunners h = .ok ()

section Checks

variable {h : Host} {path : String} {s : Settings}

theorem load_of_unflawed (loaded : Settings.load h path = .ok s)
    (unflawed : s.isFlawed = false) :
    load h path = (s.findings.map Finding.notice, .ok s) := by
  simp [load, loaded, unflawed]

theorem load_of_flawed (loaded : Settings.load h path = .ok s) (flawed : s.isFlawed = true) :
    load h path = (s.findings.map Finding.notice, .error .flawed) := by
  simp [load, loaded, flawed]

theorem load_of_fault {fault : SettingsFault} (refused : Settings.load h path = .error fault) :
    load h path = ([], .error fault) := by
  simp [load, refused]

/-- Settings pass the checks, or the command ends with a fault. -/
theorem load_cases (h : Host) (path : String) :
    (∃ s, Settings.load h path = .ok s ∧ s.isFlawed = false) ∨
      ∃ notices fault, load h path = (notices, .error fault) := by
  cases loaded : Settings.load h path with
  | error fault => exact Or.inr ⟨_, _, load_of_fault loaded⟩
  | ok s =>
    cases flaw : s.isFlawed with
    | false => exact Or.inl ⟨s, rfl, flaw⟩
    | true => exact Or.inr ⟨_, _, load_of_flawed loaded flaw⟩

/-- Settings that passed the checks span a space. -/
theorem planOf_eq (unflawed : s.isFlawed = false) : planOf s = .ok (s.planOf s.optionSpace) := by
  have spans := (s.isFlawed_eq_false_iff.1 unflawed).spaceOf_eq
  simp [planOf, Settings.checkedSpace, spans, Except.map]

end Checks

/-! ## The ends of a command -/

section Ends

variable {σ : Type}

/-- What it is for a command to end well, with this output and after these launches. -/
structure Succeeds (output : List UInt8) (launches : List Launch) (c : Completion σ) : Prop where
  code : c.code = successCode
  output : c.output = output
  launches : c.launches = launches

/-- What it is for a command to be given up before anything was touched. -/
structure GivenUp (state : σ) (c : Completion σ) : Prop where
  code : c.code = failureCode
  output : c.output = []
  launches : c.launches = []
  state : c.state = state

theorem givenUp_failed (notices : List Notice) (fault : SettingsFault) (state : σ) :
    GivenUp state (failed notices fault state) := ⟨rfl, rfl, rfl, rfl⟩

/-- Where the sink took everything the command ends well, however many runs failed. -/
theorem succeeds_ofProgress {stream : List UInt8} {launches : List Launch} {p : Progress σ}
    (completes : Dispatch.Completes stream launches p) (notices : List Notice) :
    Succeeds stream launches (ofProgress notices p) ∧ (ofProgress notices p).state = p.state := by
  have whole := completes.isBroken
  unfold ofProgress
  rw [if_neg (Bool.eq_false_iff.mp whole)]
  exact ⟨⟨rfl, completes.written, completes.launches⟩, rfl⟩

theorem succeeds_dispatch (launcher : Launcher σ) (s : Settings) (plan : Plan)
    (notices : List Notice) (state : σ) :
    Succeeds
      (List.zipWith Dispatch.block plan.runs
        (Dispatch.outcomes s launcher plan.runs state)).flatten
      (plan.runs.map (Dispatch.launchOf s)) (dispatch launcher s false plan notices state) :=
  (succeeds_ofProgress (Dispatch.completes_perform s plan launcher state) _).1

theorem succeeds_dispatch_rehearsed (launcher : Launcher σ) (s : Settings) (plan : Plan)
    (notices : List Notice) (state : σ) :
    Succeeds (plan.runs.flatMap Dispatch.tagBytes) [] (dispatch launcher s true plan notices state) ∧
      (dispatch launcher s true plan notices state).state = state := by
  obtain ⟨succeeds, same⟩ := succeeds_ofProgress (Dispatch.completes_rehearse plan state)
    (notices ++ [⟨.info, "Planned " ++ toString plan.len.toNat ++ " runs", none⟩])
  exact ⟨succeeds, same.trans (Dispatch.launches_rehearse plan ⟨none⟩ state).2⟩

end Ends

/-! ## Commands -/

section Commands

variable {σ : Type} (launcher : Launcher σ) (state : σ) {h : Host} {path : String}
  {rehearses : Bool} {s : Settings}

/-- Behind the checks a campaign is dispatched. -/
theorem runCampaign_of_admitted (admitted : Admitted h path rehearses s) :
    ∃ notices, runCampaign launcher h path rehearses state =
      dispatch launcher s rehearses (s.planOf s.optionSpace) notices state := by
  have checked : (if rehearses then .ok () else s.checkRunners h) = Except.ok () := by
    cases rehearses with
    | false => exact admitted.runners rfl
    | true => rfl
  unfold runCampaign
  rw [load_of_unflawed admitted.loaded admitted.unflawed]
  simp only [checked, planOf_eq admitted.unflawed]
  exact ⟨_, rfl⟩

/-- A campaign that the checks do not let through is given up. -/
theorem givenUp_runCampaign (refused : ∀ s, ¬ Admitted h path rehearses s) :
    GivenUp state (runCampaign launcher h path rehearses state) := by
  unfold runCampaign
  rcases load_cases h path with ⟨s, loaded, unflawed⟩ | ⟨notices, fault, eq⟩
  · rw [load_of_unflawed loaded unflawed]
    cases checked : (if rehearses then .ok () else s.checkRunners h) with
    | error driver =>
      simp only [checked]
      exact givenUp_failed ..
    | ok =>
      refine absurd ⟨loaded, unflawed, fun launches => ?_⟩ (refused s)
      rwa [launches] at checked
  · rw [eq]
    exact givenUp_failed ..

/-- A rehearsal looks at nothing of a host but the settings. -/
theorem runCampaign_rehearsed {other : Host}
    (same : Settings.load other path = Settings.load h path) :
    runCampaign launcher other path true state = runCampaign launcher h path true state := by
  unfold runCampaign load
  rw [same]
  rfl

/-- A rehearsal launches nothing, whether it comes to its end or not. -/
theorem launches_runCampaign_rehearsed (h : Host) (path : String) :
    (runCampaign launcher h path true state).launches = [] ∧
      (runCampaign launcher h path true state).state = state := by
  by_cases admitted : ∃ s, Admitted h path true s
  · obtain ⟨s, admitted⟩ := admitted
    obtain ⟨notices, eq⟩ := runCampaign_of_admitted launcher state admitted
    obtain ⟨succeeds, same⟩ :=
      succeeds_dispatch_rehearsed launcher s (s.planOf s.optionSpace) notices state
    rw [eq]
    exact ⟨succeeds.launches, same⟩
  · have refused := givenUp_runCampaign launcher state (not_exists.mp admitted)
    exact ⟨refused.launches, refused.state⟩

/-- An estimate launches nothing; behind the checks it ends well. -/
theorem estimateCampaign_of_unflawed (loaded : Settings.load h path = .ok s)
    (unflawed : s.isFlawed = false) :
    (estimateCampaign h path state).code = successCode ∧
      (estimateCampaign h path state).launches = [] ∧
      (estimateCampaign h path state).state = state := by
  unfold estimateCampaign
  rw [load_of_unflawed loaded unflawed]
  dsimp only
  rw [planOf_eq unflawed]
  exact ⟨rfl, rfl, rfl⟩

theorem givenUp_estimateCampaign
    (refused : ∀ s, ¬ (Settings.load h path = .ok s ∧ s.isFlawed = false)) :
    GivenUp state (estimateCampaign h path state) := by
  unfold estimateCampaign
  rcases load_cases h path with ⟨s, passes⟩ | ⟨notices, fault, eq⟩
  · exact absurd passes (refused s)
  · rw [eq]
    exact givenUp_failed ..

end Commands

/-- **Nothing is touched before every check has passed.**  A campaign whose settings are read,
have no fault and name runners that can be executed ends well, however many of its runs fail; it
has then launched every run of its plan once, cheapest configurations first, and written the tag
block of each in front of what the run wrote.  Any other campaign is given up with nothing
written and nothing launched.  A rehearsal writes the tag blocks alone, never launches anything,
and asks nothing of the runners; nor does an estimate, which ends well exactly for settings that
are read and have no fault. -/
theorem admitted_succeeds_refused_givenUp {σ : Type} (launcher : Launcher σ) (h : Host)
    (state : σ) :
    let tag := fun run : Run => Text.utf8 ('\n' :: (Tag.ofRun run).line ++ ['\n'])
    (∀ path, path ≠ "" → Options.canBeValue path = true →
      ofArguments ["run", "-c", path] = .ok (.run path false) ∧
      ofArguments ["run", "-c", path, "--dry-run"] = .ok (.run path true) ∧
      ofArguments ["estimate", "-c", path] = .ok (.estimate path)) ∧
    (∀ arguments path rehearses, ofArguments arguments = .ok (.run path rehearses) →
      let c := performArguments launcher h arguments state
      (∀ s, Admitted h path rehearses s →
        ∃ space, s.spaceOf = .ok space ∧
          let plan := s.planOf space
          plan.configurations.Perm space.configurations ∧
          plan.configurations.Pairwise (fun c d =>
            Binary64.precedes (s.estimator.estimate c) (s.estimator.estimate d) = true) ∧
          if rehearses then Succeeds (plan.runs.flatMap tag) [] c
          else Succeeds
            (List.zipWith (fun run outcome => tag run ++ outcome.output) plan.runs
              (Dispatch.outcomes s launcher plan.runs state)).flatten
            (plan.runs.map (Dispatch.launchOf s)) c) ∧
      ((∀ s, ¬ Admitted h path rehearses s) → GivenUp state c) ∧
      (rehearses = true → c.launches = [] ∧ c.state = state ∧
        ∀ other, Settings.load other path = Settings.load h path →
          performArguments launcher other arguments state = c)) ∧
    ∀ arguments path, ofArguments arguments = .ok (.estimate path) →
      let c := performArguments launcher h arguments state
      c.launches = [] ∧ c.state = state ∧
        (c.code = successCode ↔ ∃ s, Settings.load h path = .ok s ∧ s.isFlawed = false) := by
  intro tag
  refine ⟨fun path named can => ⟨ofArguments_run named can, ofArguments_rehearse named can,
    ofArguments_estimate named can⟩, ?_, ?_⟩
  · intro arguments path rehearses asked c
    have carried (other : Host) : performArguments launcher other arguments state =
        runCampaign launcher other path rehearses state := by
      rw [performArguments, asked]
      rfl
    simp only [c, carried]
    refine ⟨fun s admitted => ?_, givenUp_runCampaign launcher state, fun rehearsed => ?_⟩
    · have spans := (s.isFlawed_eq_false_iff.1 admitted.unflawed).spaceOf_eq
      obtain ⟨notices, eq⟩ := runCampaign_of_admitted launcher state admitted
      refine ⟨s.optionSpace, spans, s.planOf_configurations_perm _,
        s.pairwise_planOf_configurations _, ?_⟩
      rw [eq]
      cases rehearses with
      | false => exact succeeds_dispatch launcher s _ notices state
      | true => exact (succeeds_dispatch_rehearsed launcher s _ notices state).1
    · subst rehearsed
      have idle := launches_runCampaign_rehearsed launcher state h path
      exact ⟨idle.1, idle.2, fun other same => runCampaign_rehearsed launcher state same⟩
  · intro arguments path asked c
    have carried : c = estimateCampaign h path state := by
      show performArguments launcher h arguments state = _
      rw [performArguments, asked]
      rfl
    rw [carried]
    by_cases passes : ∃ s, Settings.load h path = .ok s ∧ s.isFlawed = false
    · obtain ⟨s, loaded, unflawed⟩ := passes
      obtain ⟨code, none, same⟩ := estimateCampaign_of_unflawed state loaded unflawed
      exact ⟨none, same, fun _ => ⟨s, loaded, unflawed⟩, fun _ => code⟩
    · have refused := givenUp_estimateCampaign state (not_exists.mp passes)
      refine ⟨refused.launches, refused.state, fun code => ?_, fun passed => absurd passed passes⟩
      exact absurd (refused.code.symm.trans code) (by decide)

end CampaignCommand

end CommandLine

/-- A host with settings for two drivers, and a runner for each. -/
def Host.withCampaign : Host :=
  { tree := ⟨[(["bench.yaml"], .file ⟨0o644, .bytes (Text.utf8
      ("runners: /\nnodes:\n  hosts: [db]\ndrivers:\n- name: a\n- name: b\n" ++
        "space:\n  tasks: [9]\n  concurrency: [8]\n  workloads: [mixed]\n").toList)⟩),
      (["a"], .directory), (["a", "run.sh"], .file ⟨0o755, .bytes []⟩),
      (["b"], .directory), (["b", "run.sh"], .file ⟨0o755, .bytes []⟩)]⟩
    directory := []
    searchPath := [] }

namespace CommandLine

namespace CampaignCommand

theorem passes_withCampaign :
    (match Settings.load Host.withCampaign "bench.yaml" with
      | .ok s => !s.isFlawed && (s.runnerFindings Host.withCampaign).isEmpty &&
          (s.planOf s.optionSpace).runs.length == 6
      | .error _ => false) = true := by decide +kernel

theorem exists_admitted_withCampaign :
    ∃ s, Admitted Host.withCampaign "bench.yaml" false s ∧
      (s.planOf s.optionSpace).runs.length = 6 := by
  have passes := passes_withCampaign
  cases loaded : Settings.load Host.withCampaign "bench.yaml" with
  | error fault =>
    rw [loaded] at passes
    cases passes
  | ok s =>
    rw [loaded] at passes
    simp only [Bool.and_eq_true, Bool.not_eq_true', List.isEmpty_iff, beq_iff_eq] at passes
    obtain ⟨⟨unflawed, runners⟩, six⟩ := passes
    refine ⟨s, ⟨loaded, unflawed, fun _ => ?_⟩, six⟩
    unfold Settings.checkRunners
    rw [runners]

theorem not_admitted_withCampaign (rehearses : Bool) (s : Settings) :
    ¬ Admitted Host.withCampaign "other.yaml" rehearses s := by
  intro admitted
  have absent : (Settings.load Host.withCampaign "other.yaml").toOption.isNone = true := by
    decide +kernel
  rw [admitted.loaded] at absent
  cases absent

/-- Six runs that all fail, their rehearsal, their estimate, and settings that are not there. -/
theorem succeeds_withCampaign :
    let launcher : Launcher Nat := fun n _ => (.finished [] (.exited 1), n + 1)
    let perform := fun arguments => performArguments launcher Host.withCampaign arguments 0
    (∃ s, Admitted Host.withCampaign "bench.yaml" false s ∧
      Settings.load Host.withCampaign "bench.yaml" = .ok s ∧ s.isFlawed = false) ∧
      (perform ["run", "-c", "bench.yaml"]).code = successCode ∧
      (perform ["run", "-c", "bench.yaml"]).launches.length = 6 ∧
      (perform ["run", "-c", "bench.yaml", "--dry-run"]).launches = [] ∧
      (perform ["estimate", "-c", "bench.yaml"]).code = successCode ∧
      (∀ s, ¬ Admitted Host.withCampaign "other.yaml" false s) ∧
      GivenUp 0 (perform ["run", "-c", "other.yaml"]) := by
  intro launcher perform
  obtain ⟨s, admitted, six⟩ := exists_admitted_withCampaign
  obtain ⟨lines, runs, estimates⟩ :=
    admitted_succeeds_refused_givenUp launcher Host.withCampaign 0
  obtain ⟨run, rehearse, estimate⟩ := lines "bench.yaml" (by decide) (by decide)
  obtain ⟨other, -, -⟩ := lines "other.yaml" (by decide) (by decide)
  obtain ⟨space, spans, -, -, succeeds⟩ := (runs _ _ _ run).1 s admitted
  have same : s.optionSpace = space :=
    Except.ok.inj ((s.isFlawed_eq_false_iff.1 admitted.unflawed).spaceOf_eq.symm.trans spans)
  subst same
  refine ⟨⟨s, admitted, admitted.loaded, admitted.unflawed⟩, succeeds.code, ?_,
    ((runs _ _ _ rehearse).2.2 rfl).1,
    (estimates _ _ estimate).2.2.2 ⟨s, admitted.loaded, admitted.unflawed⟩,
    not_admitted_withCampaign false,
    (runs _ _ _ other).2.1 (not_admitted_withCampaign false)⟩
  rw [succeeds.launches, List.length_map]
  exact six

end CampaignCommand

end CommandLine

end BenchCampaign
