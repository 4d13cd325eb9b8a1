import BenchCampaign.Host.RunnerCheck
import BenchCampaign.Proofs.Host.Launches
import BenchCampaign.Proofs.Settings.Soundness

/-!
# Checked runners and launched runners

The check of the runners follows each runner's path from the directory that one
works in.  A launch does so only where the path has a slash; a path without one
is a name, which is searched for in the directories of the search path.  So the
check speaks for the launches of a runner exactly as far as its path has a slash.

* `Settings.search_checkedRunner`: a launch by a path with a slash executes the
  file that was checked, whatever happened but to the files; one by a name
  executes what the search path holds.
* `Settings.launch_searchedRunner`: a runner that was checked and is not found.
-/

namespace BenchCampaign

namespace Settings

/-- Runners will do where each of them is a file that somebody may execute. -/
theorem checkRunners_eq_ok_iff {s : Settings} {h : Host} :
    s.checkRunners h = .ok () ↔
      ∀ d ∈ s.drivers, ∃ f, h.file? (s.runnerOf d) = some f ∧ f.isExecutable = true := by
  have single (d : Driver) : s.runnerFinding? h d = none ↔
      ∃ f, h.file? (s.runnerOf d) = some f ∧ f.isExecutable = true := by
    unfold runnerFinding?
    dsimp only
    cases h.file? (s.runnerOf d) with
    | none => simp
    | some f => cases f.isExecutable <;> simp
  have empty : s.checkRunners h = .ok () ↔ s.runnerFindings h = [] := by
    unfold checkRunners
    cases s.runnerFindings h <;> simp
  rw [empty, runnerFindings, List.filterMap_eq_nil_iff]
  exact forall₂_congr fun d _ => single d

/-- The runner of a run whose settings were checked leads to a file that somebody may execute.
By a path with a slash this file is what a launch executes, on any host with the same files and
directory: only words that no launch takes, or what the file holds, can keep it from starting.
What a launch by a name starts comes from the search path. -/
theorem search_checkedRunner (s : Settings) (h : Host) (checked : s.checkRunners h = .ok ())
    (space : Space) (r : Run) (planned : r ∈ (s.planOf space).runs) :
    let launch := Dispatch.launchOf s r
    ∃ l f, h.resolve launch.program = .ok l ∧ h.tree.entry? l = some (.file f) ∧
      f.isExecutable = true ∧
      ∀ h' : Host, h'.tree = h.tree → h'.directory = h.directory →
        ('/' ∈ launch.program.toList →
          h'.search launch.program launch.arguments =
            match Host.wordFault? (launch.program :: launch.arguments) with
            | some fault => .error fault
            | none => h'.executeContent (Host.maxInterpreters - 1) launch.program
                launch.arguments f.content) ∧
        ('/' ∉ launch.program.toList → ∀ i,
          h'.search launch.program launch.arguments = .ok i →
            ∃ d ∈ h'.searchPath,
              h'.execute (Host.inDirectory d launch.program) launch.arguments = .ok i) := by
  intro launch
  have driver : r.driver ∈ s.drivers := Plan.driver_mem_of_mem_runs planned
  obtain ⟨f, found, executable⟩ := checkRunners_eq_ok_iff.1 checked r.driver driver
  obtain ⟨l, leads, holds⟩ := Host.file?_eq_some_iff.1 found
  refine ⟨l, f, leads, holds, executable, ?_⟩
  intro h' tree directory
  constructor
  · intro slash
    exact Host.search_of_file slash ((Host.resolve_congr tree directory).trans leads)
      (tree ▸ holds) executable launch.arguments
  · intro noSlash i started
    exact Host.search_eq_ok noSlash started

/-- Settings of one driver, which is run by the program `exec`. -/
def runBy (exec : String) : Settings :=
  { runners := "runners", samples := 1, nodes := ⟨["db"], Nodes.defaultPort⟩
    drivers := [⟨"a", some exec, false⟩]
    space := ⟨[1], [1], [.inserts], 1⟩
    calibration := {} }

/-- The only run of `runBy exec`. -/
def runOf (exec : String) : Run := ⟨⟨1, 1, .inserts⟩, ⟨"a", some exec, false⟩, 0⟩

theorem runOf_mem_runs (exec : String) :
    runOf exec ∈ ((runBy exec).planOf ⟨[1], [1], [.inserts], 1⟩).runs := by
  rw [Plan.mem_runs_iff]
  refine ⟨⟨1, 1, .inserts⟩, ?_, ⟨"a", some exec, false⟩, List.mem_singleton_self _, ?_⟩
  · exact ((runBy exec).planOf_configurations_perm _).symm.subset (by decide)
  · exact List.mem_singleton_self _

end Settings

/-- A host where one works in a directory with a runner `run.sh`, and programs are searched for
in another one. -/
def Host.besideRunner : Host :=
  { tree := ⟨[(["bin"], .directory), (["bin", "sh"], .file ⟨0o755, .program "sh"⟩),
      (["work"], .directory),
      (["work", "run.sh"], .file ⟨0o755, .bytes (Text.utf8 "#!/bin/sh\necho\n".toList)⟩)]⟩
    directory := ["work"]
    searchPath := ["/bin"] }

namespace Settings

/-- By a path with a slash the runner beside which one works is executed by the shell. -/
theorem search_runnerInDirectory :
    let launch := Dispatch.launchOf (runBy "./run.sh") (runOf "./run.sh")
    (runBy "./run.sh").checkRunners Host.besideRunner = .ok () ∧
      Host.besideRunner.search launch.program launch.arguments =
        .ok ⟨"sh", "/bin/sh" :: launch.program :: launch.arguments⟩ := by
  have checked : (runBy "./run.sh").checkRunners Host.besideRunner = .ok () := by decide +kernel
  obtain ⟨l, f, leads, holds, -, launches⟩ :=
    search_checkedRunner _ _ checked _ _ (runOf_mem_runs "./run.sh")
  have location : ["work", "run.sh"] = l :=
    Except.ok.inj ((show Host.besideRunner.resolve "./run.sh" = _ by decide +kernel).symm.trans leads)
  subst location
  have file : ⟨0o755, .bytes (Text.utf8 "#!/bin/sh\necho\n".toList)⟩ = f :=
    Entry.file.inj (Option.some.inj holds)
  subst file
  refine ⟨checked, ((launches _ rfl rfl).1 (by decide)).trans ?_⟩
  decide +kernel

/-- By its name the same runner passes the check, and is not found when it is launched. -/
theorem launch_searchedRunner :
    (runBy "run.sh").checkRunners Host.besideRunner = .ok () ∧
      (∃ space, (runBy "run.sh").spaceOf = .ok space ∧
        runOf "run.sh" ∈ ((runBy "run.sh").planOf space).runs) ∧
      (Host.besideRunner.launch (Dispatch.launchOf (runBy "run.sh") (runOf "run.sh"))).1 =
        .notStarted .missing := by
  have launch : Host.besideRunner.search "run.sh"
      (Dispatch.launchOf (runBy "run.sh") (runOf "run.sh")).arguments = .error .missing := by
    apply Host.search_of_missing
    · decide
    · decide
    · decide +kernel
    · decide +kernel
  refine ⟨by decide +kernel, ⟨_, rfl, runOf_mem_runs "run.sh"⟩, ?_⟩
  exact congrArg Prod.fst (Host.launch_of_search launch)

end Settings

end BenchCampaign
