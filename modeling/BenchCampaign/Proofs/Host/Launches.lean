import BenchCampaign.Host.Standard
import BenchCampaign.Proofs.CommandLine.Campaign
import BenchCampaign.Proofs.Host.Writing

/-!
# Launches on a host

Whatever is said of a campaign is said for every launcher, so nothing depends on what the programs
of a host do.  This is what a campaign can rely on all the same where it launches them: a program
that is found is started, one that is not leaves everything as it is, and a program that ran leaves
nothing but files behind, so that a path or a name starts from the same place all along.

* `Host.search_of_file`, `Host.search_of_missing`: launches by a path, and by a name that no
  directory of the search path has.
* `Host.search_append`: what is found does not depend on the arguments.
* `FileTree.KnowsPrograms`, `Host.knowsPrograms_standard`, `Host.knowsPrograms_provide`: hosts on
  which no program is unknown.
* `Host.launch_eq_notStarted_iff`: what is not started.
* `Host.KeepsPlaces`, `Host.keepsPlaces_stateAfter`: launches change files alone.
* `CommandLine.CampaignCommand.keepsPlaces_performArguments`: so does a campaign.
-/

namespace BenchCampaign

/-- A program that is called with more arguments. -/
def Invocation.append (i : Invocation) (more : List String) : Invocation :=
  { i with arguments := i.arguments ++ more }

/-! ## Launching a file -/

namespace Host

variable {h h' : Host} {path : String} {l : Location} {f : RegularFile}

theorem file?_eq_some_iff :
    h.file? path = some f ↔
      ∃ l, h.resolve path = .ok l ∧ h.tree.entry? l = some (.file f) := by
  have regular : h.file? path = some f ↔ h.entry? path = some (.file f) := by
    unfold file?
    split <;> simp_all
  rw [regular, entry?]
  cases h.resolve path with
  | error fault => simp
  | ok l => simp

/-- Where a path leads depends on nothing but the files and the directory. -/
theorem resolve_congr (tree : h'.tree = h.tree) (directory : h'.directory = h.directory) :
    h'.resolve path = h.resolve path := by
  rw [resolve, resolve, start, start, tree, directory]

/-- What is wrong with the words of a launch, whatever they lead to. -/
def wordFault? (words : List String) : Option LaunchFault :=
  if words.any fun a => a.toList.contains '\x00' then some .nulCharacter
  else if words.any fun a => maxArgument < a.utf8ByteSize then some .argumentsTooLong
  else none

section Words

variable {words : List String}

theorem any_nul_eq_false_iff :
    (words.any fun w => w.toList.contains '\x00') = false ↔ ∀ w ∈ words, '\x00' ∉ w.toList := by
  simp

theorem any_long_eq_false_iff :
    (words.any fun w => decide (maxArgument < w.utf8ByteSize)) = false ↔
      ∀ w ∈ words, w.utf8ByteSize ≤ maxArgument := by
  simp

theorem wordFault?_eq_none_iff :
    wordFault? words = none ↔
      ∀ w ∈ words, '\x00' ∉ w.toList ∧ w.utf8ByteSize ≤ maxArgument := by
  rw [forall₂_and, ← any_nul_eq_false_iff, ← any_long_eq_false_iff, wordFault?]
  split
  case isTrue found =>
    rw [found]
    exact iff_of_false (by decide) fun both => Bool.noConfusion both.1
  case isFalse clean =>
    rw [Bool.not_eq_true] at clean
    split
    case isTrue found =>
      rw [found]
      exact iff_of_false (by decide) fun both => Bool.noConfusion both.2
    case isFalse short =>
      rw [Bool.not_eq_true] at short
      exact iff_of_true rfl ⟨clean, short⟩

theorem any_nul_of_wordFault? (clean : wordFault? words = none) :
    (words.any fun w => w.toList.contains '\x00') = false :=
  any_nul_eq_false_iff.2 fun w member => (wordFault?_eq_none_iff.1 clean w member).1

theorem any_long_of_wordFault? (clean : wordFault? words = none) :
    (words.any fun w => decide (maxArgument < w.utf8ByteSize)) = false :=
  any_long_eq_false_iff.2 fun w member => (wordFault?_eq_none_iff.1 clean w member).2

theorem wordFault?_of_cons {word : String} (clean : wordFault? (word :: words) = none) :
    wordFault? words = none :=
  wordFault?_eq_none_iff.2 fun w member =>
    wordFault?_eq_none_iff.1 clean w (List.mem_cons_of_mem word member)

/-- Words that any launch takes leave it to the name whether it is taken. -/
theorem wordFault?_cons {word : String} (clean : wordFault? words = none) :
    wordFault? (word :: words) = wordFault? [word] := by
  simp only [wordFault?, List.any_cons, List.any_nil, any_nul_of_wordFault? clean,
    any_long_of_wordFault? clean]
  rfl

end Words

/-- What an executable file is executed by, from what it holds. -/
def executeContent (h : Host) (interpreters : Nat) (path : String) (arguments : List String) :
    Content → Except LaunchFault Invocation
  | .program name => .ok ⟨name, path :: arguments⟩
  | .bytes content =>
    match Script.interpreter? content with
    | none => .error .notExecutableFormat
    | some (name, argument) =>
      h.executeFile interpreters name (argument.toList ++ path :: arguments)

theorem executeFile_of_file (leads : h.resolve path = .ok l)
    (holds : h.tree.entry? l = some (.file f)) (executable : f.isExecutable = true)
    (interpreters : Nat) (arguments : List String) :
    h.executeFile (interpreters + 1) path arguments =
      h.executeContent interpreters path arguments f.content := by
  rw [executeFile]
  simp only [leads, holds, executable, Bool.not_true, Bool.false_eq_true, if_false]
  cases f.content with
  | program name => rfl
  | bytes content => rfl

theorem execute_eq (path : String) (arguments : List String) :
    h.execute path arguments =
      match wordFault? (path :: arguments) with
      | some fault => .error fault
      | none => h.executeFile maxInterpreters path arguments := by
  rw [execute, wordFault?]
  split
  · rfl
  · split <;> rfl

/-- A launch by a path with a slash comes to what the file at the path holds. -/
theorem search_of_file (slash : '/' ∈ path.toList) (leads : h.resolve path = .ok l)
    (holds : h.tree.entry? l = some (.file f)) (executable : f.isExecutable = true)
    (arguments : List String) :
    h.search path arguments =
      match wordFault? (path :: arguments) with
      | some fault => .error fault
      | none => h.executeContent (maxInterpreters - 1) path arguments f.content := by
  have executed := executeFile_of_file leads holds executable (maxInterpreters - 1) arguments
  rw [search, if_pos (List.contains_iff_mem.2 slash), execute_eq, ← executed]
  rfl

/-- What a search starts comes from a directory that was searched. -/
theorem searchIn_eq_ok {name : String} {arguments : List String} {i : Invocation}
    {fault : LaunchFault} {directories : List String}
    (started : h.searchIn name arguments fault directories = .ok i) :
    ∃ d ∈ directories, h.execute (inDirectory d name) arguments = .ok i := by
  induction directories generalizing fault with
  | nil => cases started
  | cons d rest ih =>
    have later {fault : LaunchFault} (started : h.searchIn name arguments fault rest = .ok i) :
        ∃ d' ∈ d :: rest, h.execute (inDirectory d' name) arguments = .ok i := by
      obtain ⟨d', among, executed⟩ := ih started
      exact ⟨d', List.mem_cons_of_mem d among, executed⟩
    rw [searchIn] at started
    split at started
    · exact later started
    · exact later started
    · exact later started
    · exact ⟨d, List.mem_cons_self, started⟩

/-- What a launch by a name starts comes from the search path. -/
theorem search_eq_ok {name : String} (noSlash : '/' ∉ name.toList) {arguments : List String}
    {i : Invocation} (started : h.search name arguments = .ok i) :
    ∃ d ∈ h.searchPath, h.execute (inDirectory d name) arguments = .ok i := by
  rw [search, if_neg (by simpa using noSlash)] at started
  split at started
  · cases started
  · split at started
    · cases started
    · split at started
      · cases started
      · exact searchIn_eq_ok started

/-- A path that leads to nothing is one that could be followed. -/
theorem word_of_missing (absent : h.resolve path = .error .missing) :
    '\x00' ∉ path.toList ∧ path.utf8ByteSize ≤ maxArgument := by
  by_cases nul : path.toList.contains '\x00' = true
  · have told : h.resolve path = .error .nulCharacter := by
      rw [resolve, pathFault?, if_pos nul]
    rw [told] at absent
    cases absent
  · by_cases long : Path.maxPath < path.utf8ByteSize
    · have nonempty : path.isEmpty = false :=
        beq_eq_false_iff_ne.2 (Nat.ne_of_gt (Nat.zero_lt_of_lt long))
      have told : h.resolve path = .error .nameTooLong := by
        rw [resolve, pathFault?, if_neg nul, nonempty, if_neg Bool.false_ne_true, if_pos long]
      rw [told] at absent
      cases absent
    · exact ⟨by simpa using nul, Nat.le_trans (Nat.le_of_not_lt long) (by decide)⟩

theorem execute_of_missing (absent : h.resolve path = .error .missing) {arguments : List String}
    (words : wordFault? arguments = none) : h.execute path arguments = .error .missing := by
  have all : wordFault? (path :: arguments) = none :=
    wordFault?_eq_none_iff.2
      (List.forall_mem_cons.2 ⟨word_of_missing absent, wordFault?_eq_none_iff.1 words⟩)
  rw [execute_eq, all]
  simp only [maxInterpreters, executeFile, absent, LaunchFault.ofPathFault]

theorem searchIn_of_missing {name : String} {arguments directories : List String}
    (words : wordFault? arguments = none)
    (absent : ∀ d ∈ directories, h.resolve (inDirectory d name) = .error .missing) :
    h.searchIn name arguments .missing directories = .error .missing := by
  induction directories with
  | nil => rfl
  | cons d rest ih =>
    rw [searchIn, execute_of_missing (absent d List.mem_cons_self) words]
    exact ih fun d' member => absent d' (List.mem_cons_of_mem d member)

/-- A name is missing that no directory of the search path has, wherever else it leads. -/
theorem search_of_missing {name : String} (noSlash : '/' ∉ name.toList)
    (short : name.utf8ByteSize ≤ Path.maxName) {arguments : List String}
    (words : wordFault? (name :: arguments) = none)
    (absent : ∀ d ∈ h.searchPath, h.resolve (inDirectory d name) = .error .missing) :
    h.search name arguments = .error .missing := by
  rw [search, if_neg (by simpa using noSlash), any_nul_of_wordFault? words,
    if_neg Bool.false_ne_true, if_neg (Nat.not_lt_of_le short),
    searchIn_of_missing (wordFault?_of_cons words) absent, ite_self]

/-! ## Arguments -/

theorem executeFile_append (interpreters : Nat) (path : String) (arguments more : List String) :
    h.executeFile interpreters path (arguments ++ more) =
      (h.executeFile interpreters path arguments).map (·.append more) := by
  induction interpreters generalizing path arguments with
  | zero => rfl
  | succ interpreters ih =>
    rw [executeFile, executeFile]
    cases h.resolve path with
    | error fault => rfl
    | ok l =>
      dsimp only
      rcases h.tree.entry? l with _ | ⟨_ | f | _⟩
      · rfl
      · rfl
      · dsimp only
        cases f.isExecutable with
        | false => rfl
        | true =>
          cases f.content with
          | program name => rfl
          | bytes content =>
            dsimp only
            cases Script.interpreter? content with
            | none => rfl
            | some line =>
              have behind := ih line.1 (line.2.toList ++ path :: arguments)
              rw [List.append_assoc, List.cons_append] at behind
              exact behind
      · rfl

theorem execute_append {more : List String} (clean : wordFault? more = none) :
    h.execute path more = (h.execute path []).map (·.append more) := by
  rw [execute_eq, execute_eq, wordFault?_cons clean]
  cases wordFault? [path] with
  | some fault => rfl
  | none => exact executeFile_append maxInterpreters path [] more

theorem searchIn_append {name : String} {more directories : List String} {fault : LaunchFault}
    (clean : wordFault? more = none) :
    h.searchIn name more fault directories =
      (h.searchIn name [] fault directories).map (·.append more) := by
  induction directories generalizing fault with
  | nil => rfl
  | cons d rest ih =>
    rw [searchIn, searchIn, execute_append clean]
    cases h.execute (inDirectory d name) [] with
    | ok i => rfl
    | error told => cases told <;> first | exact ih | rfl

/-- What a name comes to does not depend on the arguments, which stand behind those that a script
adds. -/
theorem search_append {name : String} {more : List String} (clean : wordFault? more = none) :
    h.search name more = (h.search name []).map (·.append more) := by
  rw [search, search, List.any_cons, List.any_cons, any_nul_of_wordFault? clean, List.any_nil]
  split
  · exact execute_append clean
  · split
    · rfl
    · split
      · rfl
      · split
        · rfl
        · exact searchIn_append clean

theorem wordFault?_of_execute {arguments : List String} {i : Invocation}
    (executed : h.execute path arguments = .ok i) : wordFault? arguments = none := by
  rw [execute_eq] at executed
  cases words : wordFault? (path :: arguments) with
  | some fault =>
    rw [words] at executed
    cases executed
  | none => exact wordFault?_of_cons words

theorem wordFault?_of_search {name : String} {arguments : List String} {i : Invocation}
    (found : h.search name arguments = .ok i) : wordFault? arguments = none := by
  by_cases slash : '/' ∈ name.toList
  · rw [search, if_pos (List.contains_iff_mem.2 slash)] at found
    exact wordFault?_of_execute found
  · obtain ⟨d, -, executed⟩ := search_eq_ok slash found
    exact wordFault?_of_execute executed

/-- A program that is found with arguments is the one that is found without. -/
theorem search_nil_of_search {name : String} {arguments : List String} {i : Invocation}
    (found : h.search name arguments = .ok i) :
    ∃ j, h.search name [] = .ok j ∧ i = j.append arguments := by
  rw [search_append (wordFault?_of_search found)] at found
  cases bare : h.search name [] with
  | error fault =>
    rw [bare] at found
    cases found
  | ok j =>
    rw [bare] at found
    exact ⟨j, rfl, (Except.ok.inj found).symm⟩

end Host

/-! ## Known programs -/

namespace FileTree

/-- Every program in a tree is one of those that hosts have from the start. -/
def KnowsPrograms (t : FileTree) : Prop :=
  ∀ l f name, t.entry? l = some (.file f) → f.content = .program name →
    name ∈ Host.standardPrograms

variable {t : FileTree}

theorem mem_entries_of_holds {l : Location} {f : RegularFile}
    (holds : t.entry? l = some (.file f)) : (l, .file f) ∈ t.entries := by
  unfold entry? at holds
  split at holds
  · cases holds
  · obtain ⟨e, found, is⟩ := Option.map_eq_some_iff.1 holds
    have here : e.1 = l := by simpa using List.find?_some found
    rw [← here, ← is]
    exact List.mem_of_find?_eq_some found

/-- Whatever is put into a tree, what is found there is that or was there before. -/
theorem KnowsPrograms.put (known : t.KnowsPrograms) (l : Location) {e : Entry}
    (noProgram : ∀ f name, e = .file f → f.content ≠ .program name) :
    (t.put l e).KnowsPrograms := by
  intro l' f name holds content
  rcases List.mem_cons.1 (mem_entries_of_holds holds) with is | before
  · exact absurd content (noProgram f name (Prod.mk.inj is).2.symm)
  · have other : l' ≠ l := of_decide_eq_true (List.mem_filter.1 before).2
    rw [entry?_put_of_ne other] at holds
    exact known l' f name holds content

theorem KnowsPrograms.makeDirectories (known : t.KnowsPrograms) (l : Location) :
    (t.makeDirectories l).KnowsPrograms := by
  unfold FileTree.makeDirectories
  induction List.range l.length generalizing t with
  | nil => exact known
  | cons i rest ih =>
    rw [List.foldl_cons]
    refine ih ?_
    dsimp only
    split
    · exact known
    · exact known.put _ nofun

end FileTree

namespace Host

variable {h : Host}

theorem knowsPrograms_standard : standard.tree.KnowsPrograms := by
  intro l f name holds content
  have listed := FileTree.mem_entries_of_holds holds
  simp only [standard, standardTree, List.mem_append, List.mem_flatMap, List.mem_map,
    List.mem_cons, List.not_mem_nil, or_false] at listed
  rcases listed with (⟨_, -, directory⟩ | device) | ⟨_, -, program, known, is⟩
  · cases directory
  · rcases device with device | device | device <;> cases device
  · cases is
    obtain rfl := Content.program.inj content
    exact known

/-- A host is given no unknown program with a file of bytes. -/
theorem knowsPrograms_provide (known : h.tree.KnowsPrograms) (path : String) (mode : Nat)
    (content : List UInt8) : (h.provide path ⟨mode, .bytes content⟩).tree.KnowsPrograms := by
  refine (known.makeDirectories _).put _ fun f name is => ?_
  obtain rfl := Entry.file.inj is
  nofun

theorem program_mem_of_executeFile (known : h.tree.KnowsPrograms) {interpreters : Nat}
    {path : String} {arguments : List String} {i : Invocation}
    (executed : h.executeFile interpreters path arguments = .ok i) :
    i.program ∈ standardPrograms := by
  induction interpreters generalizing path arguments with
  | zero => cases executed
  | succ interpreters ih =>
    rw [executeFile] at executed
    split at executed
    next => cases executed
    next l leads =>
      split at executed
      next f holds =>
        split at executed
        next => cases executed
        next =>
          split at executed
          next name content =>
            cases executed
            exact known l f name holds content
          next bytes content =>
            split at executed
            next => cases executed
            next => exact ih executed
      next => cases executed

theorem program_mem_of_execute (known : h.tree.KnowsPrograms) {path : String}
    {arguments : List String} {i : Invocation} (executed : h.execute path arguments = .ok i) :
    i.program ∈ standardPrograms := by
  rw [execute_eq] at executed
  split at executed
  · cases executed
  · exact program_mem_of_executeFile known executed

/-- What is found on a host without unknown programs is a known program. -/
theorem program_mem_of_search (known : h.tree.KnowsPrograms) {name : String}
    {arguments : List String} {i : Invocation} (found : h.search name arguments = .ok i) :
    i.program ∈ standardPrograms := by
  by_cases slash : '/' ∈ name.toList
  · rw [search, if_pos (List.contains_iff_mem.2 slash)] at found
    exact program_mem_of_execute known found
  · obtain ⟨d, -, executed⟩ := search_eq_ok slash found
    exact program_mem_of_execute known executed

end Host

/-! ## What is started -/

namespace Shell

/-- There is something to do for every program that hosts have from the start. -/
theorem State.exists_perform (run : Runner) (launching : Launching) {i : Invocation}
    (known : i.program ∈ Host.standardPrograms) (name : Octets) (arguments : List Octets)
    (st : State) :
    ∃ after, perform run (Launcher.named? run) launching i name arguments st = .ok after := by
  unfold perform
  dsimp only
  split
  · exact ⟨_, rfl⟩
  next noShell =>
    split
    · exact ⟨_, rfl⟩
    next noLauncher =>
      split
      · exact ⟨_, rfl⟩
      next noUtility =>
        exfalso
        rw [Host.standardPrograms, List.mem_append, List.mem_append] at known
        rcases known with (shell | launcher) | utility
        · exact noShell (List.contains_iff_mem.2 shell)
        · simp only [Launcher.names, List.mem_cons, List.not_mem_nil, or_false] at launcher
          rcases launcher with is | is | is | is | is <;> rw [is] at noLauncher <;> cases noLauncher
        · rw [Utility.named?, Option.map_eq_none_iff, List.find?_eq_none] at noUtility
          obtain ⟨entry, listed, is⟩ := List.mem_map.1 utility
          exact noUtility entry listed (decide_eq_true is)

end Shell

namespace Host

variable {h : Host} {launch : Launch} {fault : LaunchFault}

/-- A launch that comes to no program starts nothing. -/
theorem launch_of_search (failed : h.search launch.program launch.arguments = .error fault) :
    h.launch launch = (.notStarted fault, h) := by
  rw [Host.launch, failed]
  rfl

/-- A launch that comes to a program starts it. -/
theorem exists_launch_of_search (known : h.tree.KnowsPrograms) {i : Invocation}
    (found : h.search launch.program launch.arguments = .ok i) :
    ∃ output ending tree, h.launch launch = (.finished output ending, { h with tree }) := by
  obtain ⟨j, bare, rfl⟩ := search_nil_of_search found
  obtain ⟨after, performed⟩ := Shell.State.exists_perform Shell.State.run
    (Shell.State.launch Shell.State.run (Shell.Launcher.named? Shell.State.run) Shell.maxLaunches)
    (program_mem_of_search known bare) (Shell.Octets.ofString launch.program)
    (launch.arguments.map Shell.Octets.ofString) (Shell.State.initial h)
  refine ⟨Shell.Octets.toBytes (after.outputText 0), after.ending, after.host.tree, ?_⟩
  rw [Host.launch, found, bare]
  dsimp only [bind, Except.bind]
  rw [performed]

/-- A program is not started exactly if it is not found, and told is why it is not. -/
theorem launch_eq_notStarted_iff (known : h.tree.KnowsPrograms) :
    (h.launch launch).1 = .notStarted fault ↔
      h.search launch.program launch.arguments = .error fault := by
  constructor
  · intro idle
    cases searched : h.search launch.program launch.arguments with
    | error told =>
      rw [launch_of_search searched] at idle
      rw [Outcome.notStarted.inj idle]
    | ok i =>
      obtain ⟨output, ending, tree, eq⟩ := exists_launch_of_search known searched
      rw [eq] at idle
      cases idle
  · intro searched
    rw [launch_of_search searched]

/-! ## What is left behind -/

/-- A host is another one but for its files: paths and names start from the same places. -/
structure KeepsPlaces (h after : Host) : Prop where
  directory : after.directory = h.directory
  searchPath : after.searchPath = h.searchPath

theorem KeepsPlaces.refl (h : Host) : h.KeepsPlaces h := ⟨rfl, rfl⟩

theorem KeepsPlaces.trans {between after : Host} (first : h.KeepsPlaces between)
    (second : between.KeepsPlaces after) : h.KeepsPlaces after :=
  ⟨second.directory.trans first.directory, second.searchPath.trans first.searchPath⟩

theorem keepsPlaces_launch (h : Host) (launch : Launch) : h.KeepsPlaces (h.launch launch).2 := by
  unfold Host.launch
  dsimp only
  split
  · exact .refl h
  · exact ⟨rfl, rfl⟩

/-- A launch that starts nothing leaves the files alone too. -/
theorem launch_eq_of_notStarted (idle : (h.launch launch).1 = .notStarted fault) :
    (h.launch launch).2 = h := by
  unfold Host.launch at idle ⊢
  dsimp only at idle ⊢
  split at idle
  next => rfl
  next => cases idle

/-- However many programs were launched, the next one is looked for in the same places. -/
theorem keepsPlaces_stateAfter (launches : List Launch) (h : Host) :
    h.KeepsPlaces (Dispatch.stateAfter Host.launch launches h) := by
  induction launches generalizing h with
  | nil => exact .refl h
  | cons launch rest ih => exact (h.keepsPlaces_launch launch).trans (ih (h.launch launch).2)

theorem keepsPlaces_perform (s : Settings) (plan : Plan) (sink : Sink) (h : Host) :
    h.KeepsPlaces (Dispatch.perform s plan Host.launch sink h).state := by
  rw [Dispatch.state_perform]
  exact keepsPlaces_stateAfter _ h

end Host

namespace CommandLine

namespace CampaignCommand

/-- What a command line does to a host that runners are launched on, it does to the files. -/
theorem keepsPlaces_performArguments (h : Host) (arguments : List String) :
    h.KeepsPlaces (performArguments Host.launch h arguments h).state := by
  unfold performArguments
  cases asked : ofArguments arguments with
  | error refusal => exact .refl h
  | ok command =>
    cases command with
    | estimate path =>
      show h.KeepsPlaces (estimateCampaign h path h).state
      by_cases passes : ∃ s, Settings.load h path = .ok s ∧ s.isFlawed = false
      · obtain ⟨s, loaded, unflawed⟩ := passes
        rw [(estimateCampaign_of_unflawed h loaded unflawed).2.2]
        exact .refl h
      · rw [(givenUp_estimateCampaign h (not_exists.mp passes)).state]
        exact .refl h
    | run path rehearses =>
      show h.KeepsPlaces (runCampaign Host.launch h path rehearses h).state
      by_cases admitted : ∃ s, Admitted h path rehearses s
      · obtain ⟨s, admitted⟩ := admitted
        obtain ⟨notices, eq⟩ := runCampaign_of_admitted Host.launch h admitted
        rw [eq]
        cases rehearses with
        | true =>
          rw [(succeeds_dispatch_rehearsed Host.launch s _ notices h).2]
          exact .refl h
        | false =>
          have completes := Dispatch.completes_perform s (s.planOf s.optionSpace) Host.launch h
          unfold dispatch
          rw [if_neg Bool.false_ne_true, (succeeds_ofProgress completes _).2]
          exact Host.keepsPlaces_perform s _ ⟨none⟩ h
      · rw [(givenUp_runCampaign Host.launch h (not_exists.mp admitted)).state]
        exact .refl h

end CampaignCommand

end CommandLine

end BenchCampaign
