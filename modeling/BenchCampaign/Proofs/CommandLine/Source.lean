import BenchCampaign.Proofs.CommandLine.Drawing
import BenchCampaign.Proofs.CommandLine.Options
import Mathlib.Data.List.Nodup

/-!
# Commands with one source

A chart is drawn from one source, and records only at a whole selection.  That is checked on the
options of a command line, before anything is read; behind the check, a source or a part of the
selection is not missing any more, so that the faults for these cases are never told.

* `Given.HasOneSource`: what the options of a command have to be.
* `DrawCommand.isDetermined_iff`: options with one source make a command with one.
* `DrawCommand.fails_of_run`, `DrawCommand.Fails.not_missing`: the faults that are left.
* `DrawCommand.refused_or_oneSource`: what a command line comes to.
-/

namespace BenchCampaign

namespace CommandLine

/-! ## Questions -/

/-- An argument that asks what the command is. -/
def AsksAbout (argument : String) : Prop :=
  argument = "--help" ∨ argument = "--version" ∨ ['-', 'h'] <+: argument.toList ∨
    ['-', 'V'] <+: argument.toList

/-- Options that name one source, and with records all parts of a selection. -/
structure Given.HasOneSource (given : Given) : Prop where
  one : given.has "config" = !given.has "records"
  selected : given.has "records" = true →
    given.has "workload" = true ∧ given.has "concurrency" = true ∧ given.has "tasks" = true

namespace DrawCommand

/-- A long name asks if nothing is attached to it. -/
theorem name_of_inquiry {text : List Char} (opens : options.ofName text = .inquiry) :
    text = "help".toList ∨ text = "version".toList := by
  unfold Options.ofName at opens
  dsimp only at opens
  split at opens
  · cases opens
  · rcases ite_eq_iff.mp opens with ⟨asks, -⟩ | ⟨-, other⟩
    · obtain ⟨bare, known⟩ := Bool.and_eq_true_iff.mp asks
      have whole : text.takeWhile (· ≠ '=') = text := by
        cases rest : text.dropWhile (· ≠ '=') with
        | nil =>
          have parts := List.takeWhile_append_dropWhile (p := (· ≠ '=')) (l := text)
          rwa [rest, List.append_nil] at parts
        | cons c value =>
          rw [rest] at bare
          cases bare
      rw [whole] at known
      have named : "help" = String.ofList text ∨ "version" = String.ofList text := by
        simpa [options, helpInquiry, versionInquiry] using known
      exact named.imp (fun is => by rw [is, String.toList_ofList])
        fun is => by rw [is, String.toList_ofList]
    · cases other

theorem letter_of_inquiry {letter : Char} {text : List Char}
    (opens : options.ofLetter letter text = .inquiry) : letter = 'h' ∨ letter = 'V' := by
  unfold Options.ofLetter at opens
  split at opens
  · split at opens <;> cases opens
  · rcases ite_eq_iff.mp opens with ⟨asks, -⟩ | ⟨-, other⟩
    · have known : 'h' = letter ∨ 'V' = letter := by
        simpa [options, helpInquiry, versionInquiry] using asks
      exact known.imp Eq.symm Eq.symm
    · cases other

theorem asksAbout_of_opening {argument : String} (opens : options.opening argument = .inquiry) :
    AsksAbout argument := by
  unfold Options.opening at opens
  split at opens
  · cases opens
  next text shape =>
    rcases name_of_inquiry opens with rfl | rfl
    · exact .inl (String.toList_inj.mp shape)
    · exact .inr (.inl (String.toList_inj.mp shape))
  next letter text _ _ shape =>
    rcases letter_of_inquiry opens with rfl | rfl
    · exact .inr (.inr (.inl ⟨text, shape.symm⟩))
    · exact .inr (.inr (.inr ⟨text, shape.symm⟩))
  · cases opens

/-! ## Options -/

theorem isDetermined_eq (c : DrawCommand) :
    c.isDetermined = (c.chartFile.isSome && !c.records.isSome ||
      !c.chartFile.isSome && c.records.isSome &&
        (c.workload.isSome && c.concurrency.isSome && c.tasks.isSome)) := by
  unfold isDetermined
  cases c.chartFile <;> cases c.records <;> simp

section Given

variable {given : Given} (admits : options.Admits given)

include admits

theorem accepted_of_value? {d : Declaration} (declared : d ∈ options.declared) {value : String}
    (found : given.value? d.name = some value) : ∀ accepts ∈ d.accepts, accepts value = true := by
  obtain ⟨d', declared', named, accepted⟩ := admits.value?_accepted found
  have distinct : (options.declared.map Declaration.name).Nodup := by decide
  obtain rfl := List.inj_on_of_nodup_map distinct declared' declared named
  exact accepted

/-- A value that its option takes is one that it stands for. -/
theorem isSome_bind_value? {β : Type} {name : String} {decode : String → Option β}
    (declared : ⟨name, none, some fun v => (decode v).isSome⟩ ∈ options.declared) :
    ((given.value? name).bind decode).isSome = given.has name := by
  unfold Given.has
  cases found : given.value? name with
  | none => rfl
  | some value => exact accepted_of_value? admits declared found _ rfl

/-- What the options have to be for a command is that they name one source. -/
theorem isDetermined_iff : (ofGiven given).isDetermined = true ↔ given.HasOneSource := by
  have workload : (ofGiven given).workload.isSome = given.has "workload" :=
    isSome_bind_value? admits (by simp [options])
  have concurrency : (ofGiven given).concurrency.isSome = given.has "concurrency" :=
    isSome_bind_value? admits (by simp [options])
  have tasks : (ofGiven given).tasks.isSome = given.has "tasks" :=
    isSome_bind_value? admits (by simp [options])
  have config : (ofGiven given).chartFile.isSome = given.has "config" := rfl
  have records : (ofGiven given).records.isSome = given.has "records" := rfl
  have parts : given.HasOneSource ↔ given.has "config" = (!given.has "records") ∧
      (given.has "records" = true → given.has "workload" = true ∧
        given.has "concurrency" = true ∧ given.has "tasks" = true) :=
    ⟨fun source => ⟨source.one, source.selected⟩, fun source => ⟨source.1, source.2⟩⟩
  rw [isDetermined_eq, parts, config, records, workload, concurrency, tasks]
  cases given.has "config" <;> cases given.has "records" <;> simp [and_assoc]

end Given

/-! ## Faults -/

variable {c : DrawCommand} {h : Host} {fault : Chart.Fault}

/-- A command fails for no other reasons. -/
theorem fails_of_run (determined : c.isDetermined = true) {after : Host}
    (failed : c.run h = .error fault after) : c.Fails h fault := by
  obtain ⟨results, title, loads⟩ | ⟨told, refuses⟩ := loads_or_refuses determined h
  · rw [run_of_loads determined loads] at failed
    cases drawn : c.document? results title with
    | none =>
      rw [drawn] at failed
      cases failed
      exact .noResults loads (document?_eq_none_iff.1 drawn)
    | some document =>
      rw [drawn] at failed
      dsimp only at failed
      cases written : h.write c.output (Text.utf8 document.toList) with
      | error refused =>
        rw [written] at failed
        cases failed
        exact .output loads drawn written
      | ok after =>
        rw [written] at failed
        cases failed
  · rw [run_of_fails determined (.source refuses)] at failed
    cases failed
    exact .source refuses

/-- Neither a source nor a part of a selection is missing. -/
theorem Fails.not_missing (fails : c.Fails h fault) :
    fault ≠ .noSource ∧ ∀ part, fault ≠ .missingPart part := by
  cases fails with
  | source refuses =>
    cases refuses with
    | notNumeric source content decoded file split numeric fails =>
      unfold Chart.File.result at fails
      split at fails
      · cases fails
        exact ⟨nofun, nofun⟩
      · split at fails
        · cases fails
          exact ⟨nofun, nofun⟩
        · cases fails
    | _ => exact ⟨nofun, nofun⟩
  | noResults loads empty => exact ⟨nofun, nofun⟩
  | output loads drawn refused => exact ⟨nofun, nofun⟩

/-! ## Command lines -/

theorem ofArguments_eq (arguments : List String) :
    ofArguments arguments =
      match options.read arguments with
      | .error refusal => .error refusal
      | .ok given =>
        if (ofGiven given).isDetermined then .ok (ofGiven given) else .error .usage := by
  unfold ofArguments
  cases options.read arguments with
  | error refusal => rfl
  | ok given => rfl

/-- **A command has one source, or it is no command.**  A command line asks what the command is,
or it is refused without a look at any file, or it names exactly one of a chart file and records,
and with records all parts of a selection.  It is only refused if it cannot be read as options or
has not one such source; and a command that is carried out never tells that its source, or a part
of its selection, is missing. -/
theorem refused_or_oneSource (arguments : List String) :
    (ofArguments arguments = .error .inquiry ∧ ∃ a ∈ arguments, AsksAbout a) ∨
    (ofArguments arguments = .error .usage ∧
      (∀ given, options.read arguments = .ok given → ¬ given.HasOneSource) ∧
      ∀ h, performArguments h arguments = ⟨2, [], h⟩) ∨
    ∃ given, options.read arguments = .ok given ∧ given.HasOneSource ∧
      ofArguments arguments = .ok (ofGiven given) ∧
      ∀ h, performArguments h arguments = (ofGiven given).perform h ∧
        ∀ fault after, (ofGiven given).run h = .error fault after →
          fault ≠ .noSource ∧ ∀ part, fault ≠ .missingPart part := by
  have made := ofArguments_eq arguments
  cases read : options.read arguments with
  | error refusal =>
    rw [read] at made
    dsimp only at made
    cases refusal with
    | inquiry =>
      obtain ⟨a, member, opens⟩ := Options.exists_inquiry_of_readFrom read
      exact .inl ⟨made, a, member, asksAbout_of_opening opens⟩
    | usage =>
      refine .inr (.inl ⟨made, nofun, fun h => ?_⟩)
      unfold performArguments
      rw [made]
      rfl
  | ok given =>
    rw [read] at made
    dsimp only at made
    have source := isDetermined_iff (Options.admits_of_readFrom read (List.forall_mem_nil _))
    by_cases determined : (ofGiven given).isDetermined = true
    · rw [if_pos determined] at made
      refine .inr (.inr ⟨given, rfl, source.1 determined, made, fun h => ⟨?_, ?_⟩⟩)
      · unfold performArguments
        rw [made]
      · exact fun fault after failed => (fails_of_run determined failed).not_missing
    · rw [if_neg determined] at made
      refine .inr (.inl ⟨made, ?_, fun h => ?_⟩)
      · rintro _ ⟨⟩ one
        exact determined (source.2 one)
      · unfold performArguments
        rw [made]
        rfl

end DrawCommand

end CommandLine

end BenchCampaign
