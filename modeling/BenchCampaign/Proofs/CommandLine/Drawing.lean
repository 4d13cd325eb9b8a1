import BenchCampaign.CommandLine.Drawing
import BenchCampaign.Proofs.Attempts
import BenchCampaign.Proofs.Chart.Document
import BenchCampaign.Proofs.Host.Writing
import BenchCampaign.Proofs.Text.Utf8

/-!
# A chart or nothing

A chart is complete before its file is opened.  So a command that fails leaves every file as it
was, the file of an older chart too; one that succeeds writes the document of the results that its
source holds, and changes nothing else.

* `DrawCommand.Loads`, `DrawCommand.Refuses`: what a source holds, and what is wrong with it.
* `DrawCommand.content_of_loads`, `DrawCommand.content_of_refuses`: what is loaded is what the
  source holds.
* `DrawCommand.Fails`: why a command fails.
* `DrawCommand.draws_all_or_nothing`: what a command line comes to.
-/

namespace BenchCampaign

/-! ## Texts of records -/

namespace Record

/-- The lines of a text that are not blank. -/
def filledLines (text : List Char) : List (List Char) :=
  (Text.lineContents text).filter fun l => !(Text.trim l).isEmpty

end Record

namespace CommandLine

namespace DrawCommand

variable {c : DrawCommand} {h : Host} {path : String} {fault : Chart.Fault}

/-! ## Sources -/

/-- The source of a command holds results, and a title for them. -/
inductive Loads (c : DrawCommand) (h : Host) : ResultSet Float → String → Prop
  | chartFile {path : String} {bytes : List UInt8} {text : List Char} {f : Chart.File}
      {entries : List (String × Float)} (source : c.chartFile = some path)
      (content : h.read path = .ok bytes) (decoded : Text.ofUtf8? bytes = some text)
      (file : Chart.File.read? text = some f)
      (numeric : f.results.map Chart.File.result = entries.map .ok) :
      Loads c h (NameTable.ofList entries) f.title
  | records {path : String} {bytes : List UInt8} {text : List Char} {rs : List Record}
      {workload : Workload} {concurrency : UInt32} {tasks : UInt64}
      (source : c.records = some path) (selectsWorkload : c.workload = some workload)
      (selectsConcurrency : c.concurrency = some concurrency) (selectsTasks : c.tasks = some tasks)
      (content : h.read path = .ok bytes) (decoded : Text.ofUtf8? bytes = some text)
      (each : (Record.filledLines text).map Record.read? = rs.map some) :
      Loads c h (ResultSet.ofRecords rs ⟨workload, concurrency, tasks⟩)
        (Selection.title ⟨workload, concurrency, tasks⟩)

/-- There is something wrong with the source of a command. -/
inductive Refuses (c : DrawCommand) (h : Host) : Chart.Fault → Prop
  | unreadableFile {path : String} {fault : PathFault} (source : c.chartFile = some path)
      (content : h.read path = .error fault) (other : fault ≠ .isDirectory) : Refuses c h .files
  | directory {path : String} (source : c.chartFile = some path)
      (content : h.read path = .error .isDirectory) : Refuses c h .malformedFile
  | malformedFile {path : String} {bytes : List UInt8} (source : c.chartFile = some path)
      (content : h.read path = .ok bytes)
      (malformed : (Text.ofUtf8? bytes).bind Chart.File.read? = none) :
      Refuses c h .malformedFile
  | notNumeric {path : String} {bytes : List UInt8} {text : List Char} {f : Chart.File}
      {before behind : List (Yaml.Value × Yaml.Value)} {e : Yaml.Value × Yaml.Value}
      {fault : Chart.Fault} (source : c.chartFile = some path)
      (content : h.read path = .ok bytes) (decoded : Text.ofUtf8? bytes = some text)
      (file : Chart.File.read? text = some f) (split : f.results = before ++ e :: behind)
      (numeric : ∀ e' ∈ before, ∃ result, Chart.File.result e' = .ok result)
      (fails : Chart.File.result e = .error fault) : Refuses c h fault
  | unreadableRecords {path : String} {fault : PathFault} (source : c.records = some path)
      (content : h.read path = .error fault) : Refuses c h .files
  | noText {path : String} {bytes : List UInt8} (source : c.records = some path)
      (content : h.read path = .ok bytes) (binary : Text.ofUtf8? bytes = none) :
      Refuses c h .files
  | malformedRecord {path : String} {bytes : List UInt8} {text : List Char}
      {before behind : List (List Char)} {line : List Char} (source : c.records = some path)
      (content : h.read path = .ok bytes) (decoded : Text.ofUtf8? bytes = some text)
      (split : Record.filledLines text = before ++ line :: behind)
      (good : ∀ l ∈ before, (Record.read? l).isSome = true) (fails : Record.read? line = none) :
      Refuses c h .malformedRecord

theorem loadChartFile_eq (h : Host) (path : String) :
    loadChartFile h path =
      match h.read path with
      | .error .isDirectory => .error .malformedFile
      | .error _ => .error .files
      | .ok bytes =>
        match (Text.ofUtf8? bytes).bind Chart.File.read? with
        | some f => .ok f
        | none => .error .malformedFile := by
  unfold loadChartFile Host.decodeFile
  cases h.read path with
  | error fault => cases fault <;> rfl
  | ok bytes =>
    dsimp only
    cases (Text.ofUtf8? bytes).bind Chart.File.read? <;> rfl

theorem resultSet_eq (f : Chart.File) :
    f.resultSet = (f.results.mapM Chart.File.result).map NameTable.ofList := rfl

/-- A command is either for a chart file or for all parts of a selection of records. -/
theorem isDetermined_cases (determined : c.isDetermined = true) :
    (∃ path, c.chartFile = some path ∧ c.records = none) ∨
      ∃ path workload concurrency tasks, c.chartFile = none ∧ c.records = some path ∧
        c.workload = some workload ∧ c.concurrency = some concurrency ∧ c.tasks = some tasks := by
  unfold isDetermined at determined
  split at determined
  next path file none => exact .inl ⟨path, file, none⟩
  next path none records =>
    simp only [Bool.and_eq_true, Option.isSome_iff_exists] at determined
    obtain ⟨⟨⟨workload, hw⟩, concurrency, hc⟩, tasks, ht⟩ := determined
    exact .inr ⟨path, workload, concurrency, tasks, none, records, hw, hc, ht⟩
  next => cases determined

theorem isDetermined_of_ofArguments {arguments : List String}
    (accepted : ofArguments arguments = .ok c) : c.isDetermined = true := by
  unfold ofArguments at accepted
  cases given : options.read arguments with
  | error refusal =>
    rw [given] at accepted
    cases accepted
  | ok given =>
    rw [given] at accepted
    change (if (ofGiven _).isDetermined = true then Except.ok (ofGiven _)
      else .error Refusal.usage) = .ok c at accepted
    split at accepted
    next determined => exact (Except.ok.inj accepted) ▸ determined
    next => cases accepted

theorem loadRecords_eq (h : Host) (path : String) :
    loadRecords h path =
      match h.read path with
      | .error _ => .error .files
      | .ok bytes =>
        match Text.ofUtf8? bytes with
        | none => .error .files
        | some text =>
          match (Record.filledLines text).mapM Record.read? with
          | some rs => .ok rs
          | none => .error .malformedRecord := rfl

/-- The content of a chart file, in its two steps. -/
theorem content_of_chartFile (source : c.chartFile = some path) :
    c.content h = (loadChartFile h path).bind fun f =>
      f.resultSet.bind fun results => .ok (results, f.title) := by
  unfold content
  rw [source]
  rfl

/-- The content of records: the results of the selection. -/
theorem content_of_records (determined : c.isDetermined = true) (source : c.records = some path) :
    ∃ selection, Selection.ofParts c.workload c.concurrency c.tasks = .ok selection ∧
      c.content h = (loadRecords h path).bind fun rs =>
        .ok (ResultSet.ofRecords rs selection, selection.title) := by
  obtain ⟨path', -, none⟩ | ⟨path', w, n, t, file, -, hw, hc, ht⟩ := isDetermined_cases determined
  · rw [none] at source
    cases source
  · refine ⟨⟨w, n, t⟩, by rw [hw, hc, ht]; rfl, ?_⟩
    unfold content
    rw [file, source, hw, hc, ht]
    rfl

/-- What a source holds is loaded. -/
theorem content_of_loads (determined : c.isDetermined = true) {results : ResultSet Float}
    {title : String} (loads : c.Loads h results title) : c.content h = .ok (results, title) := by
  cases loads with
  | chartFile source content decoded file numeric =>
    rw [content_of_chartFile source, loadChartFile_eq, content]
    dsimp only
    rw [decoded, Option.bind_some, file]
    dsimp only [Except.bind]
    rw [resultSet_eq, mapM_eq_ok_iff.2 numeric]
    rfl
  | records source hw hc ht content decoded each =>
    obtain ⟨selection, parts, loaded⟩ := content_of_records (h := h) determined source
    rw [hw, hc, ht] at parts
    obtain rfl := Except.ok.inj parts
    rw [loaded, loadRecords_eq, content]
    dsimp only
    rw [decoded]
    dsimp only
    rw [mapM_eq_some_iff.2 each]
    rfl

/-- What is wrong with a source is told. -/
theorem content_of_refuses (determined : c.isDetermined = true) (refuses : c.Refuses h fault) :
    c.content h = .error fault := by
  cases refuses with
  | unreadableFile source content other =>
    rw [content_of_chartFile source, loadChartFile_eq, content]
    rename_i fault
    cases fault <;> first | rfl | exact (other rfl).elim
  | directory source content =>
    rw [content_of_chartFile source, loadChartFile_eq, content]
    rfl
  | malformedFile source content malformed =>
    rw [content_of_chartFile source, loadChartFile_eq, content]
    dsimp only
    rw [malformed]
    rfl
  | notNumeric source content decoded file split numeric fails =>
    rw [content_of_chartFile source, loadChartFile_eq, content]
    dsimp only
    rw [decoded, Option.bind_some, file]
    dsimp only [Except.bind]
    rw [resultSet_eq, mapM_eq_error_iff.2 ⟨_, _, _, split, numeric, fails⟩]
    rfl
  | unreadableRecords source content =>
    obtain ⟨selection, -, loaded⟩ := content_of_records (h := h) determined source
    rw [loaded, loadRecords_eq, content]
    rfl
  | noText source content binary =>
    obtain ⟨selection, -, loaded⟩ := content_of_records (h := h) determined source
    rw [loaded, loadRecords_eq, content]
    dsimp only
    rw [binary]
    rfl
  | malformedRecord source content decoded split good fails =>
    obtain ⟨selection, -, loaded⟩ := content_of_records (h := h) determined source
    rw [loaded, loadRecords_eq, content]
    dsimp only
    rw [decoded]
    dsimp only
    rw [mapM_eq_none_iff.2 ⟨_, _, _, split, good, fails⟩]
    rfl

theorem loads_or_refuses_file (source : c.chartFile = some path) :
    (∃ results title, c.Loads h results title) ∨ ∃ fault, c.Refuses h fault := by
  cases content : h.read path with
  | error fault =>
    by_cases directory : fault = .isDirectory
    · subst directory
      exact .inr ⟨_, .directory source content⟩
    · exact .inr ⟨_, .unreadableFile source content directory⟩
  | ok bytes =>
    cases decoded : Text.ofUtf8? bytes with
    | none => exact .inr ⟨_, .malformedFile source content (by rw [decoded]; rfl)⟩
    | some text =>
      cases file : Chart.File.read? text with
      | none => exact .inr ⟨_, .malformedFile source content (by rw [decoded]; exact file)⟩
      | some f =>
        cases numeric : f.results.mapM Chart.File.result with
        | ok entries =>
          exact .inl ⟨_, _, .chartFile source content decoded file (mapM_eq_ok_iff.1 numeric)⟩
        | error fault =>
          obtain ⟨before, e, behind, split, good, fails⟩ := mapM_eq_error_iff.1 numeric
          exact .inr ⟨_, .notNumeric source content decoded file split good fails⟩

theorem loads_or_refuses_records {workload : Workload} {concurrency : UInt32} {tasks : UInt64}
    (source : c.records = some path) (hw : c.workload = some workload)
    (hc : c.concurrency = some concurrency) (ht : c.tasks = some tasks) :
    (∃ results title, c.Loads h results title) ∨ ∃ fault, c.Refuses h fault := by
  cases content : h.read path with
  | error fault => exact .inr ⟨_, .unreadableRecords source content⟩
  | ok bytes =>
    cases decoded : Text.ofUtf8? bytes with
    | none => exact .inr ⟨_, .noText source content decoded⟩
    | some text =>
      cases each : (Record.filledLines text).mapM Record.read? with
      | some rs =>
        exact .inl ⟨_, _, .records source hw hc ht content decoded (mapM_eq_some_iff.1 each)⟩
      | none =>
        obtain ⟨before, line, behind, split, good, fails⟩ := mapM_eq_none_iff.1 each
        exact .inr ⟨_, .malformedRecord source content decoded split good fails⟩

/-- One line spoils all, whatever the lines before it are. -/
theorem refuses_of_malformedRecord {bytes : List UInt8} {text : List Char}
    {before behind : List (List Char)} {line : List Char} (source : c.records = some path)
    (content : h.read path = .ok bytes) (decoded : Text.ofUtf8? bytes = some text)
    (split : Record.filledLines text = before ++ line :: behind)
    (fails : Record.read? line = none) : c.Refuses h .malformedRecord := by
  cases each : (Record.filledLines text).mapM Record.read? with
  | none =>
    obtain ⟨before', line', behind', split', good, fails'⟩ := mapM_eq_none_iff.1 each
    exact .malformedRecord source content decoded split' good fails'
  | some rs =>
    have listed : none ∈ (Record.filledLines text).map Record.read? :=
      List.mem_map.2 ⟨line, by rw [split]; exact List.mem_append_cons_self, fails⟩
    rw [mapM_eq_some_iff.1 each] at listed
    obtain ⟨r, -, same⟩ := List.mem_map.1 listed
    cases same

/-- A source holds results, or something is wrong with it. -/
theorem loads_or_refuses (determined : c.isDetermined = true) (h : Host) :
    (∃ results title, c.Loads h results title) ∨ ∃ fault, c.Refuses h fault := by
  obtain ⟨path, source, -⟩ | ⟨path, w, n, t, -, source, hw, hc, ht⟩ :=
    isDetermined_cases determined
  · exact loads_or_refuses_file source
  · exact loads_or_refuses_records source hw hc ht

/-! ## Documents -/

/-- The document of some results, under the title of the command if it has one. -/
def document? (c : DrawCommand) (results : ResultSet Float) (title : String) : Option String :=
  Chart.render? Chart.standardSize results (c.title.getD title)

/-- Why a command fails. -/
inductive Fails (c : DrawCommand) (h : Host) : Chart.Fault → Prop
  | source {fault : Chart.Fault} (refuses : c.Refuses h fault) : Fails c h fault
  | noResults {results : ResultSet Float} {title : String} (loads : c.Loads h results title)
      (empty : results.entries = []) : Fails c h .noResults
  | output {results : ResultSet Float} {title document : String} {fault : PathFault}
      (loads : c.Loads h results title) (drawn : c.document? results title = some document)
      (refused : h.write c.output (Text.utf8 document.toList) = .error fault) : Fails c h .files

theorem document?_eq_none_iff {results : ResultSet Float} {title : String} :
    c.document? results title = none ↔ results.entries = [] := by
  unfold document? Chart.render?
  rw [Option.map_eq_none_iff]
  constructor
  · intro none
    by_contra filled
    obtain ⟨g, drawn⟩ := Chart.exists_ofResults? Chart.standardSize filled
    rw [none] at drawn
    cases drawn
  · intro empty
    rw [Chart.Geometry.ofResults?, ResultSet.max?, ResultSet.values, empty]
    rfl

/-- Saving leaves a host alone that it does not write to, and writes once if it does. -/
theorem save_eq (size : Chart.Size Float) (results : ResultSet Float) (title path : String)
    (h : Host) :
    Chart.save size results title path h =
      match Chart.render? size results title with
      | none => .error .noResults h
      | some document =>
        match h.write path (Text.utf8 document.toList) with
        | .error _ => .error .files h
        | .ok after => .ok () after := by
  cases drawn : Chart.render? size results title with
  | none =>
    have faulty : Chart.draw size results title = .error .noResults := by
      rw [Chart.draw, drawn]
    unfold Chart.save
    rw [faulty]
    rfl
  | some document =>
    have complete : Chart.draw size results title = .ok document := by
      rw [Chart.draw, drawn]
    unfold Chart.save
    rw [complete]
    dsimp only [bind, EStateM.bind, MonadExcept.ofExcept, pure, EStateM.pure, get, getThe,
      MonadStateOf.get, EStateM.get]
    cases h.write path (Text.utf8 document.toList) <;> rfl

/-- What cannot be loaded is told, and the host handed on as it is. -/
theorem run_of_faulty (faulty : c.content h = .error fault) : c.run h = .error fault h := by
  unfold run
  dsimp only [bind, EStateM.bind, get, getThe, MonadStateOf.get, EStateM.get]
  rw [faulty]
  rfl

/-- What is loaded is saved, and the host handed on as saving leaves it. -/
theorem run_of_content {results : ResultSet Float} {title : String}
    (loaded : c.content h = .ok (results, title)) :
    c.run h = EStateM.bind
      (Chart.save Chart.standardSize results (c.title.getD title) c.output)
      (fun _ => pure (Chart.savedNotice results c.output)) h := by
  unfold run
  dsimp only [bind, EStateM.bind, get, getThe, MonadStateOf.get, EStateM.get]
  rw [loaded]
  rfl

/-- What is loaded is drawn, and what is drawn is written. -/
theorem run_of_loads (determined : c.isDetermined = true) {results : ResultSet Float}
    {title : String} (loads : c.Loads h results title) :
    c.run h =
      match c.document? results title with
      | none => .error .noResults h
      | some document =>
        match h.write c.output (Text.utf8 document.toList) with
        | .error _ => .error .files h
        | .ok after => .ok (Chart.savedNotice results c.output) after := by
  rw [run_of_content (content_of_loads determined loads), EStateM.bind, save_eq, document?]
  cases Chart.render? Chart.standardSize results (c.title.getD title) with
  | none => rfl
  | some document =>
    dsimp only
    cases h.write c.output (Text.utf8 document.toList) <;> rfl

/-- A command that fails gives back the host that it was given. -/
theorem run_of_fails (determined : c.isDetermined = true) (fails : c.Fails h fault) :
    c.run h = .error fault h := by
  cases fails with
  | source refuses => exact run_of_faulty (content_of_refuses determined refuses)
  | noResults loads empty => rw [run_of_loads determined loads, document?_eq_none_iff.2 empty]
  | output loads drawn refused =>
    rw [run_of_loads determined loads, drawn]
    dsimp only
    rw [refused]

/-! ## Commands -/

/-- **A chart is drawn, or nothing is changed.**  Whatever is wrong with a source, with its results
or with the output, the host is left as it was; where nothing is, the output holds the document of
the results and the title, unless it is a device, and nothing but the output is changed.  A line
that is no record is wrong with records, however many records are before it. -/
theorem draws_all_or_nothing {arguments : List String} (accepted : ofArguments arguments = .ok c)
    (h : Host) :
    let result := performArguments h arguments
    (∀ fault, c.Fails h fault →
      result = ⟨failureCode, [⟨.error, fault.message, none⟩], h⟩) ∧
    ((∀ fault, ¬ c.Fails h fault) →
      ∃ results title document l, c.Loads h results title ∧
        Chart.render? Chart.standardSize results (c.title.getD title) = some document ∧
        result.code = successCode ∧ result.notices = [Chart.savedNotice results c.output] ∧
        h.WrittenAt result.host c.output (Text.utf8 document.toList) l) ∧
    ∀ path bytes text before line behind, c.records = some path → h.read path = .ok bytes →
      Text.ofUtf8? bytes = some text → Record.filledLines text = before ++ line :: behind →
        Record.read? line = none →
          result = ⟨failureCode, [⟨.error, Chart.Fault.malformedRecord.message, none⟩], h⟩ := by
  have determined := isDetermined_of_ofArguments accepted
  have performed : performArguments h arguments = c.perform h := by
    unfold performArguments
    rw [accepted]
  intro result
  have failed (fault : Chart.Fault) (fails : c.Fails h fault) :
      result = ⟨failureCode, [⟨.error, fault.message, none⟩], h⟩ := by
    refine performed.trans ?_
    unfold perform
    rw [run_of_fails determined fails]
  refine ⟨failed, ?_, ?_⟩
  · intro none
    obtain ⟨results, title, loads⟩ | ⟨fault, refuses⟩ := loads_or_refuses determined h
    · cases drawn : c.document? results title with
      | none => exact absurd (.noResults loads (document?_eq_none_iff.1 drawn)) (none _)
      | some document =>
        cases written : h.write c.output (Text.utf8 document.toList) with
        | error fault => exact absurd (.output loads drawn written) (none _)
        | ok after =>
          obtain ⟨l, changed⟩ := Host.writtenAt_of_write written
          have ended : result =
              ⟨successCode, [Chart.savedNotice results c.output], after⟩ := by
            refine performed.trans ?_
            unfold perform
            rw [run_of_loads determined loads, drawn]
            dsimp only
            rw [written]
          rw [ended]
          exact ⟨results, title, document, l, loads, drawn, rfl, rfl, changed⟩
    · exact absurd (.source refuses) (none _)
  · intro path bytes text before line behind source content decoded split fails
    exact failed _ (.source (refuses_of_malformedRecord source content decoded split fails))

/-- An older chart beside the record of one run, with a line behind it that is no record and
without. -/
theorem draws_besideOlderChart :
    let arguments := ["-r", "times", "--workload", "inserts", "--concurrency", "2", "--tasks", "3",
      "-o", "o.svg"]
    let c : DrawCommand :=
      ⟨none, some "times", some .inserts, some 2, some 3, none, "o.svg"⟩
    let r : Record := ⟨⟨"a", .inserts, 2, 3, 0⟩, 4⟩
    let host (text : List Char) : Host :=
      ⟨⟨[(["times"], .file ⟨0o644, .bytes (Text.utf8 text)⟩),
        (["o.svg"], .file ⟨0o644, .bytes (Text.utf8 "old".toList)⟩)]⟩, [], []⟩
    let spoilt := host (r.json ++ "\nno record\n".toList)
    let sound := host (r.json ++ ['\n'])
    ofArguments arguments = .ok c ∧
      performArguments spoilt arguments =
        ⟨failureCode, [⟨.error, Chart.Fault.malformedRecord.message, none⟩], spoilt⟩ ∧
      ∃ results title document, c.Loads sound results title ∧
        Chart.render? Chart.standardSize results title = some document ∧
        (performArguments sound arguments).host.read "o.svg" =
          .ok (Text.utf8 document.toList) := by
  intro arguments c r host spoilt sound
  have accepted : ofArguments arguments = .ok c := by decide +kernel
  refine ⟨accepted, ?_, ?_⟩
  · have lines : Record.filledLines (r.json ++ "\nno record\n".toList) =
        [r.json] ++ "no record".toList :: [] := by decide +kernel
    have fails : (Record.read? "no record".toList).isNone = true := by decide +kernel
    exact (draws_all_or_nothing accepted spoilt).2.2 "times" _ _ _ _ _ rfl rfl
      (Text.ofUtf8?_utf8 _) lines (Option.isNone_iff_eq_none.1 fails)
  · obtain ⟨failed, drawn, -⟩ := draws_all_or_nothing accepted sound
    have ended : (performArguments sound arguments).code = successCode := by decide +kernel
    have clean (fault : Chart.Fault) : ¬ c.Fails sound fault := fun fails => by
      rw [failed fault fails] at ended
      cases ended
    obtain ⟨results, title, document, l, loads, rendered, -, -, written⟩ := drawn clean
    have leads : (performArguments sound arguments).host.resolve "o.svg" = .ok ["o.svg"] := by
      decide +kernel
    obtain rfl := Except.ok.inj (written.resolve_path.symm.trans leads)
    exact ⟨results, title, document, loads, rendered, written.read_path nofun⟩

end DrawCommand

end CommandLine

end BenchCampaign
