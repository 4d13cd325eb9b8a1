import BenchCampaign.Proofs.Dispatch.Effect

/-!
# The stream of a plan

Where nothing is in the way, a campaign writes one stream: for each run its tag block and what
the run writes.  A sink that breaks cuts this stream off and changes nothing else.

* `Dispatch.outcomes`: what came of the runs, all of them launched.
* `Dispatch.written_perform`: a sink takes as much of the stream as it would in one write.
* `Dispatch.completes_perform`: a sink without a limit takes all of it.
* `Dispatch.perform_truncates`: what a sink for `n` bytes holds in the end, when it breaks, and
  which runs were launched.
-/

namespace BenchCampaign

namespace Dispatch

open Progress

variable {σ : Type}

/-! ## Outcomes -/

/-- What a launcher makes of some runs, one after the other. -/
def outcomes (s : Settings) (launcher : Launcher σ) : List Run → σ → List Outcome
  | [], _ => []
  | run :: runs, state =>
    let (outcome, next) := launcher state (launchOf s run)
    outcome :: outcomes s launcher runs next

/-- A launcher that has an outcome in store for each launch. -/
def scripted : Launcher (List Outcome)
  | [], _ => (.notStarted .missing, [])
  | outcome :: rest, _ => (outcome, rest)

/-- The runs can come to anything. -/
theorem outcomes_scripted (s : Settings) {runs : List Run} {script : List Outcome}
    (length : script.length = runs.length) : outcomes s scripted runs script = script := by
  induction runs generalizing script with
  | nil => exact (List.eq_nil_of_length_eq_zero length).symm
  | cons run runs ih =>
    cases script with
    | nil => cases length
    | cons outcome rest =>
      have tail := ih (Nat.succ.inj length)
      rw [outcomes]
      exact congrArg (outcome :: ·) tail

theorem length_outcomes (s : Settings) (launcher : Launcher σ) (runs : List Run) (state : σ) :
    (outcomes s launcher runs state).length = runs.length := by
  induction runs generalizing state with
  | nil => rfl
  | cons run runs ih => exact congrArg (· + 1) (ih _)

/-! ## Two actions and their effects -/

/-- What a run that came to something writes. -/
def block (run : Run) (outcome : Outcome) : List UInt8 := tagBytes run ++ outcome.output

/-- What a launched run does. -/
def effectOf (s : Settings) (run : Run) (outcome : Outcome) : Effect :=
  ⟨tagBytes run, [launchOf s run], outcome.output, !outcome.isSuccess⟩

/-- What launching a run does. -/
def performing (s : Settings) (launcher : Launcher σ) (run : Run) (state : σ) : Effect × σ :=
  (effectOf s run (launcher state (launchOf s run)).1, (launcher state (launchOf s run)).2)

/-- What listing a run does. -/
def listing (run : Run) (state : σ) : Effect × σ := (⟨tagBytes run, [], [], false⟩, state)

theorem realises_performRun (s : Settings) (launcher : Launcher σ) (total : Nat) :
    Realises (fun i => performRun s launcher (i + 1) total) (performing s launcher) where
  writes i run sink state := by
    show _ = sink.write (tagBytes run ++ (launcher state (launchOf s run)).1.output)
    unfold performRun listRun
    cases tag : (sink.write (tagBytes run)).2 with
    | none =>
      rw [Sink.write_append_of_refused tag]
      simp only [tag]
      exact Prod.ext rfl tag.symm
    | some next =>
      rw [Sink.write_append_of_taken tag]
      simp [tag, Sink.write_fst_of_taken tag, launchRun]
  waits i run sink state refused := by
    have tag : (sink.write (tagBytes run)).2 = none := refused
    simp [performRun, listRun, tag]
  starts i run sink state next taken := by
    have tag : (sink.write (tagBytes run)).2 = some next := taken
    simp [performRun, listRun, launchRun, tag, performing, effectOf]

theorem realises_listRun : Realises (fun _ => listRun) (listing : Run → σ → Effect × σ) where
  writes i run sink state := by
    show (sink.write (tagBytes run)) = sink.write (tagBytes run ++ [])
    rw [List.append_nil]
  waits i run sink state refused := rfl
  starts i run sink state next taken := ⟨rfl, rfl, rfl⟩

theorem effects_performing (s : Settings) (launcher : Launcher σ) (runs : List Run) (state : σ) :
    effects (performing s launcher) runs state =
      List.zipWith (effectOf s) runs (outcomes s launcher runs state) := by
  induction runs generalizing state with
  | nil => rfl
  | cons run runs ih => exact congrArg (_ :: ·) (ih _)

theorem effects_listing (runs : List Run) (state : σ) :
    effects listing runs state = runs.map fun run => ⟨tagBytes run, [], [], false⟩ := by
  induction runs with
  | nil => rfl
  | cons run runs ih => exact congrArg (_ :: ·) ih

/-! ## The stream -/

theorem bytes_effectOf (s : Settings) (runs : List Run) (os : List Outcome) :
    (List.zipWith (effectOf s) runs os).map Effect.bytes = List.zipWith block runs os := by
  rw [List.map_zipWith]
  rfl

theorem stream_take_effectOf (s : Settings) (runs : List Run) (os : List Outcome) (i : Nat) :
    stream ((List.zipWith (effectOf s) runs os).take i) =
      ((List.zipWith block runs os).take i).flatten := by
  unfold stream
  rw [List.flatMap_def, List.map_take, bytes_effectOf]

theorem stream_effectOf (s : Settings) (runs : List Run) (os : List Outcome) :
    stream (List.zipWith (effectOf s) runs os) = (List.zipWith block runs os).flatten := by
  unfold stream
  rw [List.flatMap_def, bytes_effectOf]

theorem stream_listing (runs : List Run) (state : σ) :
    stream (effects listing runs state) = runs.flatMap tagBytes := by
  rw [effects_listing, stream, List.flatMap_map]
  simp [Effect.bytes]

theorem failures_effectOf (s : Settings) {runs : List Run} {os : List Outcome}
    (length : os.length = runs.length) :
    (List.zipWith (effectOf s) runs os).countP Effect.isFailure =
      os.countP (!·.isSuccess) := by
  induction runs generalizing os with
  | nil =>
    rw [List.eq_nil_of_length_eq_zero length]
    rfl
  | cons run runs ih =>
    cases os with
    | nil => cases length
    | cons outcome os =>
      rw [List.zipWith_cons_cons, List.countP_cons, List.countP_cons, ih (Nat.succ.inj length)]
      rfl

theorem launches_effectOf (s : Settings) {runs : List Run} {os : List Outcome}
    (length : os.length = runs.length) :
    (List.zipWith (effectOf s) runs os).flatMap Effect.launches = runs.map (launchOf s) := by
  induction runs generalizing os with
  | nil => rfl
  | cons run runs ih =>
    cases os with
    | nil => cases length
    | cons outcome os => exact congrArg (launchOf s run :: ·) (ih (Nat.succ.inj length))

/-- A report about the whole changes nothing else. -/
theorem report_eq (p : Progress σ) (r : Report) :
    ∃ reports, p.report r = { p with reports } := by
  unfold Progress.report
  split
  · exact ⟨p.reports, rfl⟩
  · exact ⟨p.reports ++ [r], rfl⟩

theorem perform_eq (s : Settings) (plan : Plan) (launcher : Launcher σ) (sink : Sink)
    (state : σ) :
    ∃ reports, perform s plan launcher sink state =
      { along (fun i => performRun s launcher (i + 1) plan.len.toNat) 0 plan.runs sink state with
        reports } := by
  unfold perform
  rw [← follow_eq_along]
  exact report_eq _ _

theorem rehearse_eq (plan : Plan) (sink : Sink) (state : σ) :
    ∃ reports, rehearse plan sink state =
      { along (fun _ => listRun) 0 plan.runs sink state with reports } := by
  unfold rehearse
  rw [← follow_eq_along]
  exact report_eq _ _

/-- Listing runs launches nothing. -/
theorem launches_rehearse (plan : Plan) (sink : Sink) (state : σ) :
    (rehearse plan sink state).launches = [] ∧ (rehearse plan sink state).state = state := by
  obtain ⟨reports, eq⟩ := rehearse_eq plan sink state
  rw [eq]
  obtain ⟨k, -, -, launches⟩ := realises_listRun.launches_along 0 plan.runs sink state
  have none : (along (fun _ => listRun) 0 plan.runs sink state).launches = [] := by
    rw [launches, effects_listing, ← List.map_take, List.flatMap_map]
    simp
  let idle : Launcher σ := fun state _ => (.notStarted .missing, state)
  have after : (along (fun _ => listRun) 0 plan.runs sink state).state =
      stateAfter idle (along (fun _ => listRun) 0 plan.runs sink state).launches state :=
    state_along (fun _ _ _ _ => rfl) 0 plan.runs sink state
  rw [none] at after
  exact ⟨none, after⟩

/-- A sink takes as much of the stream as it would in one write. -/
theorem written_perform (s : Settings) (plan : Plan) (launcher : Launcher σ) (sink : Sink)
    (state : σ) :
    (perform s plan launcher sink state).written =
      (sink.write
        (List.zipWith block plan.runs (outcomes s launcher plan.runs state)).flatten).1 := by
  obtain ⟨reports, eq⟩ := perform_eq s plan launcher sink state
  have runs := (realises_performRun s launcher plan.len.toNat).written_along 0 plan.runs sink state
  rw [effects_performing, stream_effectOf] at runs
  rw [eq]
  exact runs.1

/-! ## A sink without a limit -/

/-- What it is to go through runs to their end: all of the stream is written, the sink did not
break, and all that was to be launched was. -/
structure Completes (stream : List UInt8) (launches : List Launch) (p : Progress σ) : Prop where
  written : p.written = stream
  isBroken : p.isBroken = false
  launches : p.launches = launches

theorem Realises.completes_along {act : Nat → Run → Sink → σ → Step σ}
    {doing : Run → σ → Effect × σ} (h : Realises act doing) (runs : List Run) (state : σ) :
    Completes (stream (effects doing runs state))
      ((effects doing runs state).flatMap Effect.launches) (along act 0 runs ⟨none⟩ state) := by
  obtain ⟨written, broken⟩ := h.written_along 0 runs ⟨none⟩ state
  obtain ⟨k, -, reaches, launches⟩ := h.launches_along 0 runs ⟨none⟩ state
  refine ⟨written, broken, ?_⟩
  -- There is room for every tag, so no run is left out.
  have all : (effects doing runs state).length ≤ k := by
    refine Nat.le_of_not_lt fun left => ?_
    exact Nat.lt_irrefl k ((reaches k _ (List.getElem?_eq_getElem left)).mpr nofun)
  rw [launches, List.take_of_length_le all]

theorem completes_perform (s : Settings) (plan : Plan) (launcher : Launcher σ) (state : σ) :
    Completes (List.zipWith block plan.runs (outcomes s launcher plan.runs state)).flatten
      (plan.runs.map (launchOf s)) (perform s plan launcher ⟨none⟩ state) := by
  obtain ⟨reports, eq⟩ := perform_eq s plan launcher ⟨none⟩ state
  have runs := (realises_performRun s launcher plan.len.toNat).completes_along plan.runs state
  rw [effects_performing, stream_effectOf, launches_effectOf s (length_outcomes ..)] at runs
  rw [eq]
  exact ⟨runs.written, runs.isBroken, runs.launches⟩

theorem completes_rehearse (plan : Plan) (state : σ) :
    Completes (plan.runs.flatMap tagBytes) [] (rehearse plan ⟨none⟩ state) := by
  obtain ⟨reports, eq⟩ := rehearse_eq plan ⟨none⟩ state
  have runs := realises_listRun.completes_along plan.runs state
  rw [stream_listing] at runs
  refine ⟨?_, ?_, (launches_rehearse plan ⟨none⟩ state).1⟩
  · rw [eq]
    exact runs.written
  · rw [eq]
    exact runs.isBroken

/-! ## A sink that breaks -/

/-- What it is for a sink with room for so many bytes to cut a stream off: it holds the
beginning of the stream, it broke if that is not all, and otherwise every run was counted. -/
structure Truncates (stream : List UInt8) (room runs failures : Nat) (p : Progress σ) :
    Prop where
  written : p.written = stream.take room
  isBroken_iff : p.isBroken = true ↔ room < stream.length
  counts : p.isBroken = false → p.dispatched = runs ∧ p.failed = failures

theorem Realises.truncates_along {act : Nat → Run → Sink → σ → Step σ}
    {doing : Run → σ → Effect × σ} (h : Realises act doing) (runs : List Run) (n : Nat)
    (state : σ) :
    Truncates (stream (effects doing runs state)) n runs.length
      ((effects doing runs state).countP Effect.isFailure) (along act 0 runs ⟨some n⟩ state) := by
  obtain ⟨written, broken⟩ := h.written_along 0 runs ⟨some n⟩ state
  have counts := h.counts_along 0 runs ⟨some n⟩ state
  refine ⟨?_, ?_, counts⟩
  · rw [written, Sink.write_limited_fst]
  · rw [broken, Sink.write_limited_isNone]

theorem truncates_perform (s : Settings) (plan : Plan) (launcher : Launcher σ) (state : σ)
    (n : Nat) :
    Truncates (List.zipWith block plan.runs (outcomes s launcher plan.runs state)).flatten n
      plan.runs.length ((outcomes s launcher plan.runs state).countP (!·.isSuccess))
      (perform s plan launcher ⟨some n⟩ state) := by
  obtain ⟨reports, eq⟩ := perform_eq s plan launcher ⟨some n⟩ state
  have runs := (realises_performRun s launcher plan.len.toNat).truncates_along plan.runs n state
  rw [effects_performing, stream_effectOf, failures_effectOf s (length_outcomes ..)] at runs
  rw [eq]
  exact ⟨runs.written, runs.isBroken_iff, runs.counts⟩

theorem truncates_rehearse (plan : Plan) (state : σ) (n : Nat) :
    Truncates (plan.runs.flatMap tagBytes) n plan.runs.length 0
      (rehearse plan ⟨some n⟩ state) := by
  obtain ⟨reports, eq⟩ := rehearse_eq plan ⟨some n⟩ state
  have runs := realises_listRun.truncates_along plan.runs n state
  have failures : (effects listing plan.runs state).countP Effect.isFailure = 0 := by
    rw [effects_listing, List.countP_map]
    simp
  rw [stream_listing, failures] at runs
  rw [eq]
  exact ⟨runs.written, runs.isBroken_iff, runs.counts⟩

/-- Which runs are launched: those for whose tags there is room. -/
theorem launches_perform (s : Settings) (plan : Plan) (launcher : Launcher σ) (state : σ)
    (n : Nat) :
    ∃ k ≤ plan.runs.length,
      (perform s plan launcher ⟨some n⟩ state).launches =
          (plan.runs.take k).map (launchOf s) ∧
        ∀ i run, plan.runs[i]? = some run →
          (i < k ↔
            ((List.zipWith block plan.runs
              (outcomes s launcher plan.runs state)).take i).flatten.length +
                (tagBytes run).length ≤ n) := by
  obtain ⟨reports, eq⟩ := perform_eq s plan launcher ⟨some n⟩ state
  have same := length_outcomes s launcher plan.runs state
  obtain ⟨k, le, reaches, launches⟩ :=
    (realises_performRun s launcher plan.len.toNat).launches_along 0 plan.runs ⟨some n⟩ state
  rw [effects_performing] at reaches launches
  refine ⟨k, le, ?_, fun i run found => ?_⟩
  · rw [eq]
    show (along _ 0 plan.runs ⟨some n⟩ state).launches = _
    rw [launches, List.take_zipWith]
    exact launches_effectOf s (by rw [List.length_take, List.length_take, same])
  · obtain ⟨inside, rfl⟩ := List.getElem?_eq_some_iff.mp found
    have outcome := List.getElem?_eq_getElem (same.symm ▸ inside)
    have effect : (List.zipWith (effectOf s) plan.runs
        (outcomes s launcher plan.runs state))[i]? =
          some (effectOf s plan.runs[i] ((outcomes s launcher plan.runs state)[i])) := by
      rw [List.getElem?_zipWith, found, outcome]
    rw [reaches i _ effect, Sink.holds_limited_iff, stream_take_effectOf]
    rfl

theorem state_perform (s : Settings) (plan : Plan) (launcher : Launcher σ) (sink : Sink)
    (state : σ) :
    (perform s plan launcher sink state).state =
      stateAfter launcher (perform s plan launcher sink state).launches state := by
  obtain ⟨reports, eq⟩ := perform_eq s plan launcher sink state
  rw [eq]
  refine state_along (fun i run sink state => ?_) 0 plan.runs sink state
  unfold performRun listRun
  cases tag : (sink.write (tagBytes run)).2 with
  | none => simp [tag, stateAfter]
  | some next => simp [tag, launchRun, stateAfter]

/-- **A sink that breaks only cuts the stream off.**  The stream is an empty line, the tag line and
the output of each run.  A sink for `n` bytes ends up with the first `n` bytes of it, it breaks exactly if the stream is longer, and otherwise all runs are
counted, and those that did not succeed.  A run is launched exactly if its whole tag has room
behind what the runs before it write, once and with the arguments of its tag, and none is after
the one that broke the sink.  Listing the runs does the same to the stream of their tags, and
launches nothing. -/
theorem perform_truncates (s : Settings) (plan : Plan) (launcher : Launcher σ) (state : σ)
    (n : Nat) :
    let tag := fun run : Run => Text.utf8 ('\n' :: (Tag.ofRun run).line ++ ['\n'])
    let outcomes := outcomes s launcher plan.runs state
    let blocks := List.zipWith (fun run outcome => tag run ++ outcome.output) plan.runs outcomes
    let p := perform s plan launcher ⟨some n⟩ state
    let listed := rehearse plan ⟨some n⟩ state
    Truncates blocks.flatten n plan.runs.length (outcomes.countP (!·.isSuccess)) p ∧
      (∃ k ≤ plan.runs.length,
        p.launches = ((plan.runs.take k).map fun run =>
          ⟨s.runnerOf run.driver,
            [ "--nodes", s.nodesFor run.driver,
              "--workload", (Tag.ofRun run).workload.name,
              "--concurrency", toString (Tag.ofRun run).concurrency.toNat,
              "--tasks", toString (Tag.ofRun run).tasks.toNat ]⟩) ∧
        (∀ i run, plan.runs[i]? = some run →
          (i < k ↔ (blocks.take i).flatten.length + (tag run).length ≤ n)) ∧
        ∀ i, n < (blocks.take (i + 1)).flatten.length → k ≤ i + 1) ∧
      p.state = stateAfter launcher p.launches state ∧
      Truncates (plan.runs.flatMap tag) n plan.runs.length 0 listed ∧
      listed.launches = [] ∧ listed.state = state := by
  intro tag outcomes blocks p listed
  obtain ⟨k, le, launches, room⟩ := launches_perform s plan launcher state n
  refine ⟨truncates_perform s plan launcher state n, ⟨k, le, launches, room, fun i broken => ?_⟩,
    state_perform s plan launcher ⟨some n⟩ state, truncates_rehearse plan state n,
    launches_rehearse plan ⟨some n⟩ state⟩
  -- A run behind the break would need more room than there was.
  refine Nat.le_of_not_lt fun later => ?_
  have inside : i + 1 < plan.runs.length := Nat.lt_of_lt_of_le later le
  have fits := (room (i + 1) plan.runs[i + 1] (List.getElem?_eq_getElem inside)).mp later
  exact absurd broken (Nat.not_lt_of_le (Nat.le_trans (Nat.le_add_right _ _) fits))

end Dispatch

end BenchCampaign
