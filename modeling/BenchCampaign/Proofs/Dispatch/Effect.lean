import BenchCampaign.Proofs.Dispatch.Sink
import BenchCampaign.Proofs.Plan.Runs

/-!
# Effects of runs

Both ways to go through a plan are one: each run has a tag that is written first, perhaps a
launch behind it, and output that is written after that.  Whatever the sink is, all runs together
write to it as much as one write of all their bytes would.

* `Dispatch.follow_eq_along`: a plan is gone through run by run.
* `Dispatch.Reaches`: for how many tags a sink has room.
* `Dispatch.Realises`: an action does to every sink what an effect says.
* `Dispatch.Realises.along_cons_cases`: what the first of some runs does.
* `Dispatch.Realises.written_along`, `Dispatch.Realises.counts_along`,
  `Dispatch.Realises.launches_along`: what all of them do.
-/

namespace BenchCampaign

namespace Dispatch

open Progress

variable {σ : Type}

/-! ## Going through runs -/

/-- Goes through some runs, until the sink breaks. -/
def along (act : Nat → Run → Sink → σ → Step σ) : Nat → List Run → Sink → σ → Progress σ
  | _, [], _, state => nothing state
  | start, run :: runs, sink, state =>
    let step := act start run sink state
    match step.next with
    | none => ofBroken step
    | some sink => cons step (along act (start + 1) runs sink step.state)

variable {act : Nat → Run → Sink → σ → Step σ} {start : Nat} {run : Run} {runs : List Run}
  {sink next : Sink} {state : σ}

theorem along_cons_of_broken (broken : (act start run sink state).next = none) :
    along act start (run :: runs) sink state = ofBroken (act start run sink state) := by
  rw [along, broken]

theorem along_cons_of_intact (intact : (act start run sink state).next = some next) :
    along act start (run :: runs) sink state =
      cons (act start run sink state)
        (along act (start + 1) runs next (act start run sink state).state) := by
  rw [along, intact]

/-- Finding the runs of a plan one by one is going through their list. -/
theorem follow_eq_along_drop (plan : Plan) (count start : Nat) (sink : Sink) (state : σ) :
    follow plan act count start sink state =
      along act start ((plan.runs.drop start).take count) sink state := by
  induction count generalizing start sink state with
  | zero => rfl
  | succ count ih =>
    rw [follow, plan.run?_eq_getElem?]
    cases found : plan.runs[start]? with
    | none =>
      rw [List.drop_eq_nil_of_le (List.getElem?_eq_none_iff.mp found), List.take_nil]
      rfl
    | some run =>
      obtain ⟨inside, rfl⟩ := List.getElem?_eq_some_iff.mp found
      rw [List.drop_eq_getElem_cons inside, List.take_succ_cons]
      dsimp only
      cases step : (act start plan.runs[start] sink state).next with
      | none => rw [along_cons_of_broken step]
      | some next =>
        rw [along_cons_of_intact step, ← ih]

/-- A plan is gone through run by run. -/
theorem follow_eq_along (plan : Plan) (sink : Sink) (state : σ) :
    follow plan act plan.size 0 sink state = along act 0 plan.runs sink state := by
  rw [follow_eq_along_drop, List.drop_zero,
    List.take_of_length_le (Nat.le_of_eq plan.length_runs)]

/-! ## Effects -/

/-- What a run does on a sink without a limit. -/
structure Effect where
  tag : List UInt8
  /-- What is launched once the tag is written. -/
  launches : List Launch
  output : List UInt8
  isFailure : Bool

/-- All that a run writes. -/
def Effect.bytes (e : Effect) : List UInt8 := e.tag ++ e.output

/-- What some runs do, one after the other. -/
def effects (doing : Run → σ → Effect × σ) : List Run → σ → List Effect
  | [], _ => []
  | run :: runs, state => (doing run state).1 :: effects doing runs (doing run state).2

/-- All that some runs write. -/
def stream (es : List Effect) : List UInt8 := es.flatMap Effect.bytes

/-- A sink that has no room for a tag has none for what comes with it. -/
theorem Effect.refused_of_tag {e : Effect} (tag : (sink.write e.tag).2 = none) :
    (sink.write e.bytes).2 = none := by
  rw [bytes, Sink.write_append_of_refused tag, tag]

theorem Effect.tag_taken {e : Effect} (taken : (sink.write e.bytes).2 = some next) :
    ∃ between, (sink.write e.tag).2 = some between := by
  cases tag : (sink.write e.tag).2 with
  | some between => exact ⟨between, rfl⟩
  | none =>
    rw [refused_of_tag tag] at taken
    cases taken

/-! ## How far a sink reaches -/

/-- The first `k` runs are those for whose tags a sink has room, behind all that the runs before
them write. -/
def Reaches (sink : Sink) (es : List Effect) (k : Nat) : Prop :=
  ∀ i e, es[i]? = some e → (i < k ↔ sink.Holds ((stream (es.take i)).length + e.tag.length))

section Reach

variable {e : Effect} {es : List Effect}

theorem reaches_nil (sink : Sink) : Reaches sink [] 0 :=
  fun _ _ found => by cases found

theorem length_stream_take_succ (e : Effect) (es : List Effect) (i : Nat) :
    (stream ((e :: es).take (i + 1))).length = e.bytes.length + (stream (es.take i)).length := by
  rw [List.take_succ_cons, stream, List.flatMap_cons, List.length_append]
  rfl

/-- Behind a run that broke the sink there is no room for another tag. -/
theorem not_holds_behind (refused : (sink.write e.bytes).2 = none) (i count : Nat) :
    ¬ sink.Holds ((stream ((e :: es).take (i + 1))).length + count) := by
  intro holds
  rw [length_stream_take_succ] at holds
  exact Sink.not_holds_of_refused refused (holds.of_le (by omega))

theorem reaches_of_tag_refused (tag : (sink.write e.tag).2 = none) :
    Reaches sink (e :: es) 0 := by
  intro i other found
  refine iff_of_false (Nat.not_lt_zero i) ?_
  cases i with
  | zero =>
    cases found
    exact fun holds => Sink.not_holds_of_refused tag (holds.of_le (Nat.le_add_left _ _))
  | succ i => exact not_holds_behind (Effect.refused_of_tag tag) i _

theorem reaches_of_refused {between : Sink} (tag : (sink.write e.tag).2 = some between)
    (refused : (sink.write e.bytes).2 = none) : Reaches sink (e :: es) 1 := by
  intro i other found
  cases i with
  | zero =>
    cases found
    have fits := Sink.holds_of_taken tag
    exact iff_of_true Nat.zero_lt_one (fits.of_le (Nat.le_of_eq (Nat.zero_add _)))
  | succ i => exact iff_of_false (by omega) (not_holds_behind refused i _)

theorem reaches_cons (taken : (sink.write e.bytes).2 = some next) {k : Nat}
    (reaches : Reaches next es k) : Reaches sink (e :: es) (k + 1) := by
  intro i other found
  cases i with
  | zero =>
    cases found
    obtain ⟨between, tag⟩ := Effect.tag_taken taken
    have fits := Sink.holds_of_taken tag
    exact iff_of_true (Nat.succ_pos k) (fits.of_le (Nat.le_of_eq (Nat.zero_add _)))
  | succ i =>
    rw [Nat.succ_lt_succ_iff, reaches i other found, Sink.holds_next_iff taken,
      length_stream_take_succ, Nat.add_assoc]

end Reach

/-! ## Actions with an effect -/

/-- An action does to every sink what an effect says, as far as the sink lets it. -/
structure Realises (act : Nat → Run → Sink → σ → Step σ) (doing : Run → σ → Effect × σ) :
    Prop where
  writes : ∀ i run sink state,
    ((act i run sink state).written, (act i run sink state).next) =
      sink.write (doing run state).1.bytes
  /-- Nothing is launched before its tag is written. -/
  waits : ∀ i run sink state, (sink.write (doing run state).1.tag).2 = none →
    (act i run sink state).launches = []
  starts : ∀ i run sink state next, (sink.write (doing run state).1.tag).2 = some next →
    (act i run sink state).launches = (doing run state).1.launches ∧
      (act i run sink state).isFailure = (doing run state).1.isFailure ∧
      (act i run sink state).state = (doing run state).2

namespace Realises

variable {doing : Run → σ → Effect × σ}

theorem written (h : Realises act doing) (i : Nat) (run : Run) (sink : Sink) (state : σ) :
    (act i run sink state).written = (sink.write (doing run state).1.bytes).1 :=
  congrArg Prod.fst (h.writes i run sink state)

theorem next_eq (h : Realises act doing) (i : Nat) (run : Run) (sink : Sink) (state : σ) :
    (act i run sink state).next = (sink.write (doing run state).1.bytes).2 :=
  congrArg Prod.snd (h.writes i run sink state)

/-- The first run breaks the sink, or does all that its effect says and leaves the rest to the
runs behind it. -/
theorem along_cons_cases (h : Realises act doing) (start : Nat) (run : Run) (runs : List Run)
    (sink : Sink) (state : σ) :
    ((sink.write (doing run state).1.bytes).2 = none ∧
      along act start (run :: runs) sink state = ofBroken (act start run sink state)) ∨
    ∃ next, (sink.write (doing run state).1.bytes).2 = some next ∧
      (act start run sink state).launches = (doing run state).1.launches ∧
      (act start run sink state).isFailure = (doing run state).1.isFailure ∧
      along act start (run :: runs) sink state =
        cons (act start run sink state)
          (along act (start + 1) runs next (doing run state).2) := by
  have step := h.next_eq start run sink state
  cases taken : (sink.write (doing run state).1.bytes).2 with
  | none =>
    rw [taken] at step
    exact Or.inl ⟨rfl, along_cons_of_broken step⟩
  | some next =>
    rw [taken] at step
    obtain ⟨between, tag⟩ := Effect.tag_taken taken
    obtain ⟨launches, failure, after⟩ := h.starts start run sink state between tag
    refine Or.inr ⟨next, rfl, launches, failure, ?_⟩
    rw [along_cons_of_intact step, after]

/-- All runs together write as one write of all their bytes does. -/
theorem written_along (h : Realises act doing) (start : Nat) (runs : List Run) (sink : Sink)
    (state : σ) :
    (along act start runs sink state).written =
        (sink.write (stream (effects doing runs state))).1 ∧
      (along act start runs sink state).isBroken =
        (sink.write (stream (effects doing runs state))).2.isNone := by
  induction runs generalizing start sink state with
  | nil =>
    rw [effects, stream, List.flatMap_nil, Sink.write_nil]
    exact ⟨rfl, rfl⟩
  | cons run runs ih =>
    have parts : stream (effects doing (run :: runs) state) =
        (doing run state).1.bytes ++ stream (effects doing runs (doing run state).2) := rfl
    have first := h.written start run sink state
    rw [parts]
    rcases h.along_cons_cases start run runs sink state with
      ⟨refused, eq⟩ | ⟨next, taken, -, -, eq⟩
    · rw [eq, Sink.write_append_of_refused refused, refused]
      exact ⟨first, rfl⟩
    · obtain ⟨rest, broken⟩ := ih (start + 1) next (doing run state).2
      rw [Sink.write_fst_of_taken taken] at first
      rw [eq, Sink.write_append_of_taken taken]
      refine ⟨?_, broken⟩
      show (act start run sink state).written ++ _ = _
      rw [first, rest]

/-- Unless the sink breaks, every run is gone through to its end. -/
theorem counts_along (h : Realises act doing) (start : Nat) (runs : List Run) (sink : Sink)
    (state : σ) (intact : (along act start runs sink state).isBroken = false) :
    (along act start runs sink state).dispatched = runs.length ∧
      (along act start runs sink state).failed =
        (effects doing runs state).countP Effect.isFailure := by
  induction runs generalizing start sink state with
  | nil => exact ⟨rfl, rfl⟩
  | cons run runs ih =>
    rcases h.along_cons_cases start run runs sink state with
      ⟨-, eq⟩ | ⟨next, -, -, failure, eq⟩
    · rw [eq] at intact
      cases intact
    · rw [eq] at intact ⊢
      obtain ⟨dispatched, failed⟩ := ih (start + 1) next (doing run state).2 intact
      refine ⟨?_, ?_⟩
      · show _ + 1 = _
        rw [dispatched, List.length_cons]
      · show _ + (if (act start run sink state).isFailure then 1 else 0) = _
        rw [failed, failure, effects, List.countP_cons]

/-- The launches are those of the runs whose tags the sink reaches. -/
theorem launches_along (h : Realises act doing) (start : Nat) (runs : List Run) (sink : Sink)
    (state : σ) :
    ∃ k ≤ runs.length, Reaches sink (effects doing runs state) k ∧
      (along act start runs sink state).launches =
        ((effects doing runs state).take k).flatMap Effect.launches := by
  induction runs generalizing start sink state with
  | nil => exact ⟨0, Nat.le_refl 0, reaches_nil sink, rfl⟩
  | cons run runs ih =>
    rcases h.along_cons_cases start run runs sink state with
      ⟨refused, eq⟩ | ⟨next, taken, launches, -, eq⟩
    · rw [eq]
      cases tag : (sink.write (doing run state).1.tag).2 with
      | none =>
        exact ⟨0, Nat.zero_le _, reaches_of_tag_refused tag, h.waits start run sink state tag⟩
      | some between =>
        obtain ⟨launches, -, -⟩ := h.starts start run sink state between tag
        refine ⟨1, Nat.succ_le_succ (Nat.zero_le _), reaches_of_refused tag refused, ?_⟩
        show (act start run sink state).launches = _
        rw [launches, effects, List.take_succ_cons, List.take_zero, List.flatMap_singleton]
    · obtain ⟨k, le, reaches, rest⟩ := ih (start + 1) next (doing run state).2
      rw [eq]
      refine ⟨k + 1, Nat.succ_le_succ le, reaches_cons taken reaches, ?_⟩
      show (act start run sink state).launches ++ _ = _
      rw [launches, rest, effects, List.take_succ_cons, List.flatMap_cons]

end Realises

/-! ## The state of a launcher -/

/-- The state of a launcher after some launches. -/
def stateAfter (launcher : Launcher σ) (launches : List Launch) (state : σ) : σ :=
  launches.foldl (fun state launch => (launcher state launch).2) state

/-- If each run leaves the state that its launches lead to, so do all runs. -/
theorem state_along {launcher : Launcher σ}
    (each : ∀ i run sink state, (act i run sink state).state =
      stateAfter launcher (act i run sink state).launches state)
    (start : Nat) (runs : List Run) (sink : Sink) (state : σ) :
    (along act start runs sink state).state =
      stateAfter launcher (along act start runs sink state).launches state := by
  induction runs generalizing start sink state with
  | nil => rfl
  | cons run runs ih =>
    have first := each start run sink state
    cases step : (act start run sink state).next with
    | none =>
      rw [along_cons_of_broken step]
      exact first
    | some next =>
      rw [along_cons_of_intact step]
      show (along act (start + 1) runs next _).state =
        stateAfter launcher ((act start run sink state).launches ++ _) state
      rw [ih, stateAfter, stateAfter, List.foldl_append, first]
      rfl

end Dispatch

end BenchCampaign
