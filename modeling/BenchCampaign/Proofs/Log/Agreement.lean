import BenchCampaign.Proofs.Log.Fates
import Mathlib.Data.List.Basic

/-!
# Three readings of a log

A log is read segment by segment, or as a whole that the first fault spoils, or it is reconciled
with its tags.  Only a reconciliation tells of segments without a time; all that the other two
readings tell is told by it as well.

* `completed?_fate`, `fault?_fate_of_timed`, `fault?_fate_of_untimed`: the fate of a segment, with
  and without a time.
* `allOrFirstFault_eq`: what the first fault spoils.
* `length_lists`: each segment is counted once.
* `Agreement`, `agreement`: how the three readings of a log go together.
-/

namespace BenchCampaign

namespace Log

/-! ## Results -/

/-- The fault of a result that is one. -/
def resultFault? : Except Fault Record → Option Fault
  | .error fault => some fault
  | .ok _ => none

/-- The faults among what the segments of a text report. -/
def readFaults (text : List Char) : List Fault := (read text).filterMap resultFault?

/-- The first fault spoils all records, those in front of it, too. -/
theorem allOrFirstFault_eq (results : List (Except Fault Record)) :
    allOrFirstFault results =
      match results.filterMap resultFault? with
      | [] => .ok (results.filterMap Except.toOption)
      | fault :: _ => .error fault := by
  induction results with
  | nil => rfl
  | cons result results ih =>
    cases result with
    | error fault => rfl
    | ok record =>
      have none : resultFault? (.ok record) = none := rfl
      rw [allOrFirstFault, ih, List.filterMap_cons_none none]
      cases results.filterMap resultFault? with
      | nil => rfl
      | cons fault faults => rfl

/-! ## One segment -/

namespace Segment

variable {s : Segment}

theorem record?_of_untimed (untimed : s.timeToken? = none) : s.record? = none := by
  unfold record?
  rw [untimed, Option.map_none]

/-- The records of both readings are the same. -/
theorem completed?_fate (s : Segment) : s.fate.completed? = s.record?.bind Except.toOption := by
  unfold fate
  cases s.record? with
  | some result => cases result <;> rfl
  | none => cases s.readTag <;> rfl

/-- A segment with a time comes to what it reports. -/
theorem fault?_fate_of_timed (timed : s.timeToken?.isSome = true) :
    s.fate.fault? = s.record?.bind resultFault? := by
  obtain ⟨token, found⟩ := Option.isSome_iff_exists.mp timed
  unfold fate record?
  rw [found, Option.map_some]
  cases s.recordAt token <;> rfl

/-- A segment without a time can only have a tag that cannot be read for a fault. -/
theorem fault?_fate_of_untimed (untimed : s.timeToken? = none) {fault : Fault}
    (faulty : s.fate.fault? = some fault) : fault = .malformedTag s.rawTag := by
  unfold fate at faulty
  rw [record?_of_untimed untimed] at faulty
  dsimp only at faulty
  unfold readTag at faulty
  cases read : Tag.read? s.rawTag with
  | some tag =>
    rw [read] at faulty
    cases faulty
  | none =>
    rw [read] at faulty
    cases faulty
    rfl

end Segment

/-! ## The three lists -/

/-- A fate is of one kind. -/
theorem Fate.kinds (f : Fate) :
    f.completed?.toList.length + f.missing?.toList.length + f.fault?.toList.length = 1 := by
  cases f <;> rfl

theorem length_filterMap_cons {α β : Type} (f : α → Option β) (a : α) (l : List α) :
    ((a :: l).filterMap f).length = (f a).toList.length + (l.filterMap f).length := by
  rw [List.filterMap_eq_flatMap_toList, List.flatMap_cons, List.length_append,
    ← List.filterMap_eq_flatMap_toList]

/-- Each fate is counted once. -/
theorem length_kinds (fates : List Fate) :
    (fates.filterMap Fate.completed?).length + (fates.filterMap Fate.missing?).length +
      (fates.filterMap Fate.fault?).length = fates.length := by
  induction fates with
  | nil => rfl
  | cons f fates ih =>
    have one := f.kinds
    rw [length_filterMap_cons, length_filterMap_cons, length_filterMap_cons, List.length_cons]
    omega

/-! ## Whole logs -/

variable (text : List Char)

/-- Each segment is in one list of a reconciliation. -/
theorem length_lists :
    (reconcile text).completed.length + (reconcile text).missing.length +
      (reconcile text).faults.length = (segments text).length := by
  have counted := length_kinds ((segments text).map Segment.fate)
  rw [List.filterMap_map, List.filterMap_map, List.filterMap_map, List.length_map] at counted
  rw [reconcile_eq]
  exact counted

/-- The records that are read are those of a reconciliation. -/
theorem completed_eq : (reconcile text).completed = (read text).filterMap Except.toOption := by
  rw [reconcile_eq, read, List.filterMap_filterMap]
  exact List.filterMap_congr fun s _ => s.completed?_fate

/-- The faults that are read are those of the segments with a time. -/
theorem readFaults_eq :
    readFaults text =
      ((segments text).filter fun s => s.timeToken?.isSome).filterMap fun s => s.fate.fault? := by
  rw [readFaults, read, List.filterMap_filterMap, List.filterMap_filter]
  apply List.filterMap_congr
  intro s _
  split
  · next timed => exact (Segment.fault?_fate_of_timed timed).symm
  · next untimed =>
    rw [Segment.record?_of_untimed (by simpa using untimed)]
    rfl

theorem readAll_eq :
    readAll text =
      match readFaults text with
      | [] => .ok (reconcile text).completed
      | fault :: _ => .error fault := by
  rw [readAll, allOrFirstFault_eq, completed_eq]
  rfl

theorem isComplete_iff :
    (reconcile text).isComplete = true ↔
      (reconcile text).missing = [] ∧ (reconcile text).faults = [] := by
  unfold Reconciliation.isComplete
  rw [Bool.and_eq_true, List.isEmpty_iff, List.isEmpty_iff]

theorem readFaults_of_complete (complete : (reconcile text).isComplete = true) :
    readFaults text = [] := by
  obtain ⟨-, none⟩ := (isComplete_iff text).mp complete
  rw [reconcile_eq, List.filterMap_eq_nil_iff] at none
  rw [readFaults_eq, List.filterMap_eq_nil_iff]
  intro s member
  exact none s (List.mem_of_mem_filter member)

/-- How the three readings of a log go together. -/
structure Agreement : Prop where
  /-- Each segment is counted in one list of a reconciliation. -/
  count : (reconcile text).completed.length + (reconcile text).missing.length +
    (reconcile text).faults.length = (segments text).length
  /-- A fate is of one kind, and each list has those of its kind in the order of the segments. -/
  lists : (∀ s ∈ segments text, s.fate.completed?.toList.length + s.fate.missing?.toList.length +
      s.fate.fault?.toList.length = 1) ∧
    (reconcile text).completed = (segments text).filterMap (fun s => s.fate.completed?) ∧
    (reconcile text).missing = (segments text).filterMap (fun s => s.fate.missing?) ∧
    (reconcile text).faults = (segments text).filterMap (fun s => s.fate.fault?)
  /-- The records that are read segment by segment are those of a reconciliation. -/
  records : (reconcile text).completed = (read text).filterMap Except.toOption
  /-- The faults that are read are those of the segments with a time. -/
  faults : readFaults text =
    ((segments text).filter fun s => s.timeToken?.isSome).filterMap fun s => s.fate.fault?
  /-- All other faults are about the tags of segments without a time. -/
  otherFaults : ∀ s ∈ segments text, s.timeToken? = none →
    ∀ fault, s.fate.fault? = some fault → fault = .malformedTag s.rawTag
  /-- A log is read as a whole if none of its segments has a fault to tell. -/
  readAll_ok : ∀ rs, readAll text = .ok rs ↔ readFaults text = [] ∧ rs = (reconcile text).completed
  /-- Otherwise, the first of these faults is told. -/
  readAll_error : ∀ fault, readAll text = .error fault ↔ (readFaults text).head? = some fault
  /-- Every run reported a time if there are as many records as segments. -/
  complete : (reconcile text).isComplete = true ↔
    ∃ rs, readAll text = .ok rs ∧ rs.length = (segments text).length

theorem agreement : Agreement text where
  count := length_lists text
  lists := by
    rw [reconcile_eq]
    exact ⟨fun s _ => s.fate.kinds, rfl, rfl, rfl⟩
  records := completed_eq text
  faults := readFaults_eq text
  otherFaults s _ untimed _ faulty := Segment.fault?_fate_of_untimed untimed faulty
  readAll_ok rs := by
    rw [readAll_eq]
    cases readFaults text with
    | nil => simp [eq_comm]
    | cons fault faults => simp
  readAll_error fault := by
    rw [readAll_eq]
    cases readFaults text with
    | nil => simp
    | cons first faults => simp
  complete := by
    have counted := length_lists text
    rw [readAll_eq]
    constructor
    · intro complete
      obtain ⟨noneMissing, noneFaulty⟩ := (isComplete_iff text).mp complete
      rw [readFaults_of_complete text complete]
      rw [noneMissing, noneFaulty, List.length_nil] at counted
      exact ⟨_, rfl, counted⟩
    · rintro ⟨rs, ok, length⟩
      cases told : readFaults text with
      | cons fault faults =>
        rw [told] at ok
        cases ok
      | nil =>
        rw [told] at ok
        cases ok
        refine (isComplete_iff text).mpr ⟨List.eq_nil_of_length_eq_zero ?_,
          List.eq_nil_of_length_eq_zero ?_⟩ <;> omega

end Log

end BenchCampaign
