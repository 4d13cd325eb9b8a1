import BenchCampaign.Log.Reconciliation

/-!
# Fates, sorted

A reconciliation is the list of the fates of a log's tags, sorted into three lists; nothing of
that list is lost, and each list keeps its order.

* `Log.Reconciliation.ofSegments_eq`: only the fates of the segments matter.
* `Log.Reconciliation.ofFates_eq`: the three lists of some fates.
* `Log.Reconciliation.isComplete_ofFates`: when all fates are records.
* `Log.reconcile_eq`: the three lists of a log.
-/

namespace BenchCampaign

namespace Log

namespace Fate

/-- The record of a fate that is one. -/
def completed? : Fate → Option Record
  | .completed record => some record
  | _ => none

/-- The tag of a run without a time. -/
def missing? : Fate → Option Tag
  | .missing tag => some tag
  | _ => none

/-- The fault of a fate that is one. -/
def fault? : Fate → Option Fault
  | .faulty fault => some fault
  | _ => none

end Fate

namespace Reconciliation

/-- Sorts fates. -/
def ofFates (fates : List Fate) : Reconciliation := fates.foldr cons empty

/-- A reconciliation sorts the fates of its segments. -/
theorem ofSegments_eq (segments : List Segment) :
    ofSegments segments = ofFates (segments.map Segment.fate) := by
  unfold ofSegments ofFates
  rw [List.foldr_map]

/-- Each fate is in the list of its kind, and in no other one. -/
theorem ofFates_eq (fates : List Fate) :
    ofFates fates =
      ⟨fates.filterMap Fate.completed?, fates.filterMap Fate.missing?,
        fates.filterMap Fate.fault?⟩ := by
  induction fates with
  | nil => rfl
  | cons f fates ih =>
    have step : ofFates (f :: fates) = cons f (ofFates fates) := rfl
    rw [step, ih]
    cases f <;> rfl

/-- Every run reported a time exactly if all fates are records. -/
theorem isComplete_ofFates (fates : List Fate) :
    (ofFates fates).isComplete = true ↔ ∀ f ∈ fates, ∃ record, f = .completed record := by
  have single (f : Fate) :
      (f.missing? = none ∧ f.fault? = none) ↔ ∃ record, f = .completed record := by
    cases f <;> simp [Fate.missing?, Fate.fault?]
  rw [ofFates_eq]
  unfold isComplete
  simp only [Bool.and_eq_true, List.isEmpty_iff, List.filterMap_eq_nil_iff, ← single]
  exact ⟨fun none f member => ⟨none.1 f member, none.2 f member⟩,
    fun none => ⟨fun f member => (none f member).1, fun f member => (none f member).2⟩⟩

end Reconciliation

/-- Each list of a reconciliation holds the fates of its kind, in the order of the segments. -/
theorem reconcile_eq (text : List Char) :
    reconcile text =
      ⟨(segments text).filterMap (Fate.completed? ∘ Segment.fate),
        (segments text).filterMap (Fate.missing? ∘ Segment.fate),
        (segments text).filterMap (Fate.fault? ∘ Segment.fate)⟩ := by
  unfold reconcile
  rw [Reconciliation.ofSegments_eq, Reconciliation.ofFates_eq, List.filterMap_map,
    List.filterMap_map, List.filterMap_map]

end Log

end BenchCampaign
