import BenchCampaign.ResultSet
import Mathlib.Algebra.Order.BigOperators.Group.List
import Mathlib.Algebra.Order.Ring.Nat
import Mathlib.Data.List.Induction

/-!
# The mean time of every driver

The means of a selection are computed in two passes: the records that the selection accepts are
put into groups by driver, and then the groups are taken out one by one, in the order in which
the drivers first come.  Every group is there when it is asked for, and each is asked for once, so
each record counts once, and for its own driver only.

* `get?_groupByDriver`: the group of a driver.
* `foldl_takeMean`: groups that are taken out one by one.
* `ResultSet.ofRecords_means`: the means of a selection.
-/

namespace BenchCampaign

/-! ## First occurrences -/

/-- Without repetitions, entries stand in the order in which they first come. -/
theorem pairwise_idxOf_eraseDups {α : Type} [DecidableEq α] (l : List α) :
    l.eraseDups.Pairwise fun a b => l.idxOf a < l.idxOf b := by
  induction l using List.reverseRecOn with
  | nil => exact .nil
  | append_singleton l x ih =>
    have before (a : α) (listed : a ∈ l.eraseDups) : (l ++ [x]).idxOf a = l.idxOf a :=
      List.idxOf_append_of_mem (List.mem_eraseDups.1 listed)
    have ordered : l.eraseDups.Pairwise fun a b => (l ++ [x]).idxOf a < (l ++ [x]).idxOf b := by
      refine ih.imp_of_mem fun {a b} listed listed' less => ?_
      rwa [before a listed, before b listed']
    rw [List.eraseDups_append]
    by_cases known : x ∈ l
    · have nothing : [x].removeAll l = [] := by simp [List.removeAll, known]
      rw [nothing, List.eraseDups_nil, List.append_nil]
      exact ordered
    · have last : [x].removeAll l = [x] := by simp [List.removeAll, known]
      rw [last]
      refine List.pairwise_append.2 ⟨ordered, List.pairwise_singleton _ _, ?_⟩
      intro a listed b isLast
      obtain rfl := List.mem_singleton.1 isLast
      rw [before a listed, List.idxOf_append_of_notMem known]
      exact Nat.lt_add_right _ (List.idxOf_lt_length_of_mem (List.mem_eraseDups.1 listed))

/-- Without repetitions, an entry stands once. -/
theorem nodup_eraseDups {α : Type} [DecidableEq α] (l : List α) : l.eraseDups.Nodup := by
  refine (pairwise_idxOf_eraseDups l).imp ?_
  rintro a _ less rfl
  exact Nat.lt_irrefl _ less

namespace ResultSet

/-! ## Groups -/

/-- The records of a driver. -/
def runsOf (driver : String) (records : List Record) : List Record :=
  records.filter fun r => r.tag.driver = driver

/-- The times of some records, added up. -/
def totalTime (runs : List Record) : ℕ := (runs.map fun r => r.time.toNat).sum

theorem totalTime_perm {runs runs' : List Record} (reordered : runs.Perm runs') :
    totalTime runs = totalTime runs' :=
  (reordered.map _).sum_eq

theorem totalTime_runsOf_le (driver : String) (records : List Record) :
    totalTime (runsOf driver records) ≤ totalTime records :=
  (List.filter_sublist.map _).sum_le_sum fun _ _ => Nat.zero_le _

theorem runsOf_append_singleton (driver : String) (records : List Record) (r : Record) :
    runsOf driver (records ++ [r]) =
      if driver = r.tag.driver then runsOf driver records ++ [r] else runsOf driver records := by
  rw [runsOf, List.filter_append]
  by_cases same : driver = r.tag.driver
  · rw [if_pos same, List.filter_cons_of_pos (by simp [same]), List.filter_nil, runsOf]
  · have different : r.tag.driver ≠ driver := fun eq => same eq.symm
    rw [if_neg same, List.filter_cons_of_neg (by simp [different]), List.filter_nil,
      List.append_nil, runsOf]

theorem runsOf_eq_nil_iff {driver : String} {records : List Record} :
    runsOf driver records = [] ↔ driver ∉ records.map fun r => r.tag.driver := by
  simp [runsOf, List.filter_eq_nil_iff]

/-- The group of a driver has all of its records, and there is none without a record. -/
theorem get?_groupByDriver (records : List Record) (driver : String) :
    (groupByDriver records).get? driver =
      if runsOf driver records = [] then none else some (runsOf driver records) := by
  induction records using List.reverseRecOn with
  | nil => rfl
  | append_singleton records r ih =>
    have step : groupByDriver (records ++ [r]) = addToGroup (groupByDriver records) r := by
      rw [groupByDriver, List.foldl_append]
      rfl
    -- the last record joins the group of its driver and leaves the others alone
    rw [step, addToGroup, NameTable.get?_insert, runsOf_append_singleton]
    by_cases same : driver = r.tag.driver
    · have before : ((groupByDriver records).get? driver).getD [] = runsOf driver records := by
        rw [ih]
        split
        next none => exact none.symm
        next => rfl
      have nonempty : runsOf driver records ++ [r] ≠ [] :=
        List.append_ne_nil_of_right_ne_nil _ (List.cons_ne_nil r [])
      rw [if_pos same, if_pos same, if_neg nonempty, ← same, before]
    · rw [if_neg same, if_neg same, ih]

/-! ## Means -/

theorem foldl_time {runs : List Record} (fits : totalTime runs < UInt64.size) :
    (runs.foldl (fun total r => total + r.time) (0 : UInt64)).toNat = totalTime runs := by
  induction runs using List.reverseRecOn with
  | nil => rfl
  | append_singleton runs r ih =>
    have total : totalTime (runs ++ [r]) = totalTime runs + r.time.toNat := by
      simp [totalTime]
    rw [total] at fits ⊢
    rw [List.foldl_append, List.foldl_cons, List.foldl_nil, UInt64.toNat_add,
      ih (Nat.lt_of_le_of_lt (Nat.le_add_right _ _) fits)]
    exact Nat.mod_eq_of_lt fits

section Sets

variable {α : Type} [Arithmetic α]

/-- A mean divides the sum of the times by their number. -/
theorem mean_eq {runs : List Record} (fits : totalTime runs < UInt64.size) :
    (mean runs : α) = Arithmetic.ofNat (totalTime runs) / Arithmetic.ofNat runs.length := by
  rw [mean, foldl_time fits]

theorem takeMean_eq {set : ResultSet α} {groups : NameTable (List Record)} {driver : String}
    {runs : List Record} (found : groups.get? driver = some runs) :
    takeMean (set, groups) driver = (set.insert driver (mean runs), groups.erase driver) := by
  simp only [takeMean, found]

/-- Taking out groups of different drivers puts the mean of each at the end of the set. -/
theorem foldl_takeMean {drivers : List String} (distinct : drivers.Nodup) (set : ResultSet α)
    (groups : NameTable (List Record)) (new : ∀ d ∈ drivers, d ∉ set.names)
    (grouped : ∀ d ∈ drivers, (groups.get? d).isSome) :
    (drivers.foldl takeMean (set, groups)).1.names = set.names ++ drivers ∧
      ∀ d, (drivers.foldl takeMean (set, groups)).1.get? d =
        if d ∈ drivers then (groups.get? d).map mean else set.get? d := by
  induction drivers generalizing set groups with
  | nil => simp
  | cons driver drivers ih =>
    obtain ⟨runs, found⟩ := Option.isSome_iff_exists.1 (grouped driver List.mem_cons_self)
    obtain ⟨once, rest⟩ := List.nodup_cons.1 distinct
    have other {d : String} (later : d ∈ drivers) : d ≠ driver := fun eq => once (eq ▸ later)
    have names : (set.insert driver (mean runs)).names = set.names ++ [driver] := by
      rw [NameTable.names_insert, if_neg (new driver List.mem_cons_self)]
    have kept {d : String} (ne : d ≠ driver) : (groups.erase driver).get? d = groups.get? d := by
      rw [NameTable.get?_erase, if_neg ne]
    -- what is taken out now is missing for no later driver, as they are all different
    obtain ⟨order, values⟩ := ih rest (set.insert driver (mean runs)) (groups.erase driver)
      (fun d later => by simp [names, new d (List.mem_cons_of_mem _ later), other later])
      (fun d later => by rw [kept (other later)]; exact grouped d (List.mem_cons_of_mem _ later))
    rw [List.foldl_cons, takeMean_eq found]
    constructor
    · rw [order, names, List.append_assoc, List.singleton_append]
    · intro d
      rw [values d]
      by_cases later : d ∈ drivers
      · rw [if_pos later, if_pos (List.mem_cons_of_mem _ later), kept (other later)]
      · rw [if_neg later, NameTable.get?_insert]
        by_cases this : d = driver
        · rw [if_pos this, if_pos (this ▸ List.mem_cons_self), this, found, Option.map_some]
        · rw [if_neg this, if_neg (by simp [this, later])]

/-- The drivers that have records, in the order of the first one of each. -/
def driversOf (records : List Record) : List String :=
  (records.map fun r => r.tag.driver).eraseDups

theorem runsOf_ne_nil_iff {driver : String} {records : List Record} :
    runsOf driver records ≠ [] ↔ driver ∈ driversOf records := by
  rw [driversOf, List.mem_eraseDups, Ne, runsOf_eq_nil_iff, not_not]

theorem nodup_driversOf (records : List Record) : (driversOf records).Nodup :=
  nodup_eraseDups _

/-- The set of a selection has the drivers of the records that it accepts, and the mean of the
group of each. -/
theorem ofRecords_eq (records : List Record) (selection : Selection) :
    (ofRecords records selection : ResultSet α).names =
        driversOf (records.filter selection.accepts) ∧
      ∀ d, (ofRecords records selection : ResultSet α).get? d =
        if d ∈ driversOf (records.filter selection.accepts) then
          some (mean (runsOf d (records.filter selection.accepts)))
        else none := by
  have grouped {d : String} (listed : d ∈ driversOf (records.filter selection.accepts)) :
      (groupByDriver (records.filter selection.accepts)).get? d =
        some (runsOf d (records.filter selection.accepts)) := by
    rw [get?_groupByDriver, if_neg (runsOf_ne_nil_iff.2 listed)]
  obtain ⟨names, values⟩ := foldl_takeMean (nodup_driversOf (records.filter selection.accepts))
    (NameTable.empty : ResultSet α) (groupByDriver (records.filter selection.accepts))
    (fun _ _ listed => List.not_mem_nil listed) fun d listed => by rw [grouped listed]; rfl
  refine ⟨names, fun d => (values d).trans ?_⟩
  split
  next listed => rw [grouped listed, Option.map_some]
  next => rfl

theorem mean_perm {runs runs' : List Record} (reordered : runs.Perm runs')
    (fits : totalTime runs < UInt64.size) : (mean runs : α) = mean runs' := by
  rw [mean_eq fits, mean_eq (totalTime_perm reordered ▸ fits), totalTime_perm reordered,
    reordered.length_eq]

/-- The order of the records decides in which order the drivers come, and nothing else. -/
theorem ofRecords_perm {records others : List Record} (selection : Selection)
    (reordered : others.Perm records)
    (fits : ∀ d, totalTime (runsOf d (records.filter selection.accepts)) < UInt64.size) :
    (∀ d, (ofRecords others selection : ResultSet α).get? d =
        (ofRecords records selection).get? d) ∧
      (ofRecords others selection : ResultSet α).names.Perm
        (ofRecords records selection : ResultSet α).names := by
  have matching : (others.filter selection.accepts).Perm (records.filter selection.accepts) :=
    reordered.filter _
  have same (d : String) : d ∈ driversOf (others.filter selection.accepts) ↔
      d ∈ driversOf (records.filter selection.accepts) := by
    rw [driversOf, driversOf, List.mem_eraseDups, List.mem_eraseDups]
    exact (matching.map _).mem_iff
  obtain ⟨names, values⟩ := ofRecords_eq (α := α) records selection
  obtain ⟨names', values'⟩ := ofRecords_eq (α := α) others selection
  constructor
  · intro d
    have runs : (runsOf d (records.filter selection.accepts)).Perm
        (runsOf d (others.filter selection.accepts)) := matching.symm.filter _
    rw [values d, values' d, mean_perm runs (fits d)]
    simp only [same d]
  · rw [names, names']
    exact (List.perm_ext_iff_of_nodup (nodup_driversOf _) (nodup_driversOf _)).2 same

end Sets

/-- **The mean of a selection counts every record once.**  Unless the times of a driver add up to
more than an integer holds, the drivers of the means are those of the records that the selection
accepts, in the order of the first such record of each; the value of a driver is the sum of the
times of its records, as a double, over their number, which is not zero; and there is no other
value.  So records that the selection does not accept change nothing, and in another order the
records give every driver the same value. -/
theorem ofRecords_means (records : List Record) (selection : Selection)
    (fits : ∀ d, totalTime (runsOf d (records.filter selection.accepts)) < UInt64.size) :
    let set : ResultSet Float := ofRecords records selection
    let matching := records.filter selection.accepts
    let names := matching.map fun r => r.tag.driver
    (∀ d, d ∈ set.names ↔ d ∈ names) ∧
      (set.names.Pairwise fun d e => names.idxOf d < names.idxOf e) ∧
      (∀ d ∈ names, 1 ≤ (runsOf d matching).length ∧
        set.get? d = some (Arithmetic.ofNat (totalTime (runsOf d matching)) /
          Arithmetic.ofNat (runsOf d matching).length)) ∧
      (∀ d, d ∉ names → set.get? d = none) ∧
      (∀ others : List Record, others.filter selection.accepts = matching →
        ofRecords others selection = set) ∧
      ∀ others : List Record, others.Perm records →
        (∀ d, (ofRecords others selection).get? d = set.get? d) ∧
          (ofRecords others selection : ResultSet Float).names.Perm set.names := by
  intro set matching names
  obtain ⟨order, values⟩ := ofRecords_eq (α := Float) records selection
  have listed (d : String) : d ∈ driversOf matching ↔ d ∈ names := List.mem_eraseDups
  refine ⟨fun d => ?_, ?_, fun d given => ⟨?_, ?_⟩, fun d missing => ?_, fun others same => ?_, ?_⟩
  · rw [order]
    exact listed d
  · rw [order]
    exact pairwise_idxOf_eraseDups names
  · exact List.length_pos_of_ne_nil (runsOf_ne_nil_iff.2 ((listed d).2 given))
  · rw [values d, if_pos ((listed d).2 given), mean_eq (fits d)]
  · rw [values d, if_neg fun given => missing ((listed d).1 given)]
  · change ofRecords others selection = ofRecords records selection
    rw [ofRecords, ofRecords, same]
  · exact fun others reordered => ofRecords_perm selection reordered fits

/-- Two drivers, one of which has a record at another configuration between two that count. -/
theorem ofRecords_interleaved :
    let record (driver : String) (tasks time : UInt64) : Record :=
      ⟨⟨driver, .inserts, 8, tasks, 0⟩, time⟩
    let records := [record "a" 1 2, record "b" 1 7, record "a" 9 40, record "a" 1 4]
    let set : ResultSet Float := ofRecords records ⟨.inserts, 8, 1⟩
    (∀ d, totalTime (runsOf d (records.filter (Selection.accepts ⟨.inserts, 8, 1⟩))) <
        UInt64.size) ∧
      set.get? "a" = some (Arithmetic.ofNat 6 / Arithmetic.ofNat 2) ∧ set.get? "c" = none := by
  intro record records set
  have fits (d : String) :
      totalTime (runsOf d (records.filter (Selection.accepts ⟨.inserts, 8, 1⟩))) < UInt64.size :=
    Nat.lt_of_le_of_lt (totalTime_runsOf_le d _) (by decide)
  obtain ⟨-, -, means, others, -, -⟩ := ofRecords_means records ⟨.inserts, 8, 1⟩ fits
  exact ⟨fits, (means "a" (by decide)).2, others "c" (by decide)⟩

end ResultSet

end BenchCampaign
