import BenchCampaign.Proofs.Binary64.Order
import BenchCampaign.Proofs.Plan.Runs

/-!
# The order of a plan

A plan runs what is estimated to take least first.  Estimates are doubles of any kind, and so they
are compared in the order of all doubles, in which everything has a place.  Configurations of one
estimate stay in the order in which they are given.  This leaves one list only, so it does not
matter how it is found, and nothing is left to sort in it.

* `Arranges`: a list is another one in order, its ties untouched.
* `arranges_mergeSort`, `Arranges.unique`: there is one such list.
* `Estimator.tied_noDearer_iff`: what is tied.
* `Plan.ofConfigurations_arranges`: the configurations of a plan.
-/

namespace BenchCampaign

/-! ## Sorting with ties -/

section Ties

variable {α : Type}

/-- Whether each of two entries may stand before the other. -/
def tied (le : α → α → Bool) (a b : α) : Bool := le a b && le b a

/-- A list has the entries of another one in ascending order, and those that are tied with each
other in the order in which the other one has them. -/
structure Arranges (le : α → α → Bool) (l m : List α) : Prop where
  perm : m.Perm l
  ascending : m.IsChain fun a b => le a b = true
  stable : ∀ a, m.filter (tied le a) = l.filter (tied le a)

variable {le : α → α → Bool} (trans : ∀ a b c, le a b = true → le b c = true → le a c = true)
  (total : ∀ a b, (le a b || le b a) = true)

include total in
theorem self_of_total (a : α) : le a a = true := by
  rw [← Bool.or_self (le a a)]
  exact total a a

include total in
theorem tied_self (a : α) : tied le a a = true := by
  rw [tied, self_of_total total a, Bool.and_self]

include trans in
theorem Arranges.pairwise {l m : List α} (arranged : Arranges le l m) :
    m.Pairwise fun a b => le a b = true :=
  haveI : Trans (fun a b => le a b = true) (fun a b => le a b = true)
      (fun a b => le a b = true) := ⟨fun first second => trans _ _ _ first second⟩
  List.isChain_iff_pairwise.1 arranged.ascending

include trans total in
/-- Sorting keeps the entries that are tied with a given one, and keeps them in order. -/
theorem filter_tied_mergeSort (l : List α) (a : α) :
    (l.mergeSort le).filter (tied le a) = l.filter (tied le a) := by
  have ties : (l.filter (tied le a)).Pairwise fun b c => le b c = true := by
    refine List.pairwise_of_forall_mem_list fun b inClass c inClass' => ?_
    have first := (List.mem_filter.1 inClass).2
    have second := (List.mem_filter.1 inClass').2
    simp only [tied, Bool.and_eq_true] at first second
    exact trans b a c first.2 second.1
  have kept : (l.filter (tied le a)).Sublist (l.mergeSort le) :=
    List.sublist_mergeSort trans total ties List.filter_sublist
  have inClass := kept.filter (tied le a)
  rw [List.filter_filter] at inClass
  simp only [Bool.and_self] at inClass
  exact (inClass.eq_of_length ((List.mergeSort_perm l le).filter _).length_eq.symm).symm

include trans total in
theorem arranges_mergeSort (l : List α) : Arranges le l (l.mergeSort le) :=
  ⟨List.mergeSort_perm l le, (List.pairwise_mergeSort trans total l).isChain,
    filter_tied_mergeSort trans total l⟩

include total in
theorem mem_iff_of_filter_tied {l m : List α}
    (same : ∀ a, l.filter (tied le a) = m.filter (tied le a)) (a : α) : a ∈ l ↔ a ∈ m := by
  have inClass : a ∈ l.filter (tied le a) ↔ a ∈ m.filter (tied le a) := by rw [same a]
  rwa [List.mem_filter, List.mem_filter, tied_self total a, and_iff_left rfl,
    and_iff_left rfl] at inClass

include total in
/-- A sorted list is known by the entries that are tied with each of them. -/
theorem eq_of_filter_tied {l m : List α} (ascending : l.Pairwise fun a b => le a b = true)
    (ascending' : m.Pairwise fun a b => le a b = true)
    (same : ∀ a, l.filter (tied le a) = m.filter (tied le a)) : l = m := by
  have mem_iff := mem_iff_of_filter_tied total same
  induction l generalizing m with
  | nil =>
    cases m with
    | nil => rfl
    | cons b m => exact absurd ((mem_iff b).2 List.mem_cons_self) List.not_mem_nil
  | cons a l ih =>
    cases m with
    | nil => exact absurd ((mem_iff a).1 List.mem_cons_self) List.not_mem_nil
    | cons b m =>
      -- both heads are least, so they are tied and begin the same class
      obtain ⟨least, rest⟩ := List.pairwise_cons.1 ascending
      obtain ⟨least', rest'⟩ := List.pairwise_cons.1 ascending'
      have lower : le a b = true := by
        rcases List.mem_cons.1 ((mem_iff b).2 List.mem_cons_self) with rfl | listed
        · exact self_of_total total b
        · exact least b listed
      have upper : le b a = true := by
        rcases List.mem_cons.1 ((mem_iff a).1 List.mem_cons_self) with rfl | listed
        · exact self_of_total total a
        · exact least' a listed
      have tie : tied le a b = true := by rw [tied, lower, upper, Bool.and_self]
      have heads := same a
      rw [List.filter_cons_of_pos (tied_self total a), List.filter_cons_of_pos tie] at heads
      obtain rfl := (List.cons.inj heads).1
      have tails (c : α) : l.filter (tied le c) = m.filter (tied le c) := by
        have here := same c
        by_cases inClass : tied le c a = true
        · rw [List.filter_cons_of_pos inClass, List.filter_cons_of_pos inClass] at here
          exact (List.cons.inj here).2
        · rwa [List.filter_cons_of_neg inClass, List.filter_cons_of_neg inClass] at here
      rw [ih rest rest' tails (mem_iff_of_filter_tied total tails)]

include trans total in
/-- There is only one way to sort a list and leave its ties alone. -/
theorem Arranges.unique {l m m' : List α} (arranged : Arranges le l m)
    (arranged' : Arranges le l m') : m = m' :=
  eq_of_filter_tied total (arranged.pairwise trans) (arranged'.pairwise trans)
    fun a => (arranged.stable a).trans (arranged'.stable a).symm

end Ties

/-! ## Configurations in order -/

namespace Estimator

/-- Whether a configuration is estimated to take no longer than another one. -/
def noDearer (e : Estimator Float) (c d : Configuration) : Bool :=
  Binary64.precedes (e.estimate c) (e.estimate d)

variable {e : Estimator Float} {c d : Configuration}

theorem noDearer_trans (a b c : Configuration) :
    e.noDearer a b = true → e.noDearer b c = true → e.noDearer a c = true :=
  Binary64.precedes_trans _ _ _

theorem noDearer_total (a b : Configuration) :
    (e.noDearer a b || e.noDearer b a) = true :=
  Binary64.precedes_total _ _

/-- Ties are configurations of one estimate, down to the sign of zero. -/
theorem tied_noDearer_iff : tied e.noDearer c d = true ↔ e.estimate c = e.estimate d := by
  rw [tied, Bool.and_eq_true]
  constructor
  · rintro ⟨first, second⟩
    exact Binary64.precedes_antisymm first second
  · intro same
    rw [noDearer, noDearer, same, Binary64.precedes, and_self]
    exact decide_eq_true (Int.le_refl _)

theorem sort_arranges (e : Estimator Float) (cs : List Configuration) :
    Arranges e.noDearer cs (e.sort cs) :=
  arranges_mergeSort noDearer_trans noDearer_total cs

/-- There is nothing to sort in a sorted list. -/
theorem sort_sort (e : Estimator Float) (cs : List Configuration) :
    e.sort (e.sort cs) = e.sort cs :=
  List.mergeSort_of_pairwise ((e.sort_arranges cs).pairwise noDearer_trans)

end Estimator

namespace Plan

/-- The first run of a plan is one of its first configuration. -/
theorem run?_zero {p : Plan} (nonempty : p.runs ≠ []) :
    ∃ c rest r, p.configurations = c :: rest ∧ p.run? 0 = some r ∧ r.configuration = c := by
  have size : 0 < p.size := p.size_pos_iff.2 nonempty
  cases configurations : p.configurations with
  | nil => exact absurd (by simp [Plan.size, configurations]) (Nat.ne_of_gt size)
  | cons c rest =>
    cases drivers : p.drivers with
    | nil => exact absurd (by simp [Plan.size, drivers]) (Nat.ne_of_gt size)
    | cons d others =>
      refine ⟨c, rest, ⟨c, d, 0⟩, rfl, ?_, rfl⟩
      simp [run?, configurations, drivers, size]

/-- **A plan sorts its configurations, keeps ties in their order and loses nothing.**  Whatever
numbers the estimates are, there is one list that does so, and it is the plan's; planning what a
plan has sorted changes nothing; and the first run of a plan, if there is any run, is of a
configuration that none of the given ones is estimated to take less than. -/
theorem ofConfigurations_arranges (e : Estimator Float) (cs : List Configuration)
    (drivers : List Driver) (samples : UInt32) :
    let plan := ofConfigurations e cs drivers samples
    Arranges e.noDearer cs plan.configurations ∧
      (∀ ds, Arranges e.noDearer cs ds → ds = plan.configurations) ∧
      ofConfigurations e plan.configurations drivers samples = plan ∧
      (plan.runs ≠ [] →
        ∃ r, plan.run? 0 = some r ∧ r.configuration ∈ cs ∧
          ∀ c ∈ cs, e.noDearer r.configuration c = true ∧
            ¬ e.estimate c < e.estimate r.configuration) := by
  intro plan
  have arranged : Arranges e.noDearer cs plan.configurations := e.sort_arranges cs
  refine ⟨arranged, fun ds other => ?_, ?_, fun nonempty => ?_⟩
  · exact Arranges.unique Estimator.noDearer_trans Estimator.noDearer_total other arranged
  · exact congrArg (Plan.mk · drivers samples) (e.sort_sort cs)
  · obtain ⟨c, rest, r, first, found, rfl⟩ := run?_zero nonempty
    have least (d : Configuration) (given : d ∈ cs) : e.noDearer r.configuration d = true := by
      have planned : d ∈ plan.configurations := arranged.perm.mem_iff.2 given
      rw [first] at planned
      rcases List.mem_cons.1 planned with rfl | later
      · exact self_of_total Estimator.noDearer_total r.configuration
      · have ascending := arranged.pairwise Estimator.noDearer_trans
        rw [first] at ascending
        exact List.rel_of_pairwise_cons ascending later
    refine ⟨r, found, arranged.perm.mem_iff.1 (by rw [first]; exact List.mem_cons_self), ?_⟩
    exact fun d given => ⟨least d given, Binary64.not_lt_of_precedes (least d given)⟩

/-- Sorted configurations are left alone, the first two of which are tied. -/
theorem ofConfigurations_sorted :
    let e : Estimator Float := ⟨0.5, 1⟩
    let cs : List Configuration := [⟨2, 2, .inserts⟩, ⟨1, 1, .inserts⟩, ⟨3, 1, .selects⟩]
    let plan := ofConfigurations e cs [⟨"a", none, false⟩] 1
    Arranges e.noDearer cs cs ∧ cs = plan.configurations ∧
      plan.runs ≠ [] ∧ ∃ r, plan.run? 0 = some r ∧ r.configuration ∈ cs := by
  intro e cs plan
  have sorted : Arranges e.noDearer cs cs := ⟨.refl _, by decide +kernel, fun _ => rfl⟩
  have nonempty : plan.runs ≠ [] := by
    rw [← size_pos_iff]
    simp [plan, cs, size, ofConfigurations, Estimator.sort]
  obtain ⟨-, unique, -, begins⟩ := ofConfigurations_arranges e cs [⟨"a", none, false⟩] 1
  obtain ⟨r, found, given, -⟩ := begins nonempty
  exact ⟨sorted, unique cs sorted, nonempty, r, found, given⟩

end Plan

end BenchCampaign
