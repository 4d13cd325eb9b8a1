import Mathlib.Data.List.Basic

/-!
# Attempts on the entries of a list

An attempt on all entries of a list comes to the results of all of them, or it fails as on the
first entry that it fails on.

* `mapM_eq_ok_iff`, `mapM_eq_error_iff`: what attempts come to that tell why they fail.
* `mapM_eq_some_iff`, `mapM_eq_none_iff`: the same for attempts that do not.
* `mapM_eq_some_iff_filterMap`, `mapM_congr_of_map_eq`: their results as those of the entries.
-/

namespace BenchCampaign

variable {α β ε : Type}

theorem mapM_eq_ok_iff {f : α → Except ε β} {l : List α} {out : List β} :
    l.mapM f = .ok out ↔ l.map f = out.map .ok := by
  induction l generalizing out with
  | nil => cases out <;> simp [pure, Except.pure]
  | cons a l ih =>
    rw [List.mapM_cons, List.map_cons]
    cases first : f a with
    | error fault => cases out <;> simp [bind, Except.bind]
    | ok b =>
      cases later : l.mapM f with
      | error fault =>
        have none (out : List β) : l.map f ≠ out.map .ok := fun all => by
          rw [← ih, later] at all
          cases all
        cases out <;> simp [bind, Except.bind, none]
      | ok rest =>
        have all := ih.1 later
        have same (out : List β) : l.map f = out.map .ok ↔ rest = out := by
          rw [← ih, later, Except.ok.injEq]
        cases out <;> simp [bind, Except.bind, pure, Except.pure, same]

/-- Attempts on a list fail as on the first entry that they fail on. -/
theorem mapM_eq_error_iff {f : α → Except ε β} {l : List α} {fault : ε} :
    l.mapM f = .error fault ↔
      ∃ before a behind, l = before ++ a :: behind ∧ (∀ b ∈ before, ∃ y, f b = .ok y) ∧
        f a = .error fault := by
  induction l with
  | nil => simp [pure, Except.pure]
  | cons a l ih =>
    rw [List.mapM_cons]
    constructor
    · intro failed
      cases first : f a with
      | error other =>
        rw [first] at failed
        cases failed
        exact ⟨[], a, l, rfl, nofun, first⟩
      | ok b =>
        rw [first] at failed
        cases later : l.mapM f with
        | ok rest =>
          rw [later] at failed
          cases failed
        | error other =>
          rw [later] at failed
          cases failed
          obtain ⟨before, a', behind, rfl, good, fails⟩ := ih.1 later
          exact ⟨a :: before, a', behind, rfl, List.forall_mem_cons.2 ⟨⟨b, first⟩, good⟩, fails⟩
    · rintro ⟨before, a', behind, split, good, fails⟩
      cases before with
      | nil =>
        obtain ⟨rfl, rfl⟩ := List.cons.inj split
        rw [fails]
        rfl
      | cons b before =>
        obtain ⟨rfl, rest⟩ := List.cons.inj split
        obtain ⟨⟨y, first⟩, good⟩ := List.forall_mem_cons.1 good
        rw [first, ih.2 ⟨before, a', behind, rest, good, fails⟩]
        rfl

/-- An attempt without a fault to tell. -/
def attempt (result : Option β) : Except Unit β :=
  match result with
  | some b => .ok b
  | none => .error ()

theorem attempt_eq_ok_iff {result : Option β} {b : β} :
    attempt result = .ok b ↔ result = some b := by
  cases result <;> simp [attempt]

theorem attempt_eq_error_iff {result : Option β} : attempt result = .error () ↔ result = none := by
  cases result <;> simp [attempt]

theorem attempt_mapM (f : α → Option β) (l : List α) :
    attempt (l.mapM f) = l.mapM fun a => attempt (f a) := by
  induction l with
  | nil => rfl
  | cons a l ih =>
    rw [List.mapM_cons, List.mapM_cons, ← ih]
    cases f a with
    | none => rfl
    | some b => cases l.mapM f <;> rfl

theorem mapM_eq_some_iff {f : α → Option β} {l : List α} {out : List β} :
    l.mapM f = some out ↔ l.map f = out.map some := by
  have injective : Function.Injective (attempt : Option β → Except Unit β) := by
    rintro (- | b) (- | b') same <;> cases same <;> rfl
  rw [← attempt_eq_ok_iff, attempt_mapM, mapM_eq_ok_iff,
    ← (List.map_injective_iff.2 injective).eq_iff, List.map_map, List.map_map]
  rfl

/-- Attempts on all entries come to the results, where there is one of each entry. -/
theorem mapM_eq_some_iff_filterMap {f : α → Option β} {l : List α} {out : List β} :
    l.mapM f = some out ↔ (∀ a ∈ l, (f a).isSome = true) ∧ out = l.filterMap f := by
  rw [mapM_eq_some_iff]
  constructor
  · intro results
    constructor
    · intro a member
      have result : f a ∈ out.map some := results ▸ List.mem_map_of_mem member
      obtain ⟨b, -, is⟩ := List.mem_map.1 result
      rw [← is]
      rfl
    · have ids : out = (out.map some).filterMap id := by
        rw [List.filterMap_map]
        exact List.filterMap_some.symm
      rw [ids, ← results, List.filterMap_map]
      rfl
  · rintro ⟨all, rfl⟩
    rw [List.map_filterMap_some_eq_filter_map_isSome, List.filter_eq_self.2]
    exact List.forall_mem_map.2 all

theorem mapM_congr_of_map_eq {f : α → Option β} {l l' : List α} (same : l.map f = l'.map f) :
    l.mapM f = l'.mapM f := by
  have each (l : List α) : l.mapM f = (l.map f).mapM id := by
    rw [List.mapM_map]
    rfl
  rw [each, each, same]

theorem mapM_eq_none_iff {f : α → Option β} {l : List α} :
    l.mapM f = none ↔
      ∃ before a behind, l = before ++ a :: behind ∧ (∀ b ∈ before, (f b).isSome = true) ∧
        f a = none := by
  rw [← attempt_eq_error_iff, attempt_mapM, mapM_eq_error_iff]
  simp only [attempt_eq_ok_iff, attempt_eq_error_iff, Option.isSome_iff_exists]

end BenchCampaign
