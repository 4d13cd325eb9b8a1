import BenchCampaign.ResultSet
import Mathlib.Data.List.Induction
import Mathlib.Order.Lattice

/-!
# The greatest of some numbers

The greatest of a list is found by keeping the greater of two, one after the other.  Where numbers
are compared by a key, that is a number of the list with the greatest key; what is no number is
kept only as long as there is no number.

* `Arithmetic.ComparedBy`: numbers that are compared by a key.
* `Arithmetic.IsGreatest.greater`: one more of a list.
* `ResultSet.isGreatest_max?`: the greatest number of a set.
-/

namespace BenchCampaign

namespace Arithmetic

variable {α κ : Type} [Arithmetic α] [LinearOrder κ]

/-- Numbers are compared by a key. -/
def ComparedBy (key : α → κ) : Prop :=
  ∀ {a b : α}, isNumber a = true → isNumber b = true → (below a b = true ↔ key a < key b)

/-- One of a list that has the greatest key of all numbers in it; it is no number only if there is
none. -/
structure IsGreatest (key : α → κ) (l : List α) (m : α) : Prop where
  mem : m ∈ l
  isNumber : ∀ a ∈ l, isNumber a = true → isNumber m = true
  le : ∀ a ∈ l, Arithmetic.isNumber a = true → key a ≤ key m

variable {key : α → κ} {l : List α} {m a : α}

theorem isGreatest_singleton : IsGreatest key [a] a where
  mem := List.mem_singleton_self a
  isNumber _ listed number := List.mem_singleton.1 listed ▸ number
  le _ listed _ := List.mem_singleton.1 listed ▸ le_rfl

/-- The greater of the greatest and one more is the greatest of both together. -/
theorem IsGreatest.greater (greatest : IsGreatest key l m) (compared : ComparedBy key) (a : α) :
    IsGreatest key (l ++ [a]) (greater m a) := by
  have members {b : α} : b ∈ l ++ [a] → b ∈ l ∨ b = a := by simp
  unfold Arithmetic.greater
  split
  next kept =>
    rw [Bool.and_eq_true, Bool.not_eq_true'] at kept
    obtain ⟨number, notBelow⟩ := kept
    refine ⟨List.mem_append_left _ greatest.mem, fun _ _ _ => number, fun b listed isNumber => ?_⟩
    rcases members listed with old | rfl
    · exact greatest.le b old isNumber
    · exact not_lt.1 fun less => Bool.eq_false_iff.1 notBelow ((compared number isNumber).2 less)
  next dropped =>
    split
    next number =>
      refine ⟨by simp, fun _ _ _ => number, fun b listed isNumber => ?_⟩
      rcases members listed with old | rfl
      · -- the greatest so far is a number, so it was dropped for a greater one
        have before := greatest.isNumber b old isNumber
        have less : below m a = true := by simpa [before] using dropped
        exact le_trans (greatest.le b old isNumber) (le_of_lt ((compared before number).1 less))
      · exact le_rfl
    next noNumber =>
      refine ⟨List.mem_append_left _ greatest.mem, fun b listed isNumber => ?_,
        fun b listed isNumber => ?_⟩
      · rcases members listed with old | rfl
        · exact greatest.isNumber b old isNumber
        · exact absurd isNumber noNumber
      · rcases members listed with old | rfl
        · exact greatest.le b old isNumber
        · exact absurd isNumber noNumber

theorem isGreatest_foldl (compared : ComparedBy key) (v : α) (rest : List α) :
    IsGreatest key (v :: rest) (rest.foldl Arithmetic.greater v) := by
  induction rest using List.reverseRecOn with
  | nil => exact isGreatest_singleton
  | append_singleton rest a ih =>
    rw [List.foldl_append]
    exact ih.greater compared a

end Arithmetic

namespace ResultSet

open Arithmetic

variable {α κ : Type} [Arithmetic α] [LinearOrder κ] {key : α → κ} {r : ResultSet α}

theorem max?_eq_none_iff : max? r = none ↔ r.entries = [] := by
  rw [← List.map_eq_nil_iff (f := Prod.snd)]
  change max? r = none ↔ values r = []
  unfold max?
  cases values r <;> simp

/-- The greatest number of a set is one of its values, and has the greatest key. -/
theorem isGreatest_max? (compared : ComparedBy key) {m : α} (found : max? r = some m) :
    IsGreatest key (values r) m := by
  unfold max? at found
  cases list : values r with
  | nil =>
    rw [list] at found
    cases found
  | cons v rest =>
    rw [list] at found
    cases found
    exact isGreatest_foldl compared v rest

end ResultSet

end BenchCampaign
