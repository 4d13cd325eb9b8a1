import BenchCampaign.Chart.File
import BenchCampaign.Proofs.Attempts
import BenchCampaign.Proofs.NameTable.Insertions
import Mathlib.Data.List.Forall2

/-!
# Results of a chart file

The entries of a chart file are its results as they stand there, if each of them is a number under
a name.  The keys of the file are different values, so that no result takes the place of another
one.  Otherwise the file has no results, and the first entry that is none is told of: by its name,
or by its key in words if that is no name.

* `IsResult`, `IsFault`: what an entry is, and what is told of it if it is no result.
* `Value.allDifferent_strings`: names that are different values are different names.
* `resultSet_keeps_or_tells`: the results of a file.
-/

namespace BenchCampaign

open Yaml

/-! ## Values -/

namespace Yaml

namespace Value

/-- Whether a value stands behind a tag. -/
def isTagged : Value → Bool
  | tagged _ _ => true
  | _ => false

theorem untagged_of_isTagged {v : Value} (free : v.isTagged = false) : v.untagged = v := by
  cases v with
  | tagged tag v => cases free
  | _ => rfl

theorem string?_eq_some_iff {v : Value} (free : v.isTagged = false) {s : String} :
    v.string? = some s ↔ v = .string s := by
  unfold string?
  rw [untagged_of_isTagged free]
  cases v <;> simp

theorem float?_eq_some_iff {v : Value} (free : v.isTagged = false) {x : Float} :
    v.float? = some x ↔ ∃ n, v = .number n ∧ n.toFloat = x := by
  unfold float?
  rw [untagged_of_isTagged free]
  cases v <;> simp

/-- Names are different values as they are different texts. -/
theorem allDifferent_strings {names : List String} :
    allDifferent (names.map .string) = true ↔ names.Nodup := by
  induction names with
  | nil => simp [allDifferent]
  | cons name names ih =>
    rw [List.map_cons, allDifferent, Bool.and_eq_true, ih, List.nodup_cons]
    have others : (names.map Value.string).any (same (.string name)) = names.contains name := by
      rw [List.any_map, List.contains_eq_any_beq]
      rfl
    rw [others, Bool.not_eq_true', ← Bool.not_eq_true, List.contains_iff_mem]

end Value

end Yaml

namespace Chart

namespace File

/-! ## Entries -/

/-- An entry that is a number under a name. -/
def IsNumeric (e : Value × Value) : Prop :=
  (∃ name, e.1 = .string name) ∧ ∃ n, e.2 = .number n

/-- An entry as a result. -/
inductive IsResult : Value × Value → String × Float → Prop
  | number (name : String) (n : Number) : IsResult (.string name, .number n) (name, n.toFloat)

/-- What is told of an entry that is no result. -/
inductive IsFault : Value × Value → Fault → Prop
  | key {k v : Value} (other : ∀ name, k ≠ .string name) : IsFault (k, v) (.notNumeric k.describe)
  | value {name : String} {v : Value} (other : ∀ n, v ≠ .number n) :
    IsFault (.string name, v) (.notNumeric name)

theorem isNumeric_iff {e : Value × Value} : IsNumeric e ↔ ∃ r, IsResult e r := by
  obtain ⟨k, v⟩ := e
  constructor
  · rintro ⟨⟨name, rfl⟩, n, rfl⟩
    exact ⟨_, .number name n⟩
  · rintro ⟨_, name, n⟩
    exact ⟨⟨name, rfl⟩, n, rfl⟩

section Entry

variable {e : Value × Value} (freeKey : e.1.isTagged = false) (freeValue : e.2.isTagged = false)

include freeKey freeValue

theorem result_eq_ok_iff {r : String × Float} : result e = .ok r ↔ IsResult e r := by
  obtain ⟨k, v⟩ := e
  have key := @Value.string?_eq_some_iff k freeKey
  have value := @Value.float?_eq_some_iff v freeValue
  constructor
  · intro is
    unfold result at is
    split at is
    · cases is
    next name named =>
      split at is
      · cases is
      next x valued =>
        obtain ⟨n, rfl, rfl⟩ := value.1 valued
        obtain rfl := key.1 named
        cases is
        exact .number name n
  · rintro ⟨name, n⟩
    rfl

theorem result_eq_error_iff {fault : Fault} : result e = .error fault ↔ IsFault e fault := by
  obtain ⟨k, v⟩ := e
  have key := @Value.string?_eq_some_iff k freeKey
  have value := @Value.float?_eq_some_iff v freeValue
  constructor
  · intro is
    unfold result at is
    split at is
    next unnamed =>
      cases is
      exact .key fun name named => by simp [key.2 named] at unnamed
    next name named =>
      split at is
      next unvalued =>
        cases is
        obtain rfl := key.1 named
        exact .value fun n valued => by simp [value.2 ⟨n, valued, rfl⟩] at unvalued
      · cases is
  · rintro (other | other)
    · have unnamed : k.string? = none :=
        Option.eq_none_iff_forall_ne_some.2 fun name named => other name (key.1 named)
      unfold result
      dsimp only
      rw [unnamed]
    · have unvalued : v.float? = none := Option.eq_none_iff_forall_ne_some.2 fun x valued => by
        obtain ⟨n, is, -⟩ := value.1 valued
        exact other n is
      unfold result
      dsimp only [Value.string?, Value.untagged]
      rw [unvalued]

end Entry

/-! ## Files -/

section Untagged

variable {f : File} (untagged : ∀ e ∈ f.results, e.1.isTagged = false ∧ e.2.isTagged = false)

include untagged

theorem mapM_result_eq_ok_iff {out : List (String × Float)} :
    f.results.mapM result = .ok out ↔ List.Forall₂ IsResult f.results out := by
  -- that no entry has a tag goes along with each pair of entry and result
  have both (R : Value × Value → String × Float → Prop) : List.Forall₂ R f.results out ↔
      List.Forall₂ (fun e r => (e.1.isTagged = false ∧ e.2.isTagged = false) ∧ R e r)
        f.results out := by
    rw [List.forall₂_and_left, and_iff_right untagged]
  have each (e : Value × Value) (r : String × Float) :
      (e.1.isTagged = false ∧ e.2.isTagged = false) ∧ result e = .ok r ↔
        (e.1.isTagged = false ∧ e.2.isTagged = false) ∧ IsResult e r :=
    and_congr_right fun free => result_eq_ok_iff free.1 free.2
  rw [mapM_eq_ok_iff, ← List.forall₂_eq_eq_eq, List.forall₂_map_left_iff,
    List.forall₂_map_right_iff, both, both IsResult]
  simp only [each]

theorem mapM_result_eq_error_iff {fault : Fault} :
    f.results.mapM result = .error fault ↔
      ∃ before e behind, f.results = before ++ e :: behind ∧ (∀ e' ∈ before, IsNumeric e') ∧
        IsFault e fault := by
  rw [mapM_eq_error_iff]
  refine exists_congr fun before => exists_congr fun e => exists_congr fun behind =>
    and_congr_right fun split => ?_
  have free : ∀ e' ∈ before ++ e :: behind, e'.1.isTagged = false ∧ e'.2.isTagged = false :=
    split ▸ untagged
  obtain ⟨freeBefore, freeBehind⟩ := List.forall_mem_append.1 free
  obtain ⟨freeKey, freeValue⟩ := freeBehind e List.mem_cons_self
  refine and_congr (forall₂_congr fun e' member => ?_) (result_eq_error_iff freeKey freeValue)
  obtain ⟨freeKey', freeValue'⟩ := freeBefore e' member
  simp only [result_eq_ok_iff freeKey' freeValue', isNumeric_iff]

end Untagged

/-- A number under a name is nothing else. -/
theorem not_isFault_of_isNumeric {e : Value × Value} (numeric : IsNumeric e) (fault : Fault) :
    ¬ IsFault e fault := by
  obtain ⟨⟨name, named⟩, n, valued⟩ := numeric
  rintro (other | other)
  · exact other name named
  · exact other n valued

theorem isNumeric_of_forall₂ {entries : List (Value × Value)} {out : List (String × Float)}
    (results : List.Forall₂ IsResult entries out) : ∀ e ∈ entries, IsNumeric e := by
  induction results with
  | nil => exact List.forall_mem_nil _
  | cons first _ ih => exact List.forall_mem_cons.2 ⟨isNumeric_iff.2 ⟨_, first⟩, ih⟩

/-- Results stand under the names of the keys. -/
theorem keys_of_forall₂ {entries : List (Value × Value)} {out : List (String × Float)}
    (results : List.Forall₂ IsResult entries out) :
    entries.map Prod.fst = (out.map Prod.fst).map .string := by
  induction results with
  | nil => rfl
  | cons first _ ih =>
    cases first
    rw [List.map_cons, List.map_cons, List.map_cons, ih]

/-- **A chart file is drawn whole, or its first entry that is no number is told of.**  Where keys
are different and neither keys nor values have tags, a file has results if and only if every key is
a name and every value a number; these are then one for each entry, in the order of the file.
Otherwise the fault is that of the first entry of another kind: it calls a key that is no name by
what it is in words, and a value that is no number by its name. -/
theorem resultSet_keeps_or_tells (f : File)
    (different : Value.allDifferent (f.results.map Prod.fst) = true)
    (untagged : ∀ e ∈ f.results, e.1.isTagged = false ∧ e.2.isTagged = false) :
    ((∃ set, f.resultSet = .ok set) ↔ ∀ e ∈ f.results, IsNumeric e) ∧
      (∀ set, f.resultSet = .ok set → List.Forall₂ IsResult f.results set.entries) ∧
      ∀ fault, f.resultSet = .error fault ↔
        ∃ before e behind, f.results = before ++ e :: behind ∧ (∀ e' ∈ before, IsNumeric e') ∧
          IsFault e fault := by
  unfold resultSet
  cases made : f.results.mapM result with
  | ok out =>
    have results := (mapM_result_eq_ok_iff untagged).1 made
    have numeric := isNumeric_of_forall₂ results
    rw [keys_of_forall₂ results, Value.allDifferent_strings] at different
    refine ⟨⟨fun _ => numeric, fun _ => ⟨_, rfl⟩⟩, ?_, fun fault => ⟨nofun, ?_⟩⟩
    · rintro _ ⟨⟩
      rw [NameTable.entries_ofList different]
      exact results
    · rintro ⟨before, e, behind, split, -, faulty⟩
      have member : e ∈ f.results := split ▸ List.mem_append_cons_self
      exact absurd faulty (not_isFault_of_isNumeric (numeric e member) fault)
  | error told =>
    have first := (mapM_result_eq_error_iff untagged).1 made
    refine ⟨⟨nofun, fun numeric => ?_⟩, nofun, fun fault => ?_⟩
    · obtain ⟨before, e, behind, split, -, faulty⟩ := first
      have member : e ∈ f.results := split ▸ List.mem_append_cons_self
      exact absurd faulty (not_isFault_of_isNumeric (numeric e member) told)
    · rw [← mapM_result_eq_error_iff untagged, made]
      simp [Except.map]

/-- Two results, with a key that is a truth value behind them and without. -/
theorem resultSet_boolKey :
    let front : List (Value × Value) :=
      [(.string "b", .number (.natural 2)), (.string "3", .number (.negative (-1)))]
    let behind : List (Value × Value) := [(.bool true, .number (.natural 1)), (.string "c", .null)]
    let sound : File := ⟨"t", front⟩
    let spoilt : File := ⟨"t", front ++ behind⟩
    Value.allDifferent (spoilt.results.map Prod.fst) = true ∧
      (∀ e ∈ spoilt.results, e.1.isTagged = false ∧ e.2.isTagged = false) ∧
      spoilt.resultSet = .error (.notNumeric "Bool(true)") ∧
      ∃ set, sound.resultSet = .ok set ∧ List.Forall₂ IsResult front set.entries := by
  intro front behind sound spoilt
  have different : Value.allDifferent (spoilt.results.map Prod.fst) = true := by decide
  have untagged : ∀ e ∈ spoilt.results, e.1.isTagged = false ∧ e.2.isTagged = false := by
    simp [spoilt, front, behind, Value.isTagged]
  have numeric : ∀ e ∈ front, IsNumeric e := by simp [front, IsNumeric]
  obtain ⟨-, -, tells⟩ := resultSet_keeps_or_tells spoilt different untagged
  obtain ⟨accepts, keeps, -⟩ := resultSet_keeps_or_tells sound (by decide)
    fun e member => untagged e (List.mem_append_left behind member)
  obtain ⟨set, made⟩ := accepts.2 numeric
  exact ⟨different, untagged, (tells _).2 ⟨front, _, _, rfl, numeric, .key nofun⟩, set, made,
    keeps set made⟩

end File

end Chart

end BenchCampaign
