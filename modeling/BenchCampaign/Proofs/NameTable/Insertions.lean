import BenchCampaign.Proofs.ResultSet.Means
import Mathlib.Data.List.Nodup

/-!
# What a table holds after insertions

A table that is made by insertions has every name once, in the order of the first insertions, and
under it the value of the last one.

* `NameTable.get?_eq_some_iff`: with every name once, the entries are the values of the names.
* `NameTable.names_ofList`, `NameTable.nodup_names_ofList`: the names after any insertions.
* `NameTable.entries_ofList`: the entries after insertions under different names.
* `NameTable.get?_ofList_eq_some_iff`: the value of a name is the last one.
-/

namespace BenchCampaign

namespace NameTable

variable {β : Type}

/-! ## Names and entries -/

theorem get?_eq_none_iff {t : NameTable β} {name : String} :
    t.get? name = none ↔ name ∉ t.names := by
  rw [get?, Option.map_eq_none_iff, List.find?_eq_none, names, List.mem_map]
  constructor
  · rintro absent ⟨e, listed, rfl⟩
    exact absent e listed (decide_eq_true rfl)
  · intro absent e listed same
    exact absent ⟨e, listed, of_decide_eq_true same⟩

theorem contains_iff {t : NameTable β} {name : String} :
    t.contains name = true ↔ name ∈ t.names := by
  rw [contains, ← Option.isNone_eq_false_iff, Bool.eq_false_iff, Ne, Option.isNone_iff_eq_none,
    get?_eq_none_iff, not_not]

/-- Where every name stands once, a name has the value that stands beside it. -/
theorem get?_eq_some_iff {t : NameTable β} (distinct : t.names.Nodup) {name : String} {value : β} :
    t.get? name = some value ↔ (name, value) ∈ t.entries := by
  rw [get?, Option.map_eq_some_iff]
  constructor
  · rintro ⟨⟨n, v⟩, found, rfl⟩
    obtain rfl : n = name := by simpa using List.find?_some found
    exact List.mem_of_find?_eq_some found
  · intro listed
    have named : t.get? name ≠ none := fun absent =>
      get?_eq_none_iff.1 absent (List.mem_map_of_mem listed)
    obtain ⟨v, found⟩ := Option.ne_none_iff_exists'.1 named
    obtain ⟨e, entry, rfl⟩ := Option.map_eq_some_iff.1 found
    have same : e.1 = name := by simpa using List.find?_some entry
    have equal : e = (name, value) :=
      List.inj_on_of_nodup_map distinct (List.mem_of_find?_eq_some entry) listed same
    exact ⟨e, entry, congrArg Prod.snd equal⟩

/-! ## Insertions one after the other -/

/-- A new name goes to the end with its value. -/
theorem insertEntry_of_notMem {name : String} {es : List (String × β)}
    (new : name ∉ es.map Prod.fst) (value : β) :
    insertEntry name value es = es ++ [(name, value)] := by
  induction es with
  | nil => rfl
  | cons e es ih =>
    obtain ⟨other, rest⟩ := List.ne_and_not_mem_of_not_mem_cons new
    rw [insertEntry, if_neg (Ne.symm other), ih rest, List.cons_append]

theorem ofList_append_singleton (es : List (String × β)) (e : String × β) :
    ofList (es ++ [e]) = (ofList es).insert e.1 e.2 := by
  rw [ofList, List.foldl_append]
  rfl

/-- The names are those that were inserted, in the order in which they first were. -/
theorem names_ofList (es : List (String × β)) :
    (ofList es).names = (es.map Prod.fst).eraseDups := by
  induction es using List.reverseRecOn with
  | nil => rfl
  | append_singleton es e ih =>
    rw [ofList_append_singleton, names_insert, ih, List.map_append, List.map_singleton,
      List.eraseDups_append]
    by_cases known : e.1 ∈ es.map Prod.fst
    · have nothing : [e.1].removeAll (es.map Prod.fst) = [] := by simp [List.removeAll, known]
      rw [if_pos (List.mem_eraseDups.2 known), nothing, List.eraseDups_nil, List.append_nil]
    · have last : [e.1].removeAll (es.map Prod.fst) = [e.1] := by simp [List.removeAll, known]
      rw [if_neg fun listed => known (List.mem_eraseDups.1 listed), last]
      rfl

theorem nodup_names_ofList (es : List (String × β)) : (ofList es).names.Nodup := by
  rw [names_ofList]
  exact nodup_eraseDups _

/-- Different names come one after the other, each with its value. -/
theorem entries_ofList {es : List (String × β)} (distinct : (es.map Prod.fst).Nodup) :
    (ofList es).entries = es := by
  induction es using List.reverseRecOn with
  | nil => rfl
  | append_singleton es e ih =>
    rw [List.map_append, List.map_singleton, List.nodup_append_comm] at distinct
    obtain ⟨new, others⟩ := List.nodup_cons.1 distinct
    have kept := ih others
    rw [ofList_append_singleton, insert, kept, insertEntry_of_notMem new]

/-- An entry of a longer list is the new one, or stands where it stood. -/
theorem append_singleton_eq_iff {α : Type} {l before behind : List α} {x y : α} :
    l ++ [y] = before ++ x :: behind ↔
      (l = before ∧ y = x ∧ behind = []) ∨
        ∃ others, l = before ++ x :: others ∧ behind = others ++ [y] := by
  constructor
  · intro parts
    rcases List.eq_nil_or_concat' behind with rfl | ⟨others, z, rfl⟩
    · obtain ⟨front, last⟩ := List.append_inj' parts rfl
      exact .inl ⟨front, List.singleton_inj.1 last, rfl⟩
    · rw [← List.cons_append, ← List.append_assoc] at parts
      obtain ⟨front, last⟩ := List.append_inj' parts rfl
      exact .inr ⟨others, front, by rw [List.singleton_inj.1 last]⟩
  · rintro (⟨rfl, rfl, rfl⟩ | ⟨others, rfl, rfl⟩)
    · rfl
    · rw [List.append_assoc, List.cons_append]

/-- A name has the value that was inserted under it last. -/
theorem get?_ofList_eq_some_iff {es : List (String × β)} {name : String} {value : β} :
    (ofList es).get? name = some value ↔
      ∃ before behind, es = before ++ (name, value) :: behind ∧ name ∉ behind.map Prod.fst := by
  induction es using List.reverseRecOn with
  | nil => simp [ofList, empty, get?]
  | append_singleton es e ih =>
    rw [ofList_append_singleton, get?_insert]
    simp only [append_singleton_eq_iff]
    by_cases same : name = e.1
    · rw [if_pos same, Option.some.injEq]
      constructor
      · rintro rfl
        exact ⟨es, [], .inl ⟨rfl, by rw [same], rfl⟩, List.not_mem_nil⟩
      · rintro ⟨before, behind, ⟨-, rfl, -⟩ | ⟨others, -, rfl⟩, last⟩
        · rfl
        · exact absurd (by simp [same]) last
    · rw [if_neg same, ih]
      constructor
      · rintro ⟨before, behind, rfl, last⟩
        exact ⟨before, behind ++ [e], .inr ⟨behind, rfl, rfl⟩, by simpa [same] using last⟩
      · rintro ⟨before, behind, ⟨-, rfl, -⟩ | ⟨others, rfl, rfl⟩, last⟩
        · exact absurd rfl same
        · exact ⟨before, others, rfl, fun later => last (by simp [later])⟩

end NameTable

end BenchCampaign
