import BenchCampaign.Proofs.Arithmetic.Greatest
import BenchCampaign.Proofs.Binary64.Size
import BenchCampaign.Proofs.NameTable.Insertions

/-!
# Result sets after any insertions

A result set is made by insertions, in which names may come again and values may be no numbers.
What it holds then is told by the history of the insertions alone: each name once, where it was
inserted first, with the value that was inserted last.  Its greatest value is one of these, so what
was overwritten has no part in it, and in which order they stand is told at most by a sign of zero.

* `ResultSet.max?_eq_of_get?_eq`: sets with the same values have the same greatest one.
* `ResultSet.ofList_remembers`: what a set holds after any insertions.
-/

namespace BenchCampaign

namespace ResultSet

open Arithmetic

/-! ## The greatest double -/

/-- The values of a set are those that its names have. -/
theorem mem_values_iff {r : ResultSet Float} (distinct : r.names.Nodup) {v : Float} :
    v ∈ values r ↔ ∃ d, r.get? d = some v := by
  simp only [values, List.mem_map, NameTable.get?_eq_some_iff distinct, Prod.exists,
    exists_eq_right]

/-- Two sets with the same values have the same greatest value, but for the sign of zero. -/
theorem max?_eq_of_get?_eq {r others : ResultSet Float} (distinct : r.names.Nodup)
    (distinct' : others.names.Nodup) (same : ∀ d, others.get? d = r.get? d) {m : Float}
    (greatest : max? r = some m) :
    ∃ m', max? others = some m' ∧ (m' = m ∨ (m' == 0) = true ∧ (m == 0) = true) := by
  have members (v : Float) : v ∈ values others ↔ v ∈ values r := by
    simp only [mem_values_iff distinct, mem_values_iff distinct', same]
  have top := isGreatest_max? Binary64.comparedBy_size greatest
  obtain ⟨m', greatest'⟩ : ∃ m', max? others = some m' := by
    refine Option.ne_none_iff_exists'.1 fun none => ?_
    have listed := (members m).2 top.mem
    rw [values, max?_eq_none_iff.1 none] at listed
    cases listed
  have top' := isGreatest_max? Binary64.comparedBy_size greatest'
  refine ⟨m', greatest', ?_⟩
  cases none : m.isNaN with
  | true =>
    refine .inl (Binary64.eq_of_isNaN ?_ none)
    by_contra number
    have isNumber := top.isNumber m' ((members m').1 top'.mem)
      (Binary64.isNumber_iff.2 (Bool.eq_false_iff.2 number))
    rw [Binary64.isNumber_iff, none] at isNumber
    cases isNumber
  | false =>
    have number := Binary64.isNumber_iff.2 none
    have number' := top'.isNumber m ((members m).2 top.mem) number
    have less := top.le m' ((members m').1 top'.mem) number'
    have more := top'.le m ((members m).2 top.mem) number
    exact Binary64.eq_or_zero_of_size_eq (Binary64.isNumber_iff.1 number') none
      (le_antisymm less more)

/-! ## Histories -/

/-- **A result set is a map in the order of first insertions.**  After any insertions its names are
the inserted ones, each once, in the order in which they first came, so there are as many as
there are different ones; a name has the value that was inserted under it last, and a name that was
never inserted has none.  There is a greatest value if anything was inserted: one of the values,
not less than any that is a number, and no number itself only if none of them is.  Insertions that
leave every name with the same value, whatever they overwrote and whichever name came first, have
the same greatest value, but for the sign of zero. -/
theorem ofList_remembers (es : List (String × Float)) :
    let set : ResultSet Float := NameTable.ofList es
    let names := es.map Prod.fst
    (set.names.Nodup ∧ (∀ d, d ∈ set.names ↔ d ∈ names) ∧
        (set.names.Pairwise fun d e => names.idxOf d < names.idxOf e) ∧
        set.size = names.toFinset.card) ∧
      ((∀ e ∈ set.entries, set.get? e.1 = some e.2) ∧ (∀ d, set.get? d = none ↔ d ∉ names) ∧
        ∀ d v, set.get? d = some v ↔
          ∃ before behind, es = before ++ (d, v) :: behind ∧ d ∉ behind.map Prod.fst) ∧
      (max? set = none ↔ es = []) ∧
      ∀ m, max? set = some m →
        (m ∈ values set ∧ ∀ v ∈ values set, v.isNaN = false → m.isNaN = false ∧ v ≤ m) ∧
        ∀ others : List (String × Float),
          (∀ d, (NameTable.ofList others).get? d = set.get? d) →
            ∃ m', max? (NameTable.ofList others : ResultSet Float) = some m' ∧
              (m' = m ∨ (m' == 0) = true ∧ (m == 0) = true) := by
  intro set names
  have order : set.names = names.eraseDups := NameTable.names_ofList es
  have distinct : set.names.Nodup := NameTable.nodup_names_ofList es
  have members (d : String) : d ∈ set.names ↔ d ∈ names := by rw [order, List.mem_eraseDups]
  refine ⟨⟨distinct, members, ?_, ?_⟩, ⟨fun e listed => ?_, fun d => ?_, fun d v => ?_⟩, ?_,
    fun m greatest => ⟨?_, fun others same => ?_⟩⟩
  · rw [order]
    exact pairwise_idxOf_eraseDups names
  · have finset : set.names.toFinset = names.toFinset := by
      ext d
      rw [List.mem_toFinset, List.mem_toFinset, members]
    rw [← finset, List.toFinset_card_of_nodup distinct, NameTable.names, List.length_map]
    rfl
  · exact (NameTable.get?_eq_some_iff distinct).2 listed
  · rw [NameTable.get?_eq_none_iff, members]
  · exact NameTable.get?_ofList_eq_some_iff
  · have nameless : set.names = [] ↔ names = [] := by
      simp only [List.eq_nil_iff_forall_not_mem, members]
    rw [NameTable.names, List.map_eq_nil_iff, List.map_eq_nil_iff] at nameless
    exact max?_eq_none_iff.trans nameless
  · have top := isGreatest_max? Binary64.comparedBy_size greatest
    refine ⟨top.mem, fun v listed number => ?_⟩
    have above := Binary64.isNumber_iff.1 (top.isNumber v listed (Binary64.isNumber_iff.2 number))
    have least := top.le v listed (Binary64.isNumber_iff.2 number)
    exact ⟨above, (Binary64.size_le_iff number above).2 least⟩
  · exact max?_eq_of_get?_eq distinct (NameTable.nodup_names_ofList others) same greatest

/-- The greatest value that was inserted is overwritten, beside what is no number. -/
theorem ofList_remembers_overwritten :
    let none : Float := 0.0 / 0.0
    let es : List (String × Float) := [("a", 9), ("b", none), ("a", 1)]
    let others : List (String × Float) := [("b", none), ("a", 1)]
    (∀ d, (NameTable.ofList others).get? d = (NameTable.ofList es).get? d) ∧
      max? (NameTable.ofList es : ResultSet Float) = some 1 ∧
      ∃ m', max? (NameTable.ofList others : ResultSet Float) = some m' ∧
        (m' = 1 ∨ (m' == 0) = true ∧ ((1 : Float) == 0) = true) := by
  intro none es others
  have same (d : String) : (NameTable.ofList others).get? d = (NameTable.ofList es).get? d := by
    simp only [es, others, NameTable.ofList, List.foldl_cons, List.foldl_nil,
      NameTable.get?_insert]
    by_cases first : d = "a" <;> simp [first]
  have greatest : max? (NameTable.ofList es : ResultSet Float) = some 1 := by decide +kernel
  exact ⟨same, greatest, ((ofList_remembers es).2.2.2 1 greatest).2 others same⟩

end ResultSet

end BenchCampaign
