import BenchCampaign.Proofs.Attempts
import BenchCampaign.Proofs.NameTable.Insertions
import BenchCampaign.Yaml.Fields
import Mathlib.Data.List.Nodup

/-!
# The fields of a mapping

A mapping has fields if its keys are declared names and none of them is repeated.  The node of a
field is then the one that stands under its name, at whatever place.

* `Fields.AreDeclared`: entries that make the fields of a mapping.
* `Fields.ofNode?_eq_some_iff`: which mappings have fields, and what these are.
* `Fields.areDeclared_congr_perm`, `Fields.areDeclared_insert_iff`,
  `Fields.areDeclared_replace_iff`: changes that leave declared entries declared.
* `Fields.find?_eq_some_iff`, `Fields.find?_eq_none_iff`: the node of a field.
* `Fields.find?_congr`, `Fields.find?_insert_of_ne`: other fields do not matter to it.
-/

namespace BenchCampaign

namespace Yaml

namespace Fields

theorem allDistinct_iff {names : List String} : allDistinct names = true ↔ names.Nodup := by
  induction names with
  | nil => simp [allDistinct]
  | cons name names ih => simp [allDistinct, ih]

/-- The texts of the keys, as far as these are texts. -/
def keyTexts (entries : List (Node × Node)) : List String := entries.filterMap fun e => e.1.text?

/-- The fields of entries. -/
def ofEntries (entries : List (Node × Node)) : Fields := entries.filterMap field?

/-- Every key is a declared name, and no name stands twice. -/
structure AreDeclared (declared : List String) (entries : List (Node × Node)) : Prop where
  known : ∀ e ∈ entries, ∃ name ∈ declared, e.1.text? = some name
  once : (keyTexts entries).Nodup

variable {declared : List String} {entries entries' : List (Node × Node)} {name : String}

theorem map_fst_ofEntries : (ofEntries entries).map Prod.fst = keyTexts entries := by
  rw [ofEntries, keyTexts, List.map_filterMap]
  refine List.filterMap_congr fun e _ => ?_
  rw [field?, Option.map_map]
  exact Option.map_id'

theorem mem_ofEntries {n : Node} :
    (name, n) ∈ ofEntries entries ↔ ∃ e ∈ entries, e.1.text? = some name ∧ e.2 = n := by
  simp [ofEntries, field?]

theorem mem_keyTexts : name ∈ keyTexts entries ↔ ∃ e ∈ entries, e.1.text? = some name := by
  rw [keyTexts, List.mem_filterMap]

/-! ## Which mappings have fields -/

theorem areDeclared_iff :
    AreDeclared declared entries ↔
      (∀ e ∈ entries, (field? e).isSome = true) ∧
        ((keyTexts entries).all declared.contains && allDistinct (keyTexts entries)) = true := by
  rw [Bool.and_eq_true, List.all_eq_true, allDistinct_iff]
  constructor
  · rintro ⟨known, once⟩
    refine ⟨fun e member => ?_, fun name listed => ?_, once⟩
    · obtain ⟨name, -, is⟩ := known e member
      rw [field?, is]
      rfl
    · obtain ⟨e, member, is⟩ := mem_keyTexts.1 listed
      obtain ⟨name', inside, is'⟩ := known e member
      rw [is, Option.some.injEq] at is'
      exact List.contains_iff_mem.2 (is' ▸ inside)
  · rintro ⟨texts, known, once⟩
    refine ⟨fun e member => ?_, once⟩
    have text := texts e member
    rw [field?, Option.isSome_map, Option.isSome_iff_exists] at text
    obtain ⟨name, is⟩ := text
    exact ⟨name, List.contains_iff_mem.1 (known name (mem_keyTexts.2 ⟨e, member, is⟩)), is⟩

/-- A mapping of declared names has the fields of its entries, and nothing else has any. -/
theorem ofNode?_eq_some_iff {n : Node} {fs : Fields} :
    ofNode? declared n = some fs ↔
      ∃ entries, n.entries? = some entries ∧ AreDeclared declared entries ∧
        fs = ofEntries entries := by
  have each (entries : List (Node × Node)) :
      ((entries.mapM field?).bind fun fields =>
        if (fields.map Prod.fst).all declared.contains && allDistinct (fields.map Prod.fst) then
          some fields
        else none) = some fs ↔ AreDeclared declared entries ∧ fs = ofEntries entries := by
    simp only [Option.bind_eq_some_iff, mapM_eq_some_iff_filterMap, areDeclared_iff]
    constructor
    · rintro ⟨fields, ⟨texts, rfl⟩, made⟩
      rw [← ofEntries, map_fst_ofEntries, Option.ite_none_right_eq_some] at made
      obtain ⟨sound, ⟨⟩⟩ := made
      exact ⟨⟨texts, sound⟩, rfl⟩
    · rintro ⟨⟨texts, sound⟩, rfl⟩
      refine ⟨_, ⟨texts, rfl⟩, ?_⟩
      rw [← ofEntries, map_fst_ofEntries, if_pos sound]
  exact Option.bind_eq_some_iff.trans
    (exists_congr fun entries => and_congr_right fun _ => each entries)

theorem ofNode?_mapping {tag : Option NodeTag} (sound : AreDeclared declared entries) :
    ofNode? declared (.mapping tag entries) = some (ofEntries entries) :=
  ofNode?_eq_some_iff.2 ⟨entries, rfl, sound, rfl⟩

theorem ofNode?_mapping_eq_none {tag : Option NodeTag} (unsound : ¬ AreDeclared declared entries) :
    ofNode? declared (.mapping tag entries) = none := by
  refine Option.eq_none_iff_forall_ne_some.2 fun fs made => ?_
  obtain ⟨_, ⟨⟩, sound, -⟩ := ofNode?_eq_some_iff.1 made
  exact unsound sound

/-! ## Other entries with the same names -/

theorem areDeclared_cons_iff {e : Node × Node} :
    AreDeclared declared (e :: entries) ↔
      (∃ name ∈ declared, e.1.text? = some name ∧ ∀ e' ∈ entries, e'.1.text? ≠ some name) ∧
        AreDeclared declared entries := by
  have texts {name : String} (is : e.1.text? = some name) :
      keyTexts (e :: entries) = name :: keyTexts entries :=
    List.filterMap_cons_some (f := fun e : Node × Node => e.1.text?) is
  constructor
  · rintro ⟨known, once⟩
    obtain ⟨⟨name, inside, is⟩, others⟩ := List.forall_mem_cons.1 known
    rw [texts is, List.nodup_cons] at once
    exact ⟨⟨name, inside, is, fun e' member is' => once.1 (mem_keyTexts.2 ⟨e', member, is'⟩)⟩,
      others, once.2⟩
  · rintro ⟨⟨name, inside, is, new⟩, known, once⟩
    refine ⟨List.forall_mem_cons.2 ⟨⟨name, inside, is⟩, known⟩, ?_⟩
    rw [texts is, List.nodup_cons]
    refine ⟨fun listed => ?_, once⟩
    obtain ⟨e', member, is'⟩ := mem_keyTexts.1 listed
    exact new e' member is'

theorem AreDeclared.of_perm (order : entries.Perm entries') (sound : AreDeclared declared entries) :
    AreDeclared declared entries' where
  known e member := sound.known e (order.mem_iff.2 member)
  once := (order.filterMap _).nodup_iff.1 sound.once

theorem areDeclared_congr_perm (order : entries.Perm entries') :
    AreDeclared declared entries ↔ AreDeclared declared entries' :=
  ⟨.of_perm order, .of_perm order.symm⟩

/-- An entry under a declared name that is not there yet may stand anywhere. -/
theorem areDeclared_insert_iff {before behind : List (Node × Node)} {e : Node × Node}
    (inside : name ∈ declared) (is : e.1.text? = some name)
    (new : ∀ e' ∈ before ++ behind, e'.1.text? ≠ some name) :
    AreDeclared declared (before ++ e :: behind) ↔ AreDeclared declared (before ++ behind) := by
  rw [areDeclared_congr_perm List.perm_middle, areDeclared_cons_iff]
  exact and_iff_right ⟨name, inside, is, new⟩

/-- What stands under a key does not matter to the names. -/
theorem areDeclared_replace_iff {before behind : List (Node × Node)} {key v v' : Node} :
    AreDeclared declared (before ++ (key, v) :: behind) ↔
      AreDeclared declared (before ++ (key, v') :: behind) := by
  have front (v : Node) : AreDeclared declared (before ++ (key, v) :: behind) ↔
      AreDeclared declared ((key, v) :: (before ++ behind)) :=
    areDeclared_congr_perm List.perm_middle
  rw [front v, front v', areDeclared_cons_iff, areDeclared_cons_iff]

/-! ## The node of a field -/

/-- The fields of entries as a table, in which a field is looked up. -/
def table (entries : List (Node × Node)) : NameTable Node := ⟨ofEntries entries⟩

theorem names_table (entries : List (Node × Node)) : (table entries).names = keyTexts entries :=
  map_fst_ofEntries

theorem find?_eq_some_iff (once : (keyTexts entries).Nodup) {n : Node} :
    (ofEntries entries).find? name = some n ↔
      ∃ e ∈ entries, e.1.text? = some name ∧ e.2 = n := by
  have distinct : (table entries).names.Nodup := (names_table entries).symm ▸ once
  exact (NameTable.get?_eq_some_iff distinct).trans mem_ofEntries

theorem find?_eq_none_iff :
    (ofEntries entries).find? name = none ↔ ∀ e ∈ entries, e.1.text? ≠ some name := by
  refine (NameTable.get?_eq_none_iff (t := table entries)).trans ?_
  rw [names_table, mem_keyTexts]
  exact ⟨fun none e member is => none ⟨e, member, is⟩, fun none ⟨e, member, is⟩ => none e member is⟩

/-- A field has the same node in mappings that have the same nodes under its name. -/
theorem find?_congr (once : (keyTexts entries).Nodup) (once' : (keyTexts entries').Nodup)
    (same : ∀ e : Node × Node, e.1.text? = some name → (e ∈ entries ↔ e ∈ entries')) :
    (ofEntries entries).find? name = (ofEntries entries').find? name := by
  ext n
  rw [find?_eq_some_iff once, find?_eq_some_iff once']
  constructor
  · rintro ⟨e, member, is, rfl⟩
    exact ⟨e, (same e is).1 member, is, rfl⟩
  · rintro ⟨e, member, is, rfl⟩
    exact ⟨e, (same e is).2 member, is, rfl⟩

/-- An entry under one name does not matter to the fields of other names. -/
theorem find?_insert_of_ne {before behind : List (Node × Node)} {key v : Node} {other : String}
    (once : (keyTexts (before ++ (key, v) :: behind)).Nodup) (is : key.text? = some other)
    (ne : name ≠ other) :
    (ofEntries (before ++ (key, v) :: behind)).find? name =
      (ofEntries (before ++ behind)).find? name := by
  have fewer : (before ++ behind).Sublist (before ++ (key, v) :: behind) :=
    (List.sublist_cons_self _ behind).append_left before
  refine find?_congr once (once.sublist (fewer.filterMap _)) fun e named => ?_
  have different : e ≠ (key, v) := by
    rintro rfl
    exact ne (Option.some.inj (named.symm.trans is))
  rw [List.mem_append, List.mem_cons, List.mem_append]
  simp only [different, false_or]

end Fields

end Yaml

end BenchCampaign
