import BenchCampaign.Proofs.Json.Numbers
import BenchCampaign.Proofs.Record.Written
import Mathlib.Data.List.Count
import Mathlib.Data.List.Nodup
import Mathlib.Data.List.Perm.Basic

/-!
# Which objects are tags and records

A tag and a record are read by the same five fields, yet not from the same objects.  A tag has no
further members; a record has, and there a workload may be written in one more way.  Either way a
field is read from the one member under its key, wherever that stands.

* `Json.exists_member?_iff`, `Json.forall_exists_member?_iff`: members that stand once.
* `Tag.Spells`, `Record.Spells`: members that a field can be read from.
* `Tag.read?_eq_some_iff`, `Record.read?_eq_some_iff`: the objects that each is read from.
* `Record.fields_read_from_members`: what this comes to for the texts of objects.
-/

namespace BenchCampaign

/-! ## Members that are looked up

A member is found if it is the only one under its key.  So what is asked of members that are looked
up can be asked of all members under the keys, if each key stands once.
-/

namespace Json

section Lookup

variable {ms : List (String × Json)} {key : String}

theorem mem_lookup_iff {v : Json} : v ∈ lookup ms key ↔ (key, v) ∈ ms := by
  simp [lookup]

theorem length_lookup (ms : List (String × Json)) (key : String) :
    (lookup ms key).length = (ms.map Prod.fst).count key := by
  rw [lookup, List.length_map, List.count, List.countP_map, List.countP_eq_length_filter]
  congr 2

/-- Some member under a key is the only one there and as it is asked to be. -/
theorem exists_member?_iff {P : Json → Prop} :
    (∃ v, member? ms key = some v ∧ P v) ↔
      (ms.map Prod.fst).count key = 1 ∧ ∀ m ∈ ms, m.1 = key → P m.2 := by
  have once : (∀ m ∈ ms, m.1 = key → P m.2) ↔ ∀ v ∈ lookup ms key, P v := by
    simp only [mem_lookup_iff]
    constructor
    · exact fun all v listed => all _ listed rfl
    · rintro all m listed rfl
      exact all _ listed
  rw [once, ← length_lookup, member?]
  rcases lookup ms key with _ | ⟨v, _ | ⟨v', rest⟩⟩ <;> simp

/-- So it is with all keys of some, which may stand among others. -/
theorem forall_exists_member?_iff {keys : List String} {P : String → Json → Prop} :
    (∀ key ∈ keys, ∃ v, member? ms key = some v ∧ P key v) ↔
      (∀ key ∈ keys, (ms.map Prod.fst).count key = 1) ∧ ∀ m ∈ ms, m.1 ∈ keys → P m.1 m.2 := by
  simp only [exists_member?_iff]
  constructor
  · intro all
    exact ⟨fun key known => (all key known).1, fun m listed known => (all m.1 known).2 m listed rfl⟩
  · rintro ⟨once, all⟩ key known
    refine ⟨once key known, ?_⟩
    rintro m listed rfl
    exact all m listed known

/-- Members of other keys do not count. -/
theorem count_filter {keys : List String} (known : key ∈ keys) :
    ((ms.filter fun m => keys.contains m.1).map Prod.fst).count key =
      (ms.map Prod.fst).count key := by
  have keysOf : (ms.filter fun m => keys.contains m.1).map Prod.fst =
      (ms.map Prod.fst).filter keys.contains := by
    rw [List.filter_map]
    rfl
  rw [keysOf]
  exact List.count_filter (List.contains_iff_mem.2 known)

end Lookup

/-! ## Values -/

theorem string?_eq_some_iff {v : Json} {s : String} : v.string? = some s ↔ v = .string s := by
  cases v <;> simp [string?]

theorem natural?_eq_some_iff {v : Json} {n : Nat} :
    v.natural? = some n ↔ v = .number (.natural n) := by
  unfold natural?
  split
  · simp
  next other => exact ⟨nofun, fun is => absurd is (other n)⟩

/-- A number of 32 bits is read from a natural number in range. -/
theorem word32?_eq_some_iff {v : Json} {w : UInt32} :
    v.word32? = some w ↔ v = .number (.natural w.toNat) := by
  rw [word32?, Decimal.bind_uint32_eq_some_iff, natural?_eq_some_iff]

/-- A number of 64 bits is read from a natural number in range. -/
theorem word64?_eq_some_iff {v : Json} {w : UInt64} :
    v.word64? = some w ↔ v = .number (.natural w.toNat) := by
  rw [word64?, Decimal.bind_uint64_eq_some_iff, natural?_eq_some_iff]

end Json

/-! ## Fields -/

namespace Workload

/-- A workload as it is written: its name, or that name with nothing under it. -/
inductive Spells (isNothing : Json → Bool) (w : Workload) : Json → Prop
  | name : Spells isNothing w (.string w.name)
  | member {nothing : Json} (none : isNothing nothing = true) :
    Spells isNothing w (.object [(w.name, nothing)])

theorem ofName?_eq_some_iff {s : String} {w : Workload} : ofName? s = some w ↔ s = w.name := by
  refine ⟨fun read => ?_, fun is => is ▸ ofName?_name w⟩
  unfold ofName? at read
  split at read
  next is => cases read; exact is
  split at read
  next is => cases read; exact is
  split at read
  next is => cases read; exact is
  next => cases read

theorem ofJsonWith?_eq_some_iff {isNothing : Json → Bool} {v : Json} {w : Workload} :
    ofJsonWith? isNothing v = some w ↔ w.Spells isNothing v := by
  constructor
  · intro read
    unfold ofJsonWith? at read
    split at read
    next s =>
      rw [ofName?_eq_some_iff.1 read]
      exact .name
    next name nothing =>
      split at read
      next none =>
        rw [ofName?_eq_some_iff.1 read]
        exact .member none
      next => cases read
    next => cases read
  · rintro (_ | none)
    · exact ofName?_name w
    · rw [ofJsonWith?, if_pos none, ofName?_name]

end Workload

namespace Tag

/-- A member that the field of a tag under its key is read from. -/
def Spells (isNothing : Json → Bool) (t : Tag) (key : String) (v : Json) : Prop :=
  key = "driver" ∧ v = .string t.driver ∨
  key = "workload" ∧ t.workload.Spells isNothing v ∨
  key = "concurrency" ∧ v = .number (.natural t.concurrency.toNat) ∨
  key = "tasks" ∧ v = .number (.natural t.tasks.toNat) ∨
  key = "sample" ∧ v = .number (.natural t.sample.toNat)

variable {isNothing : Json → Bool} {ms : List (String × Json)} {t : Tag}

/-- A tag is read field by field, each from the only member under its key. -/
theorem ofMembers?_eq_some_iff :
    ofMembers? (Workload.ofJsonWith? isNothing) ms = some t ↔
      ∀ key ∈ keys, ∃ v, Json.member? ms key = some v ∧ t.Spells isNothing key v := by
  have fields : (∀ key ∈ keys, ∃ v, Json.member? ms key = some v ∧ t.Spells isNothing key v) ↔
      Json.member? ms "driver" = some (.string t.driver) ∧
        (∃ v, Json.member? ms "workload" = some v ∧ t.workload.Spells isNothing v) ∧
        Json.member? ms "concurrency" = some (.number (.natural t.concurrency.toNat)) ∧
        Json.member? ms "tasks" = some (.number (.natural t.tasks.toNat)) ∧
        Json.member? ms "sample" = some (.number (.natural t.sample.toNat)) := by
    simp [keys, Spells]
  rw [fields]
  simp only [ofMembers?, ofValues?, bind, Option.bind_eq_some_iff, Json.string?_eq_some_iff,
    Json.word32?_eq_some_iff, Json.word64?_eq_some_iff, Workload.ofJsonWith?_eq_some_iff,
    Option.some.injEq]
  constructor
  · rintro ⟨_, driver, w, workload, _, concurrency, _, tasks, _, sample, _, rfl, _, spelt, _,
      rfl, _, rfl, _, rfl, rfl⟩
    exact ⟨driver, ⟨w, workload, spelt⟩, concurrency, tasks, sample⟩
  · rintro ⟨driver, ⟨w, workload, spelt⟩, concurrency, tasks, sample⟩
    exact ⟨_, driver, w, workload, _, concurrency, _, tasks, _, sample, _, rfl, _, spelt, _,
      rfl, _, rfl, _, rfl, rfl⟩

/-- A tag is written with such members. -/
theorem spells_fields (t : Tag) (isNothing : Json → Bool) :
    ∀ f ∈ t.fields, t.Spells isNothing f.key f.value := by
  have workload : t.workload.Spells isNothing (.string t.workload.name) := .name
  simp [fields, Spells, workload]

/-- Fields do not depend on each other. -/
theorem exists_spells_iff {members : String → Json → Prop} :
    (∃ t : Tag, ∀ key ∈ keys, ∃ v, members key v ∧ t.Spells isNothing key v) ↔
      ∀ key ∈ keys, ∃ v, members key v ∧ ∃ t : Tag, t.Spells isNothing key v := by
  constructor
  · rintro ⟨t, spelt⟩ key known
    obtain ⟨v, member, spells⟩ := spelt key known
    exact ⟨v, member, t, spells⟩
  · intro alone
    simp only [keys, List.forall_mem_cons] at alone
    obtain ⟨⟨d, driver, t₁, spells₁⟩, ⟨w, workload, t₂, spells₂⟩, ⟨c, concurrency, t₃, spells₃⟩,
      ⟨n, tasks, t₄, spells₄⟩, ⟨k, sample, t₅, spells₅⟩, -⟩ := alone
    refine ⟨⟨t₁.driver, t₂.workload, t₃.concurrency, t₄.tasks, t₅.sample⟩, ?_⟩
    simp only [keys, List.forall_mem_cons]
    exact ⟨⟨d, driver, by simpa [Spells] using spells₁⟩,
      ⟨w, workload, by simpa [Spells] using spells₂⟩,
      ⟨c, concurrency, by simpa [Spells] using spells₃⟩,
      ⟨n, tasks, by simpa [Spells] using spells₄⟩, ⟨k, sample, by simpa [Spells] using spells₅⟩,
      List.forall_mem_nil _⟩

theorem perm_keys_iff : (ms.map Prod.fst).Perm keys ↔
    (∀ m ∈ ms, m.1 ∈ keys) ∧ ∀ key ∈ keys, (ms.map Prod.fst).count key = 1 := by
  have distinct : keys.Nodup := by decide
  constructor
  · intro same
    refine ⟨fun m listed => same.subset (List.mem_map_of_mem listed), fun key known => ?_⟩
    rw [same.count_eq, List.count_eq_one_of_mem distinct known]
  · rintro ⟨known, once⟩
    rw [List.perm_iff_count]
    intro key
    by_cases isKey : key ∈ keys
    · rw [once key isKey, List.count_eq_one_of_mem distinct isKey]
    · have absent : key ∉ ms.map Prod.fst := by
        intro listed
        obtain ⟨m, member, rfl⟩ := List.mem_map.1 listed
        exact isKey (known m member)
      rw [List.count_eq_zero_of_not_mem absent, List.count_eq_zero_of_not_mem isKey]

/-- Where there are no further members, the keys are those of the fields, in some order. -/
theorem only_fields_iff {P : String → Json → Prop} :
    ((∀ m ∈ ms, m.1 ∈ keys) ∧ ∀ key ∈ keys, ∃ v, Json.member? ms key = some v ∧ P key v) ↔
      (ms.map Prod.fst).Perm keys ∧ ∀ m ∈ ms, P m.1 m.2 := by
  rw [Json.forall_exists_member?_iff, perm_keys_iff, and_assoc]
  refine and_congr_right fun known => and_congr_right fun _ => ?_
  exact forall₂_congr fun m listed => ⟨fun each => each (known m listed), fun each _ => each⟩

theorem ofJson?_object_eq_some_iff : ofJson? (.object ms) = some t ↔
    (∀ m ∈ ms, m.1 ∈ keys) ∧
      ∀ key ∈ keys, ∃ v, Json.member? ms key = some v ∧ t.Spells Json.isNull key v := by
  have known : (ms.all fun m => keys.contains m.1) = true ↔ ∀ m ∈ ms, m.1 ∈ keys := by
    simp only [List.all_eq_true, List.contains_iff_mem]
  have reader : Workload.ofJson? = Workload.ofJsonWith? Json.isNull := rfl
  rw [← ofMembers?_eq_some_iff, ← known, ofJson?, reader]
  split
  next all => exact (and_iff_right all).symm
  next other => exact iff_of_false (Option.some_ne_none t).symm fun both => other both.1

/-- What a tag is read from. -/
theorem read?_eq_some_iff {cs : List Char} (read : Json.read? cs = some (.object ms)) :
    read? cs = some t ↔
      (ms.map Prod.fst).Perm keys ∧ ∀ m ∈ ms, t.Spells Json.isNull m.1 m.2 := by
  rw [read?, read, Option.bind_some, ofJson?_object_eq_some_iff, only_fields_iff]

/-- Objects with the same members in any order are the same tag. -/
theorem read?_eq_of_perm {cs cs' : List Char} {ms' : List (String × Json)}
    (read : Json.read? cs = some (.object ms)) (read' : Json.read? cs' = some (.object ms'))
    (same : ms'.Perm ms) : read? cs' = read? cs := by
  refine Option.ext fun t => ?_
  rw [read?_eq_some_iff read', read?_eq_some_iff read, (same.map Prod.fst).congr_left keys]
  simp only [same.mem_iff]

/-- A tag is read if each member alone is one of some tag. -/
theorem exists_read?_iff {cs : List Char} (read : Json.read? cs = some (.object ms)) :
    (∃ t, read? cs = some t) ↔
      (ms.map Prod.fst).Perm keys ∧ ∀ m ∈ ms, ∃ t : Tag, t.Spells Json.isNull m.1 m.2 := by
  simp only [read?, read, Option.bind_some, ofJson?_object_eq_some_iff, exists_and_left]
  rw [exists_spells_iff, only_fields_iff]

end Tag

/-! ## Records -/

namespace Record

/-- The keys of a record's fields. -/
def keys : List String := ["driver", "workload", "concurrency", "tasks", "sample", "time"]

/-- A member that the field of a record under its key is read from.  Where members are set aside
first, a workload's name may also hold an empty object. -/
def Spells (r : Record) (key : String) (v : Json) : Prop :=
  r.tag.Spells Json.isNothing key v ∨ key = "time" ∧ v = .number (.natural r.time.toNat)

variable {ms : List (String × Json)} {r : Record}

theorem spells_iff_of_mem {key : String} (known : key ∈ Tag.keys) {v : Json} :
    r.Spells key v ↔ r.tag.Spells Json.isNothing key v := by
  have noTime : key ≠ "time" := by
    rintro rfl
    exact absurd known (by decide)
  simp [Spells, noTime]

theorem spells_time_iff {v : Json} :
    r.Spells "time" v ↔ v = .number (.natural r.time.toNat) := by
  simp [Spells, Tag.Spells]

theorem forall_mem_keys_iff {P : String → Prop} :
    (∀ key ∈ keys, P key) ↔ (∀ key ∈ Tag.keys, P key) ∧ P "time" := by
  have fields : keys = Tag.keys ++ ["time"] := rfl
  rw [fields, List.forall_mem_append, List.forall_mem_singleton]

/-- A record is read field by field, each from the only member under its key. -/
theorem ofJson?_object_eq_some_iff : ofJson? (.object ms) = some r ↔
    ∀ key ∈ keys, ∃ v, Json.member? ms key = some v ∧ r.Spells key v := by
  have tags : (∀ key ∈ Tag.keys, ∃ v, Json.member? ms key = some v ∧ r.Spells key v) ↔
      Tag.ofMembers? (Workload.ofJsonWith? Json.isNothing) ms = some r.tag := by
    rw [Tag.ofMembers?_eq_some_iff]
    exact forall₂_congr fun key known =>
      exists_congr fun v => and_congr_right fun _ => spells_iff_of_mem known
  simp only [forall_mem_keys_iff, tags, spells_time_iff, exists_eq_right]
  simp only [ofJson?, bind, Option.bind_eq_some_iff, Json.word64?_eq_some_iff, Option.some.injEq]
  constructor
  · rintro ⟨_, member, _, rfl, _, read, rfl⟩
    exact ⟨read, member⟩
  · rintro ⟨read, member⟩
    exact ⟨_, member, _, rfl, _, read, rfl⟩

theorem exists_spells_iff {members : String → Json → Prop} :
    (∃ r : Record, ∀ key ∈ keys, ∃ v, members key v ∧ r.Spells key v) ↔
      ∀ key ∈ keys, ∃ v, members key v ∧ ∃ r : Record, r.Spells key v := by
  constructor
  · rintro ⟨r, spelt⟩ key known
    obtain ⟨v, member, spells⟩ := spelt key known
    exact ⟨v, member, r, spells⟩
  · intro alone
    obtain ⟨tags, v, member, r, spells⟩ := forall_mem_keys_iff.1 alone
    obtain ⟨t, spelt⟩ := Tag.exists_spells_iff.2 fun key known => by
      obtain ⟨v, member, r, spells⟩ := tags key known
      exact ⟨v, member, r.tag, (spells_iff_of_mem known).1 spells⟩
    refine ⟨⟨t, r.time⟩, forall_mem_keys_iff.2 ⟨fun key known => ?_, v, member, ?_⟩⟩
    · obtain ⟨v, member, spells⟩ := spelt key known
      exact ⟨v, member, (spells_iff_of_mem known).2 spells⟩
    · rwa [spells_time_iff] at spells ⊢

/-- What a record is read from; members of other keys do not matter. -/
theorem read?_eq_some_iff {cs : List Char} (read : Json.read? cs = some (.object ms)) :
    read? cs = some r ↔ (∀ key ∈ keys, (ms.map Prod.fst).count key = 1) ∧
      ∀ m ∈ ms, m.1 ∈ keys → r.Spells m.1 m.2 := by
  rw [read?, read, Option.bind_some, ofJson?_object_eq_some_iff, Json.forall_exists_member?_iff]

/-- A record is read if each member alone is one of some record. -/
theorem exists_read?_iff {cs : List Char} (read : Json.read? cs = some (.object ms)) :
    (∃ r, read? cs = some r) ↔ (∀ key ∈ keys, (ms.map Prod.fst).count key = 1) ∧
      ∀ m ∈ ms, m.1 ∈ keys → ∃ r : Record, r.Spells m.1 m.2 := by
  simp only [read?, read, Option.bind_some, ofJson?_object_eq_some_iff]
  rw [exists_spells_iff, Json.forall_exists_member?_iff]

/-- Objects with the same members under the keys of a record, in any order, are the same record. -/
theorem read?_eq_of_perm {cs cs' : List Char} {ms' : List (String × Json)}
    (read : Json.read? cs = some (.object ms)) (read' : Json.read? cs' = some (.object ms'))
    (same : (ms'.filter fun m => keys.contains m.1).Perm
      (ms.filter fun m => keys.contains m.1)) :
    Record.read? cs' = Record.read? cs := by
  have counts (key : String) (known : key ∈ keys) :
      (ms'.map Prod.fst).count key = (ms.map Prod.fst).count key := by
    have among := (same.map Prod.fst).count_eq key
    rwa [Json.count_filter known, Json.count_filter known] at among
  have members (m : String × Json) (known : m.1 ∈ keys) : m ∈ ms' ↔ m ∈ ms := by
    simpa [known] using same.mem_iff (a := m)
  refine Option.ext fun r => ?_
  rw [read?_eq_some_iff read', read?_eq_some_iff read]
  refine and_congr (forall₂_congr fun key known => by rw [counts key known]) ?_
  constructor
  · exact fun spelt m listed known => spelt m ((members m known).2 listed) known
  · exact fun spelt m listed known => spelt m ((members m known).1 listed) known

end Record

/-! ## Texts -/

open Json in
/-- **Tags and records are read from their members.**  Take a text that is an object.  It is a tag
if its keys are those of a tag, each once, and each member alone is one of some tag; it is a record
if the keys of a record are among its keys, each once, and each member under one of these alone is
one of some record.  Then each field has the value of its member, and the text that is written for
the result is read as the same.  The order of members does not matter, nor, for a record, do the
members under other keys.  What an object's members are does not depend on white space, and a number
is a natural one of 64 bits if it is written in its digits alone. -/
theorem Record.fields_read_from_members :
    (∀ (cs : List Char) (ms : List (String × Json)), Json.read? cs = some (.object ms) →
      (((∃ t, Tag.read? cs = some t) ↔
          (ms.map Prod.fst).Perm ["driver", "workload", "concurrency", "tasks", "sample"] ∧
            ∀ m ∈ ms, ∃ t : Tag, t.Spells isNull m.1 m.2) ∧
        ∀ t, Tag.read? cs = some t →
          (∀ m ∈ ms, t.Spells isNull m.1 m.2) ∧ Tag.read? t.json = some t) ∧
      (((∃ r, Record.read? cs = some r) ↔
          (∀ key ∈ Record.keys, (ms.map Prod.fst).count key = 1) ∧
            ∀ m ∈ ms, m.1 ∈ Record.keys → ∃ r : Record, r.Spells m.1 m.2) ∧
        ∀ r, Record.read? cs = some r →
          (∀ m ∈ ms, m.1 ∈ Record.keys → r.Spells m.1 m.2) ∧ Record.read? r.json = some r) ∧
      ∀ (cs' : List Char) (ms' : List (String × Json)), Json.read? cs' = some (.object ms') →
        (ms'.Perm ms → Tag.read? cs' = Tag.read? cs) ∧
        ((ms'.filter fun m => Record.keys.contains m.1).Perm
            (ms.filter fun m => Record.keys.contains m.1) →
          Record.read? cs' = Record.read? cs)) ∧
    (∀ (members : List (Field × Gaps)) (before behind : List Char), members ≠ [] →
      (∀ m ∈ members, IsValue 126 m.1.text m.1.value ∧ m.2.Blank) →
      IsSpace before → IsSpace behind →
        Json.read? (before ++ (['\x7b'] ++ spacedMembers members ++ ['\x7d']) ++ behind) =
          some (.object (members.map fun m => m.1.read))) ∧
    ∀ (cs : List Char) (n : ℕ), Json.read? cs = some (.number (.natural n)) ↔
      n < UInt64.size ∧ ∃ before behind, IsSpace before ∧ IsSpace behind ∧
        cs = before ++ Nat.toDigits 10 n ++ behind := by
  refine ⟨fun cs ms read => ⟨⟨Tag.exists_read?_iff read, fun t tag => ?_⟩,
    ⟨Record.exists_read?_iff read, fun r record => ?_⟩, fun cs' ms' read' => ⟨?_, ?_⟩⟩,
    fun members before behind some values blank blank' => ?_,
    fun cs n => read?_eq_natural_iff⟩
  · exact ⟨((Tag.read?_eq_some_iff read).1 tag).2, t.read?_json⟩
  · exact ⟨((Record.read?_eq_some_iff read).1 record).2, r.read?_json⟩
  · exact Tag.read?_eq_of_perm read read'
  · exact Record.read?_eq_of_perm read read'
  · exact (isValue_object some values).read? (by decide) blank blank'

open Json in
/-- Members from the last to the first, with white space and, in a record, with notes. -/
theorem Record.fields_read_from_members_reordered :
    let t : Tag := ⟨"a", .mixed, 4, 10, 2⟩
    let note : Field := ⟨"note", "null".toList, .null⟩
    let gaps : Gaps := ⟨['\n'], [' '], [' '], []⟩
    let inTag := t.fields.reverse.map fun f => (f, gaps)
    let inRecord := (note :: (⟨t, 7⟩ : Record).timeField :: note :: t.fields.reverse).map
      fun f => (f, gaps)
    let cs := [' '] ++ (['\x7b'] ++ spacedMembers inTag ++ ['\x7d']) ++ ['\n']
    let cs' := [] ++ (['\x7b'] ++ spacedMembers inRecord ++ ['\x7d']) ++ []
    ((∃ t, Tag.read? cs = some t) ∧ ¬ ∃ r, Record.read? cs = some r) ∧
      (∃ r, Record.read? cs' = some r) ∧ ¬ ∃ t, Tag.read? cs' = some t := by
  intro t note gaps inTag inRecord cs cs'
  have blank : gaps.Blank := ⟨by decide, by decide, by decide, by decide⟩
  have read : Json.read? cs = some (.object (inTag.map fun m => m.1.read)) := by
    refine fields_read_from_members.2.1 inTag [' '] ['\n'] nofun (fun m listed => ?_)
      (by decide) (by decide)
    obtain ⟨f, isField, rfl⟩ := List.mem_map.1 listed
    exact ⟨(t.isScalar_fields f (List.mem_reverse.1 isField)).isValue 126, blank⟩
  have read' : Json.read? cs' = some (.object (inRecord.map fun m => m.1.read)) := by
    refine fields_read_from_members.2.1 inRecord [] [] nofun (fun m listed => ?_) nofun nofun
    obtain ⟨f, isField, rfl⟩ := List.mem_map.1 listed
    refine ⟨IsScalar.isValue ?_ 126, blank⟩
    simp only [List.mem_cons, List.mem_reverse] at isField
    rcases isField with rfl | rfl | rfl | isField
    · exact isScalar_null
    · exact isScalar_toDigits (by decide)
    · exact isScalar_null
    · exact t.isScalar_fields f isField
  obtain ⟨⟨isTag, -⟩, ⟨isRecord, -⟩, -⟩ := fields_read_from_members.1 cs _ read
  obtain ⟨⟨isTag', -⟩, ⟨isRecord', -⟩, -⟩ := fields_read_from_members.1 cs' _ read'
  refine ⟨⟨isTag.2 ⟨by decide, fun m listed => ?_⟩, fun none => ?_⟩,
    isRecord'.2 ⟨by decide, fun m listed known => ?_⟩, fun none => ?_⟩
  · simp only [inTag, List.map_map, List.mem_map, List.mem_reverse] at listed
    obtain ⟨f, isField, rfl⟩ := listed
    exact ⟨t, t.spells_fields isNull f isField⟩
  · exact absurd ((isRecord.1 none).1 "time" (by decide)) (by decide)
  · simp only [inRecord, List.map_map, List.mem_map, List.mem_cons, List.mem_reverse] at listed
    obtain ⟨f, rfl | rfl | rfl | isField, rfl⟩ := listed
    · exact absurd known (by decide)
    · exact ⟨⟨t, 7⟩, .inr ⟨rfl, rfl⟩⟩
    · exact absurd known (by decide)
    · exact ⟨⟨t, 7⟩, .inl (t.spells_fields isNothing f isField)⟩
  · exact absurd (isTag'.1 none).1 (by decide)

-- Only in a record may there be an empty object under the name of a workload.
example :
    let members := ("\"driver\":\"a\",\"workload\":\x7b\"mixed\":\x7b\x7d\x7d," ++
      "\"concurrency\":4,\"tasks\":10,\"sample\":2").toList
    Tag.read? (['\x7b'] ++ members ++ ['\x7d']) = none ∧
      Record.read? (['\x7b'] ++ members ++ ",\"time\":7\x7d".toList) =
        some ⟨⟨"a", .mixed, 4, 10, 2⟩, 7⟩ := by
  decide +kernel

end BenchCampaign
