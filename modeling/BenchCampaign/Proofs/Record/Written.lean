import BenchCampaign.Proofs.Json.Objects
import BenchCampaign.Proofs.Text.Words
import BenchCampaign.Record.Reader

/-!
# Reading tags and records that were written

A tag and a record are written as objects, each on a line of its own, and read back from there:
a tag by its own reader, a record by one that sets the members of the tag aside first.

* `Tag.read?_json`, `Record.read?_json`: both are read back as they were.
* `Tag.lineFeed_notMem_line`: a tag stays on its line, whatever its driver's name is.
* `Record.readLines?_lines`: so do any number of records, in their order.
-/

namespace BenchCampaign

/-! ## One line -/

namespace Json

theorem lineFeed_notMem_quoteChar (c : Char) : '\n' ∉ quoteChar c := by
  unfold quoteChar
  split
  · decide
  split
  · decide
  split
  · decide
  split
  · decide
  split
  · decide
  split
  · decide
  split
  · decide
  split
  · next control =>
    rw [escapeCode_eq control]
    have digit : ∀ d < 16, '\n' ≠ Nat.digitChar d := by decide
    have high := digit (c.toNat / 16) (by omega)
    have low := digit (c.toNat % 16) (by omega)
    simp [high, low]
  · next feed _ _ _ =>
    rw [List.mem_singleton]
    exact fun eq => feed eq.symm

theorem lineFeed_notMem_quote (s : List Char) : '\n' ∉ quote s := by
  have body : '\n' ∉ quoteBody s := by
    unfold quoteBody
    rw [List.mem_flatMap]
    rintro ⟨c, _, feed⟩
    exact lineFeed_notMem_quoteChar c feed
  simp [quote, body]

theorem lineFeed_notMem_toDigits (n : Nat) : '\n' ∉ Nat.toDigits 10 n := by
  intro feed
  exact absurd (Decimal.isDigit_toDigits feed) (by decide)

end Json

namespace Tag

theorem notMem_intercalate {c : Char} {sep : List Char} {parts : List (List Char)}
    (absentSep : c ∉ sep) (absent : ∀ part ∈ parts, c ∉ part) :
    c ∉ List.intercalate sep parts := by
  induction parts with
  | nil => exact List.not_mem_nil
  | cons part parts ih =>
    have first := absent part List.mem_cons_self
    have tail := ih fun other member => absent other (List.mem_cons_of_mem part member)
    by_cases single : parts = []
    · rw [single, List.intercalate_singleton]
      exact first
    · rw [List.intercalate_cons_of_ne_nil single, List.mem_append, List.mem_append]
      rintro ((inFirst | inSep) | inTail)
      · exact first inFirst
      · exact absentSep inSep
      · exact tail inTail

theorem lineFeed_notMem_braced {fields : List Json.Field}
    (free : ∀ f ∈ fields, '\n' ∉ f.text) :
    '\n' ∉ braced (fields.map Json.Field.written) := by
  have inner : '\n' ∉ List.intercalate [','] (fields.map Json.Field.written) := by
    apply notMem_intercalate (by decide)
    intro part member
    obtain ⟨f, isField, rfl⟩ := List.mem_map.mp member
    simp [Json.Field.written, Tag.member, Json.lineFeed_notMem_quote, free f isField]
  simp [braced, inner]

/-- The signs of an object stand at its ends, so that there is nothing to trim. -/
theorem trim_braced (members : List (List Char)) :
    Text.trim (braced members) = braced members := by
  have last : (braced members).getLast? = some '\x7d' := List.getLast?_concat
  apply Text.trim_eq_self
  · rintro c ⟨⟩
    decide
  · rw [last]
    rintro c ⟨⟩
    decide

end Tag

/-! ## Members -/

namespace Json

/-- Members of other keys do not hide a member. -/
theorem member?_append {key : String} {more : List (String × Json)}
    (absent : ∀ m ∈ more, m.1 ≠ key) (members : List (String × Json)) :
    member? (members ++ more) key = member? members key := by
  have none : more.filter (fun m => m.1 = key) = [] := by
    rw [List.filter_eq_nil_iff]
    intro m member eq
    exact absent m member (of_decide_eq_true eq)
  unfold member? lookup
  rw [List.filter_append, none, List.append_nil]

theorem word32?_toNat (w : UInt32) : (number (.natural w.toNat)).word32? = some w :=
  Decimal.bind_uint32_eq_some_iff.2 rfl

theorem word64?_toNat (w : UInt64) : (number (.natural w.toNat)).word64? = some w :=
  Decimal.bind_uint64_eq_some_iff.2 rfl

end Json

namespace Tag

/-- The members of a tag's object, each with its value. -/
def fields (t : Tag) : List Json.Field :=
  [ ⟨"driver", Json.quote t.driver.toList, .string t.driver⟩,
    ⟨"workload", Json.quote t.workload.name.toList, .string t.workload.name⟩,
    ⟨"concurrency", Nat.toDigits 10 t.concurrency.toNat, .number (.natural t.concurrency.toNat)⟩,
    ⟨"tasks", Nat.toDigits 10 t.tasks.toNat, .number (.natural t.tasks.toNat)⟩,
    ⟨"sample", Nat.toDigits 10 t.sample.toNat, .number (.natural t.sample.toNat)⟩ ]

theorem members_eq (t : Tag) : t.members = t.fields.map Json.Field.written := rfl

theorem isScalar_fields (t : Tag) : ∀ f ∈ t.fields, Json.IsScalar f.text f.value := by
  have concurrency : t.concurrency.toNat < UInt64.size :=
    Nat.lt_trans t.concurrency.toNat_lt (by decide)
  have sample : t.sample.toNat < UInt64.size := Nat.lt_trans t.sample.toNat_lt (by decide)
  simp only [fields, List.forall_mem_cons]
  exact ⟨Json.isScalar_quote _, Json.isScalar_quote _, Json.isScalar_toDigits concurrency,
    Json.isScalar_toDigits t.tasks.toNat_lt, Json.isScalar_toDigits sample, nofun⟩

theorem lineFeed_notMem_fields (t : Tag) : ∀ f ∈ t.fields, '\n' ∉ f.text := by
  simp only [fields, List.forall_mem_cons]
  exact ⟨Json.lineFeed_notMem_quote _, Json.lineFeed_notMem_quote _,
    Json.lineFeed_notMem_toDigits _, Json.lineFeed_notMem_toDigits _,
    Json.lineFeed_notMem_toDigits _, nofun⟩

theorem lineFeed_notMem_json (t : Tag) : '\n' ∉ t.json := by
  unfold json
  rw [members_eq]
  exact lineFeed_notMem_braced t.lineFeed_notMem_fields

/-- A tag stays on its line, whatever its driver's name is. -/
theorem lineFeed_notMem_line (t : Tag) : '\n' ∉ t.line := by
  unfold line
  rw [List.mem_append]
  rintro (inLead | inJson)
  · exact absurd inLead (by decide)
  · exact t.lineFeed_notMem_json inJson

/-- The members of a tag give the tag, also with one member more of another key. -/
theorem ofMembers?_fields (t : Tag) (workload? : Json → Option Workload)
    (reads : ∀ w : Workload, workload? (.string w.name) = some w)
    (more : List (String × Json)) (others : ∀ m ∈ more, m.1 ∉ keys) :
    ofMembers? workload? (t.fields.map Json.Field.read ++ more) = some t := by
  have absent : ∀ key ∈ keys, ∀ m ∈ more, m.1 ≠ key :=
    fun key known m member eq => others m member (eq ▸ known)
  unfold ofMembers?
  rw [Json.member?_append (absent "driver" (by decide)),
    Json.member?_append (absent "workload" (by decide)),
    Json.member?_append (absent "concurrency" (by decide)),
    Json.member?_append (absent "tasks" (by decide)),
    Json.member?_append (absent "sample" (by decide))]
  simp [fields, Json.Field.read, Json.member?, Json.lookup, ofValues?, Json.string?, reads,
    Json.word32?_toNat, Json.word64?_toNat]

/-- A tag is read back from its object. -/
theorem read?_json (t : Tag) : read? t.json = some t := by
  have nonempty : t.fields ≠ [] := List.cons_ne_nil _ _
  have known : (t.fields.map Json.Field.read).all (fun m => keys.contains m.1) = true := by
    simp [fields, Json.Field.read, keys]
  have members := ofMembers?_fields t Workload.ofJson? Workload.ofName?_name [] nofun
  rw [List.append_nil] at members
  unfold read? json
  rw [members_eq, Json.read?_braced nonempty t.isScalar_fields, Option.bind_some, ofJson?,
    if_pos known, members]

end Tag

/-! ## Records -/

namespace Record

/-- The member of a record that its tag has not. -/
def timeField (r : Record) : Json.Field :=
  ⟨"time", Nat.toDigits 10 r.time.toNat, .number (.natural r.time.toNat)⟩

theorem json_eq (r : Record) :
    r.json = Tag.braced ((r.tag.fields ++ [r.timeField]).map Json.Field.written) := by
  rw [List.map_append, ← Tag.members_eq]
  rfl

/-- A record is read back from its object. -/
theorem read?_json (r : Record) : read? r.json = some r := by
  have nonempty : r.tag.fields ++ [r.timeField] ≠ [] := List.cons_ne_nil _ _
  have scalars : ∀ f ∈ r.tag.fields ++ [r.timeField], Json.IsScalar f.text f.value := by
    rw [List.forall_mem_append, List.forall_mem_singleton]
    exact ⟨r.tag.isScalar_fields, Json.isScalar_toDigits r.time.toNat_lt⟩
  have other : ∀ m ∈ [r.timeField.read], m.1 ∉ Tag.keys := by
    rw [List.forall_mem_singleton]
    show "time" ∉ Tag.keys
    decide
  have members := Tag.ofMembers?_fields r.tag (Workload.ofJsonWith? Json.isNothing)
    Workload.ofName?_name [r.timeField.read] other
  have time : Json.member? (r.tag.fields.map Json.Field.read ++ [r.timeField.read]) "time" =
      some (.number (.natural r.time.toNat)) := by
    simp [Tag.fields, timeField, Json.Field.read, Json.member?, Json.lookup]
  unfold read?
  rw [json_eq, Json.read?_braced nonempty scalars, Option.bind_some, List.map_append,
    List.map_singleton, ofJson?, time, members]
  simp [Json.word64?_toNat]

theorem lineFeed_notMem_json (r : Record) : '\n' ∉ r.json := by
  rw [json_eq]
  apply Tag.lineFeed_notMem_braced
  rw [List.forall_mem_append, List.forall_mem_singleton]
  exact ⟨r.tag.lineFeed_notMem_fields, Json.lineFeed_notMem_toDigits _⟩

/-! ## Records on lines -/

/-- Records are as many lines. -/
theorem lineContents_lines (rs : List Record) :
    Text.lineContents (lines rs) = rs.map json := by
  unfold Text.lineContents
  induction rs with
  | nil => rfl
  | cons r rs ih =>
    have text : lines (r :: rs) = r.json ++ '\n' :: lines rs := by
      unfold lines line
      rw [List.flatMap_cons, List.append_assoc, List.singleton_append]
    have last : r.json.getLast? = some '\x7d' := List.getLast?_concat
    rw [text, Text.splitLines_line r.lineFeed_notMem_json, List.map_cons, ih,
      Text.lineContent_line, if_neg (by rw [last]; decide), List.map_cons]

/-- Records are read back from their lines, none lost and in their order. -/
theorem readLines?_lines (rs : List Record) : readLines? (lines rs) = some rs := by
  have visible : ∀ text ∈ rs.map json, (!(Text.trim text).isEmpty) = true := by
    intro text member
    obtain ⟨r, _, rfl⟩ := List.mem_map.mp member
    unfold json
    rw [Tag.trim_braced]
    rfl
  unfold readLines?
  rw [lineContents_lines, List.filter_eq_self.mpr visible]
  induction rs with
  | nil => rfl
  | cons r rs ih =>
    have tail := ih fun text member => visible text (List.mem_cons_of_mem r.json member)
    rw [List.map_cons, List.mapM_cons, read?_json, tail]
    rfl

end Record

end BenchCampaign
