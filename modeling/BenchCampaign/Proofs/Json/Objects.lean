import BenchCampaign.Proofs.Json.Written
import BenchCampaign.Tag
import Mathlib.Data.List.DropRight

/-!
# Reading objects

An object is read as the list of its members, in the order of the text and with repetitions, however
much white space stands between its parts.

* `Json.IsValue`: texts that are read as a value.
* `Json.isValue_object`: an object of values is a value.
* `Json.read?_braced`: an object that was written survives as the list of its members.
-/

namespace BenchCampaign

namespace Json

/-! ## White space -/

/-- A text of white space. -/
def IsSpace (text : List Char) : Prop := ∀ c ∈ text, isSpace c = true

instance (text : List Char) : Decidable (IsSpace text) :=
  List.decidableBAll _ text

theorem skip_append {space : List Char} (blank : IsSpace space) (rest : List Char) :
    skip (space ++ rest) = skip rest :=
  List.dropWhile_append_of_pos blank

theorem skip_skip (cs : List Char) : skip (skip cs) = skip cs :=
  List.dropWhile_idempotent isSpace cs

theorem readValue_append {space : List Char} (blank : IsSpace space) (fuel depth : Nat)
    (rest : List Char) : readValue fuel depth (space ++ rest) = readValue fuel depth rest := by
  cases fuel with
  | zero => rfl
  | succ fuel => rw [readValue, readValue, skip_append blank]

theorem readMembers_skip (fuel depth : Nat) (cs : List Char) :
    readMembers fuel depth (skip cs) = readMembers fuel depth cs := by
  cases fuel with
  | zero => rfl
  | succ fuel => rw [readMembers, readMembers, skip_skip]

/-- White space is no part of a number. -/
theorem EndsNumber.append {space rest : List Char} (ends : EndsNumber rest)
    (blank : IsSpace space) : EndsNumber (space ++ rest) := by
  cases space with
  | nil => exact ends
  | cons c space =>
    have visible := blank c List.mem_cons_self
    rintro d ⟨⟩
    have cases : c = ' ' ∨ c = '\n' ∨ c = '\t' ∨ c = '\r' := by
      simpa [isSpace, or_assoc] using visible
    rcases cases with rfl | rfl | rfl | rfl <;> decide

theorem endsNumber_nil : EndsNumber [] := nofun

/-- What can follow a member: a comma or the end of the object. -/
theorem endsNumber_cons {c : Char} (follows : c = ',' ∨ c = '\x7d') (rest : List Char) :
    EndsNumber (c :: rest) := by
  rintro d ⟨⟩
  rcases follows with rfl | rfl <;> decide

/-! ## Values -/

/-- A text that is read as a value if there is room for some levels of arrays and objects, unless a
number could go on behind it.  Fuel for every character, and as much again, is enough. -/
def IsValue (levels : Nat) (text : List Char) (value : Json) : Prop :=
  ∀ (fuel depth : Nat) (rest : List Char), 2 * text.length < fuel → levels ≤ depth →
    EndsNumber rest → readValue fuel depth (text ++ rest) = some (value, rest)

variable {levels : Nat} {text : List Char} {value : Json}

/-- A value without parts needs no room. -/
theorem IsScalar.isValue (scalar : IsScalar text value) (levels : Nat) :
    IsValue levels text value := by
  intro fuel depth rest enough _ ends
  obtain ⟨fuel, rfl⟩ : ∃ n, fuel = n + 1 := ⟨fuel - 1, by omega⟩
  exact scalar.readValue fuel depth ends

/-- A document is a value with white space around it. -/
theorem IsValue.read? (isValue : IsValue levels text value) (room : levels ≤ maxDepth)
    {before behind : List Char} (blank : IsSpace before) (blank' : IsSpace behind) :
    read? (before ++ text ++ behind) = some value := by
  have ends : EndsNumber behind := by simpa using endsNumber_nil.append blank'
  have read : readValue (2 * (before ++ text ++ behind).length + 2) maxDepth
      (before ++ text ++ behind) = some (value, behind) := by
    rw [List.append_assoc, readValue_append blank]
    refine isValue _ _ _ ?_ room ends
    simp only [List.length_append]
    omega
  have none : skip behind = [] := by simpa [skip] using skip_append blank' []
  unfold Json.read?
  rw [read]
  simp [none]

/-! ## Objects -/

/-- A member as it is written, and the value that its text has. -/
structure Field where
  key : String
  text : List Char
  value : Json

/-- White space around the parts of a member. -/
structure Gaps where
  beforeKey : List Char := []
  behindKey : List Char := []
  beforeValue : List Char := []
  behindValue : List Char := []

/-- There is nothing but white space. -/
structure Gaps.Blank (g : Gaps) : Prop where
  beforeKey : IsSpace g.beforeKey
  behindKey : IsSpace g.behindKey
  beforeValue : IsSpace g.beforeValue
  behindValue : IsSpace g.behindValue

namespace Field

/-- The text of a member. -/
def written (f : Field) : List Char := Tag.member f.key f.text

/-- The text of a member with white space around its parts. -/
def spaced (f : Field) (g : Gaps) : List Char :=
  g.beforeKey ++ quote f.key.toList ++ g.behindKey ++ [':'] ++ g.beforeValue ++ f.text ++
    g.behindValue

/-- The member that is read from it. -/
def read (f : Field) : String × Json := (f.key, f.value)

theorem spaced_none (f : Field) : f.spaced {} = f.written := by
  simp [spaced, written, Tag.member]

theorem length_text_lt (f : Field) (g : Gaps) : f.text.length + 1 < (f.spaced g).length := by
  simp only [spaced, quote, List.length_append, List.length_singleton]
  omega

end Field

/-- A member in front of others, or of the end. -/
theorem readMembers_spaced {f : Field} (isValue : IsValue levels f.text f.value) {g : Gaps}
    (blank : g.Blank) {fuel depth : Nat} (enough : 2 * f.text.length < fuel)
    (room : levels ≤ depth) {c : Char} (follows : c = ',' ∨ c = '\x7d') (rest : List Char) :
    readMembers (fuel + 1) depth (f.spaced g ++ c :: rest) =
      match c :: rest with
      | '\x7d' :: rest => some ([f.read], rest)
      | ',' :: rest => (readMembers fuel depth rest).map fun p => (f.read :: p.1, p.2)
      | _ => none := by
  have shape : f.spaced g ++ c :: rest = g.beforeKey ++ '"' :: (quoteBody f.key.toList ++ '"' ::
      (g.behindKey ++ ':' :: (g.beforeValue ++ (f.text ++ (g.behindValue ++ c :: rest))))) := by
    simp [Field.spaced, quote]
  have ends := (endsNumber_cons follows rest).append blank.behindValue
  have value : readValue fuel depth (g.beforeValue ++ (f.text ++ (g.behindValue ++ c :: rest))) =
      some (f.value, g.behindValue ++ c :: rest) := by
    rw [readValue_append blank.beforeValue]
    exact isValue fuel depth _ enough room ends
  have visible : isSpace c = false := by rcases follows with rfl | rfl <;> decide
  rw [shape, readMembers, skip_append blank.beforeKey, skip_cons (by decide)]
  simp only [readString_quoteBody, skip_append blank.behindKey,
    skip_cons (show isSpace ':' = false by decide), value, skip_append blank.behindValue,
    skip_cons visible, String.ofList_toList]
  rfl

/-- Members with white space around their parts, and commas between them. -/
def spacedMembers (members : List (Field × Gaps)) : List Char :=
  List.intercalate [','] (members.map fun m => m.1.spaced m.2)

theorem spacedMembers_cons_cons (m m' : Field × Gaps) (members : List (Field × Gaps)) :
    spacedMembers (m :: m' :: members) =
      m.1.spaced m.2 ++ ',' :: spacedMembers (m' :: members) := by
  rw [spacedMembers, List.map_cons, List.map_cons, List.intercalate_cons_cons, List.append_assoc,
    List.singleton_append]
  rfl

theorem spacedMembers_singleton (m : Field × Gaps) : spacedMembers [m] = m.1.spaced m.2 :=
  List.intercalate_singleton

theorem readMembers_spacedMembers {members : List (Field × Gaps)} (nonempty : members ≠ [])
    (values : ∀ m ∈ members, IsValue levels m.1.text m.1.value ∧ m.2.Blank) (fuel : Nat)
    (enough : 2 * (spacedMembers members).length < fuel) {depth : Nat} (room : levels ≤ depth)
    (rest : List Char) :
    readMembers fuel depth (spacedMembers members ++ '\x7d' :: rest) =
      some (members.map fun m => m.1.read, rest) := by
  induction members generalizing fuel with
  | nil => exact (nonempty rfl).elim
  | cons m members ih =>
    obtain ⟨fuel, rfl⟩ : ∃ n, fuel = n + 1 := ⟨fuel - 1, by omega⟩
    obtain ⟨isValue, blank⟩ := values m List.mem_cons_self
    have long := m.1.length_text_lt m.2
    cases members with
    | nil =>
      rw [spacedMembers_singleton] at enough ⊢
      rw [readMembers_spaced isValue blank (by omega) room (.inr rfl)]
      rfl
    | cons m' members =>
      rw [spacedMembers_cons_cons, List.length_append, List.length_cons] at enough
      have tail := ih (List.cons_ne_nil m' members)
        (fun n listed => values n (List.mem_cons_of_mem m listed)) fuel (by omega)
      rw [spacedMembers_cons_cons, List.append_assoc, List.cons_append,
        readMembers_spaced isValue blank (by omega) room (.inl rfl)]
      simp only [tail]
      rfl

/-- Behind white space, members begin with a quotation mark. -/
theorem exists_spacedMembers_eq (m : Field × Gaps) (members : List (Field × Gaps)) :
    ∃ tail, spacedMembers (m :: members) = m.2.beforeKey ++ '"' :: tail := by
  obtain ⟨tail, first⟩ : ∃ tail, m.1.spaced m.2 = m.2.beforeKey ++ '"' :: tail :=
    ⟨quoteBody m.1.key.toList ++ ['"'] ++ m.2.behindKey ++ [':'] ++ m.2.beforeValue ++ m.1.text ++
      m.2.behindValue, by simp [Field.spaced, quote]⟩
  cases members with
  | nil => exact ⟨tail, by rw [spacedMembers_singleton, first]⟩
  | cons m' members =>
    refine ⟨tail ++ ',' :: spacedMembers (m' :: members), ?_⟩
    rw [spacedMembers_cons_cons, first, List.append_assoc, List.cons_append]

/-- An object of values is a value with one more level. -/
theorem isValue_object {members : List (Field × Gaps)} (nonempty : members ≠ [])
    (values : ∀ m ∈ members, IsValue levels m.1.text m.1.value ∧ m.2.Blank) :
    IsValue (levels + 1) (['\x7b'] ++ spacedMembers members ++ ['\x7d'])
      (.object (members.map fun m => m.1.read)) := by
  intro fuel depth rest enough room _
  obtain ⟨fuel, rfl⟩ : ∃ n, fuel = n + 1 := ⟨fuel - 1, by omega⟩
  obtain ⟨depth, rfl⟩ : ∃ n, depth = n + 1 := ⟨depth - 1, by omega⟩
  simp only [List.length_append, List.length_singleton] at enough
  have inner := readMembers_spacedMembers nonempty values fuel (by omega)
    (Nat.le_of_succ_le_succ room) rest
  obtain ⟨m, others, rfl⟩ := List.exists_cons_of_ne_nil nonempty
  obtain ⟨tail, begins⟩ := exists_spacedMembers_eq m others
  have blank := (values m List.mem_cons_self).2.beforeKey
  have first : skip (spacedMembers (m :: others) ++ '\x7d' :: rest) =
      '"' :: (tail ++ '\x7d' :: rest) := by
    rw [begins, List.append_assoc, skip_append blank, List.cons_append, skip_cons (by decide)]
  have shape : ['\x7b'] ++ spacedMembers (m :: others) ++ ['\x7d'] ++ rest =
      '\x7b' :: (spacedMembers (m :: others) ++ '\x7d' :: rest) := by simp
  rw [← readMembers_skip, first] at inner
  rw [shape, readValue, skip_cons (by decide)]
  simp only [first]
  rw [if_neg (by omega)]
  show (readMembers fuel depth _).map _ = _
  rw [inner]
  rfl

/-- An object is read back as the list of its members. -/
theorem read?_braced {fields : List Field} (nonempty : fields ≠ [])
    (scalars : ∀ f ∈ fields, IsScalar f.text f.value) :
    read? (Tag.braced (fields.map Field.written)) = some (.object (fields.map Field.read)) := by
  have blank : Gaps.Blank {} := ⟨nofun, nofun, nofun, nofun⟩
  let members : List (Field × Gaps) := fields.map fun f => (f, {})
  have object : IsValue 1 (['\x7b'] ++ spacedMembers members ++ ['\x7d'])
      (.object (members.map fun m => m.1.read)) := by
    refine isValue_object (by simpa [members] using nonempty) fun m listed => ?_
    obtain ⟨f, isField, rfl⟩ := List.mem_map.1 listed
    exact ⟨(scalars f isField).isValue 0, blank⟩
  have written : spacedMembers members = List.intercalate [','] (fields.map Field.written) := by
    simp only [spacedMembers, members, List.map_map, Function.comp_def, Field.spaced_none]
  have read : (members.map fun m => m.1.read) = fields.map Field.read := by
    simp only [members, List.map_map, Function.comp_def]
  rw [written, read] at object
  have document : read? ([] ++ Tag.braced (fields.map Field.written) ++ []) = _ :=
    object.read? (by decide) nofun nofun
  rwa [List.nil_append, List.append_nil] at document

end Json

end BenchCampaign
