/-!
# Tables by name

A table holds one value per name, in the order in which the names first came.
Giving a name a new value keeps its place.

* `NameTable.insert`, `NameTable.erase`, `NameTable.get?`, `NameTable.ofList`.
* `NameTable.names_insert`, `NameTable.get?_insert`: what a table holds after an insertion.
* `NameTable.get?_erase`: what it holds without a name.
-/

namespace BenchCampaign

/-- One value per name, in order of first insertion. -/
structure NameTable (β : Type) where
  entries : List (String × β)
deriving Repr, DecidableEq

namespace NameTable

variable {β : Type}

/-- The table without names. -/
def empty : NameTable β := ⟨[]⟩

/-- The names of a table, in order. -/
def names (t : NameTable β) : List String := t.entries.map Prod.fst

/-- The number of names. -/
def size (t : NameTable β) : Nat := t.entries.length

/-- Whether the table has no name. -/
def isEmpty (t : NameTable β) : Bool := t.entries.isEmpty

/-- Puts a value under a name, at the end if the name is new. -/
def insertEntry (name : String) (value : β) : List (String × β) → List (String × β)
  | [] => [(name, value)]
  | (n, v) :: rest =>
    if n = name then (n, value) :: rest else (n, v) :: insertEntry name value rest

/-- Gives a name a value; a name that is there keeps its place. -/
def insert (t : NameTable β) (name : String) (value : β) : NameTable β :=
  ⟨insertEntry name value t.entries⟩

/-- The value of a name. -/
def get? (t : NameTable β) (name : String) : Option β :=
  (t.entries.find? fun e => e.1 = name).map Prod.snd

/-- Whether a name has a value. -/
def contains (t : NameTable β) (name : String) : Bool :=
  (t.get? name).isSome

/-- Only the names that pass a test, each with its value and in its place. -/
def keep (t : NameTable β) (p : String → Bool) : NameTable β :=
  ⟨t.entries.filter fun e => p e.1⟩

/-- Without a name. -/
def erase (t : NameTable β) (name : String) : NameTable β := t.keep (· ≠ name)

/-- The table of a list of insertions, in order. -/
def ofList (es : List (String × β)) : NameTable β :=
  es.foldl (fun t e => t.insert e.1 e.2) empty

/-! ## What an insertion does -/

theorem map_fst_insertEntry (name : String) (value : β) (es : List (String × β)) :
    (insertEntry name value es).map Prod.fst =
      if name ∈ es.map Prod.fst then es.map Prod.fst else es.map Prod.fst ++ [name] := by
  induction es with
  | nil => simp [insertEntry]
  | cons e rest ih =>
    obtain ⟨n, v⟩ := e
    by_cases h : n = name
    · simp [insertEntry, h]
    · have h' : name ≠ n := fun hn => h hn.symm
      simp only [insertEntry, h, if_false, List.map_cons, List.mem_cons, h', false_or, ih]
      split <;> simp

/-- A new name goes to the end, and a known one stays where it is. -/
theorem names_insert (t : NameTable β) (name : String) (value : β) :
    (t.insert name value).names =
      if name ∈ t.names then t.names else t.names ++ [name] :=
  map_fst_insertEntry name value t.entries

theorem find?_insertEntry (name : String) (value : β) (es : List (String × β)) (n : String) :
    (insertEntry name value es).find? (fun e => e.1 = n) =
      if n = name then some (name, value) else es.find? fun e => e.1 = n := by
  induction es with
  | nil =>
    by_cases same : n = name
    · simp [insertEntry, same]
    · have different : name ≠ n := fun eq => same eq.symm
      simp [insertEntry, same, different]
  | cons e rest ih =>
    obtain ⟨m, v⟩ := e
    by_cases here : m = name
    · by_cases same : n = name
      · simp [insertEntry, here, same]
      · have different : name ≠ n := fun eq => same eq.symm
        simp [insertEntry, here, same, different]
    · by_cases found : m = n
      · have different : n ≠ name := fun eq => here (found.trans eq)
        simp [insertEntry, found, different]
      · simp [insertEntry, here, found, ih]

/-- An insertion gives its name the value, and leaves all other names alone. -/
theorem get?_insert (t : NameTable β) (name : String) (value : β) (n : String) :
    (t.insert name value).get? n = if n = name then some value else t.get? n := by
  rw [get?, insert, find?_insertEntry]
  split <;> rfl

/-! ## What taking a name away does -/

theorem get?_erase (t : NameTable β) (name n : String) :
    (t.erase name).get? n = if n = name then none else t.get? n := by
  rw [get?, erase, keep, List.find?_filter]
  by_cases same : n = name
  · rw [if_pos same, List.find?_eq_none.2, Option.map_none]
    intro e _ found
    simp only [decide_eq_true_eq] at found
    exact found.1 (found.2.trans same)
  · have kept (e : String × β) : e.1 ≠ name ∧ e.1 = n ↔ e.1 = n :=
      and_iff_right_of_imp fun here eq => same (here.symm.trans eq)
    simp only [decide_eq_true_eq, kept, if_neg same, get?]

end NameTable

end BenchCampaign
