import BenchCampaign.Proofs.Yaml.Fields
import Mathlib.Logic.Relation

/-!
# Shapes of nodes

A shape says what a node is to look like: a value, a list of items, or a record of declared fields.
It does so without a way to read the node as a whole.  A way to read nodes follows a shape if it
reads just the nodes that have the shape, and reads the same from nodes that say the same of it.

* `Field.exists_read_iff`: which mappings have a value for a field.
* `Shape`, `Shape.Accepts`: shapes, and which nodes have them.
* `Shape.Restates`: a node that says the same with one record in another order, or with one
  omitted field written out.
* `Shape.Part`: the parts of a node with their shapes.
* `follows_value`, `follows_list`, `follows_record`: what follows a shape by its parts.
-/

namespace BenchCampaign

namespace Yaml

/-- What a node is to look like. -/
inductive Shape : Type 1 where
  | value {β : Type} (decode : Node → Option β)
  | list (item : Shape)
  | record (fields : List (Field × Shape))

namespace Field

/-- A field with a value that has no fields of its own. -/
def alone (f : Field) : Field × Shape := (f, .value f.decode)

theorem read_of_find?_eq_none {f : Field} {fs : Fields} (omitted : fs.find? f.name = none) :
    f.read fs = f.default := by
  rw [read, omitted]

theorem read_of_find?_eq_some {f : Field} {fs : Fields} {n : Node}
    (there : fs.find? f.name = some n) : f.read fs = f.decode n := by
  rw [read, there]

theorem read_congr {f : Field} {fs fs' : Fields} (same : fs.find? f.name = fs'.find? f.name) :
    f.read fs = f.read fs' := by
  rw [read, read, same]

variable {f : Field} {entries : List (Node × Node)}

theorem read_of_mem (once : (Fields.keyTexts entries).Nodup) {e : Node × Node}
    (member : e ∈ entries) (is : e.1.text? = some f.name) :
    f.read (.ofEntries entries) = f.decode e.2 :=
  read_of_find?_eq_some ((Fields.find?_eq_some_iff once).2 ⟨e, member, is, rfl⟩)

theorem read_of_omitted (omitted : ∀ e ∈ entries, e.1.text? ≠ some f.name) :
    f.read (.ofEntries entries) = f.default :=
  read_of_find?_eq_none (Fields.find?_eq_none_iff.2 omitted)

/-- A field has a value if it is there or may be omitted, and its node can be read. -/
theorem exists_read_iff (once : (Fields.keyTexts entries).Nodup) :
    (∃ y, f.read (.ofEntries entries) = some y) ↔
      (f.default = none → ∃ e ∈ entries, e.1.text? = some f.name) ∧
        ∀ e ∈ entries, e.1.text? = some f.name → ∃ y, f.decode e.2 = some y := by
  by_cases present : ∃ e ∈ entries, e.1.text? = some f.name
  · obtain ⟨e, member, is⟩ := present
    rw [read_of_mem once member is]
    constructor
    · intro value
      refine ⟨fun _ => ⟨e, member, is⟩, fun e' member' is' => ?_⟩
      rwa [← read_of_mem once member' is', read_of_mem once member is]
    · rintro ⟨-, values⟩
      exact values e member is
  · have omitted : ∀ e ∈ entries, e.1.text? ≠ some f.name := fun e member is =>
      present ⟨e, member, is⟩
    rw [read_of_omitted omitted, ← Option.ne_none_iff_exists']
    constructor
    · exact fun default => ⟨fun none => absurd none default,
        fun e member is => absurd is (omitted e member)⟩
    · exact fun ⟨complete, _⟩ none => present (complete none)

end Field

namespace Shape

/-- The names of the fields of a record. -/
def names (fields : List (Field × Shape)) : List String := fields.map fun f => f.1.name

/-! ## Nodes of a shape -/

/-- A node has a shape.  In a record every key is a declared field and none is repeated, every
field without a default is there, and what stands under a field has the shape of that field. -/
inductive Accepts : Shape → Node → Prop
  | value {β : Type} {decode : Node → Option β} {n : Node} {x : β} (reads : decode n = some x) :
    Accepts (.value decode) n
  | list {item : Shape} {n : Node} {items : List Node} (sequence : n.items? = some items)
    (each : ∀ m ∈ items, Accepts item m) : Accepts (.list item) n
  | record {fields : List (Field × Shape)} {n : Node} {entries : List (Node × Node)}
    (mapping : n.entries? = some entries) (declared : Fields.AreDeclared (names fields) entries)
    (complete : ∀ f ∈ fields, f.1.default = none → ∃ e ∈ entries, e.1.text? = some f.1.name)
    (each : ∀ f ∈ fields, ∀ e ∈ entries, e.1.text? = some f.1.name → Accepts f.2 e.2) :
    Accepts (.record fields) n

/-- A node says the same as another one: a record has its keys in another order, or a field that it
omits is written out with its default; the record may be the node or any part of it. -/
inductive Restates : Shape → Node → Node → Prop
  | reordered {fields : List (Field × Shape)} {tag : Option NodeTag}
    {entries entries' : List (Node × Node)} (order : entries.Perm entries') :
    Restates (.record fields) (.mapping tag entries) (.mapping tag entries')
  | written {fields : List (Field × Shape)} {tag : Option NodeTag}
    {before behind : List (Node × Node)} {key v : Node} {f : Field × Shape} (declared : f ∈ fields)
    (is : key.text? = some f.1.name) (optional : f.1.default ≠ none)
    (omitted : ∀ e ∈ before ++ behind, e.1.text? ≠ some f.1.name)
    (default : f.1.decode v = f.1.default) :
    Restates (.record fields) (.mapping tag (before ++ behind))
      (.mapping tag (before ++ (key, v) :: behind))
  | field {fields : List (Field × Shape)} {tag : Option NodeTag}
    {before behind : List (Node × Node)} {key v v' : Node} {f : Field × Shape}
    (declared : f ∈ fields) (is : key.text? = some f.1.name) (value : Restates f.2 v v') :
    Restates (.record fields) (.mapping tag (before ++ (key, v) :: behind))
      (.mapping tag (before ++ (key, v') :: behind))
  | item {item : Shape} {tag : Option NodeTag} {before behind : List Node} {v v' : Node}
    (value : Restates item v v') :
    Restates (.list item) (.sequence tag (before ++ v :: behind))
      (.sequence tag (before ++ v' :: behind))

/-- A node of a shape is part of another one. -/
inductive Part : Shape → Node → Shape → Node → Prop
  | self (σ : Shape) (n : Node) : Part σ n σ n
  | item {item τ : Shape} {n m v : Node} {items : List Node} (sequence : n.items? = some items)
    (member : v ∈ items) (part : Part item v τ m) : Part (.list item) n τ m
  | field {fields : List (Field × Shape)} {τ : Shape} {n m : Node} {entries : List (Node × Node)}
    {f : Field × Shape} {e : Node × Node} (mapping : n.entries? = some entries)
    (declared : f ∈ fields) (member : e ∈ entries) (is : e.1.text? = some f.1.name)
    (part : Part f.2 e.2 τ m) : Part (.record fields) n τ m

/-- Every part of a node of a shape has the shape of that part. -/
theorem accepts_of_part {σ τ : Shape} {n m : Node} (part : Part σ n τ m) (whole : σ.Accepts n) :
    τ.Accepts m := by
  induction part with
  | self => exact whole
  | item sequence member _ ih =>
    cases whole with
    | list sequence' each =>
      obtain rfl := Option.some.inj (sequence.symm.trans sequence')
      exact ih (each _ member)
  | field mapping declared member is _ ih =>
    cases whole with
    | record mapping' _ _ each =>
      obtain rfl := Option.some.inj (mapping.symm.trans mapping')
      exact ih (each _ declared _ member is)

end Shape

/-! ## What follows a shape -/

/-- A way to read nodes reads those of a shape, and the same from those that say the same. -/
structure Follows {β : Type} (decode : Node → Option β) (σ : Shape) : Prop where
  accepts (n : Node) : (∃ x, decode n = some x) ↔ σ.Accepts n
  restates {n n' : Node} (same : σ.Restates n n') : decode n' = decode n

section Follows

variable {β : Type} {decode : Node → Option β} {σ : Shape}

theorem Follows.eq_of_eqvGen (follows : Follows decode σ) {n n' : Node}
    (same : Relation.EqvGen σ.Restates n n') : decode n' = decode n := by
  induction same with
  | rel _ _ step => exact follows.restates step
  | refl => rfl
  | symm _ _ _ ih => exact ih.symm
  | trans _ _ _ _ _ ih ih' => exact ih'.trans ih

/-- A key that is no field of its record spoils the whole node, at whatever depth it stands. -/
theorem Follows.eq_none_of_unknown (follows : Follows decode σ) {n m : Node}
    {fields : List (Field × Shape)} {entries : List (Node × Node)} {e : Node × Node}
    (part : σ.Part n (.record fields) m) (mapping : m.entries? = some entries)
    (member : e ∈ entries) (unknown : ∀ name ∈ Shape.names fields, e.1.text? ≠ some name) :
    decode n = none := by
  refine Option.eq_none_iff_forall_ne_some.2 fun x reads => ?_
  cases Shape.accepts_of_part part ((follows.accepts n).1 ⟨x, reads⟩) with
  | record mapping' declared =>
    obtain rfl := Option.some.inj (mapping.symm.trans mapping')
    obtain ⟨name, inside, is⟩ := declared.known e member
    exact unknown name inside is

theorem follows_value (decode : Node → Option β) : Follows decode (.value decode) where
  accepts _ := ⟨fun ⟨_, reads⟩ => .value reads, fun | .value reads => ⟨_, reads⟩⟩
  restates same := nomatch same

theorem follows_alone (f : Field) : Follows f.alone.1.decode f.alone.2 :=
  follows_value f.decode

theorem follows_alone_map (fs : List Field) : ∀ f ∈ fs.map Field.alone, Follows f.1.decode f.2 :=
  List.forall_mem_map.2 fun f _ => follows_alone f

theorem follows_list (each : Follows decode σ) : Follows (Node.list? decode) (.list σ) where
  accepts n := by
    simp only [Node.list?, Option.bind_eq_some_iff, mapM_eq_some_iff_filterMap]
    constructor
    · rintro ⟨_, items, sequence, all, rfl⟩
      refine .list sequence fun m member => ?_
      exact (each.accepts m).1 (Option.isSome_iff_exists.1 (all m member))
    · intro whole
      cases whole with
      | list sequence all =>
        refine ⟨_, _, sequence, fun m member => ?_, rfl⟩
        exact Option.isSome_iff_exists.2 ((each.accepts m).2 (all m member))
  restates same := by
    cases same with
    | item value =>
      refine mapM_congr_of_map_eq ?_
      rw [List.map_append, List.map_append, List.map_cons, List.map_cons, each.restates value]

end Follows

/-! ## Records -/

/-- A record is put together from the values of its fields. -/
structure Assembles {β : Type} (fields : List (Field × Shape)) (assemble : Fields → Option β) :
    Prop where
  reads (fs : Fields) : (∃ x, assemble fs = some x) ↔ ∀ f ∈ fields, ∃ y, f.1.read fs = some y
  congr {fs fs' : Fields} (same : ∀ f ∈ fields, f.1.read fs = f.1.read fs') :
    assemble fs = assemble fs'

theorem Assembles.pure {β : Type} (x : β) : Assembles [] (fun _ => some x) where
  reads _ := ⟨fun _ => List.forall_mem_nil _, fun _ => ⟨x, rfl⟩⟩
  congr _ := rfl

/-- A record is put together from the value of one field and those of the others. -/
theorem Assembles.bind {β : Type} {f : Field} {σ : Shape} {fields : List (Field × Shape)}
    {assemble : f.Value → Fields → Option β} (others : ∀ y, Assembles fields (assemble y)) :
    Assembles ((f, σ) :: fields) (fun fs => (f.read fs).bind fun y => assemble y fs) where
  reads fs := by
    rw [List.forall_mem_cons]
    constructor
    · rintro ⟨x, made⟩
      obtain ⟨y, first, rest⟩ := Option.bind_eq_some_iff.1 made
      exact ⟨⟨y, first⟩, ((others y).reads fs).1 ⟨x, rest⟩⟩
    · rintro ⟨⟨y, first⟩, rest⟩
      obtain ⟨x, made⟩ := ((others y).reads fs).2 rest
      exact ⟨x, Option.bind_eq_some_iff.2 ⟨y, first, made⟩⟩
  congr same := by
    obtain ⟨first, rest⟩ := List.forall_mem_cons.1 same
    dsimp only at first ⊢
    rw [first]
    exact congrArg _ (funext fun y => (others y).congr rest)

section Record

variable {β : Type} {decode : Node → Option β} {assemble : Fields → Option β}
  {fields : List (Field × Shape)}
  (opens : ∀ n, decode n = (Fields.ofNode? (Shape.names fields) n).bind assemble)
  (assembles : Assembles fields assemble) (distinct : (Shape.names fields).Nodup)

include opens

theorem exists_record_iff (n : Node) :
    (∃ x, decode n = some x) ↔
      ∃ entries, n.entries? = some entries ∧ Fields.AreDeclared (Shape.names fields) entries ∧
        ∃ x, assemble (.ofEntries entries) = some x := by
  simp only [opens, Option.bind_eq_some_iff, Fields.ofNode?_eq_some_iff]
  constructor
  · rintro ⟨x, _, ⟨entries, mapping, declared, rfl⟩, made⟩
    exact ⟨entries, mapping, declared, x, made⟩
  · rintro ⟨entries, mapping, declared, x, made⟩
    exact ⟨x, _, ⟨entries, mapping, declared, rfl⟩, made⟩

include assembles

theorem accepts_record (each : ∀ f ∈ fields, Follows f.1.decode f.2) (n : Node) :
    (∃ x, decode n = some x) ↔ (Shape.record fields).Accepts n := by
  rw [exists_record_iff opens]
  constructor
  · rintro ⟨entries, mapping, declared, made⟩
    have values := (assembles.reads _).1 made
    have field (f : Field × Shape) (inside : f ∈ fields) :=
      (Field.exists_read_iff declared.once).1 (values f inside)
    exact .record mapping declared (fun f inside => (field f inside).1) fun f inside e member is =>
      ((each f inside).accepts _).1 ((field f inside).2 e member is)
  · intro whole
    cases whole with
    | record mapping declared complete parts =>
      refine ⟨_, mapping, declared, (assembles.reads _).2 fun f inside => ?_⟩
      refine (Field.exists_read_iff declared.once).2 ⟨complete f inside, fun e member is => ?_⟩
      exact ((each f inside).accepts _).2 (parts f inside e member is)

/-- Mappings are read alike if their keys are declared alike and their fields have the same
values. -/
theorem record_congr {tag : Option NodeTag} {entries entries' : List (Node × Node)}
    (alike : Fields.AreDeclared (Shape.names fields) entries ↔
      Fields.AreDeclared (Shape.names fields) entries')
    (same : (Fields.keyTexts entries).Nodup → (Fields.keyTexts entries').Nodup →
      ∀ f ∈ fields, f.1.read (.ofEntries entries) = f.1.read (.ofEntries entries')) :
    decode (.mapping tag entries') = decode (.mapping tag entries) := by
  rw [opens, opens]
  by_cases declared : Fields.AreDeclared (Shape.names fields) entries
  · have declared' := alike.1 declared
    rw [Fields.ofNode?_mapping declared, Fields.ofNode?_mapping declared']
    exact (assembles.congr (same declared.once declared'.once)).symm
  · have undeclared := mt alike.2 declared
    rw [Fields.ofNode?_mapping_eq_none declared, Fields.ofNode?_mapping_eq_none undeclared]

include distinct

theorem restates_record (each : ∀ f ∈ fields, Follows f.1.decode f.2) {n n' : Node}
    (same : (Shape.record fields).Restates n n') : decode n' = decode n := by
  -- a field of another name than the one that is changed has the same node
  have other {f g : Field × Shape} (inside : f ∈ fields) (inside' : g ∈ fields) (ne : g ≠ f) :
      g.1.name ≠ f.1.name := fun named =>
    ne (List.inj_on_of_nodup_map distinct inside' inside named)
  cases same with
  | reordered order =>
    refine record_congr opens assembles (Fields.areDeclared_congr_perm order)
      fun once once' f _ => Field.read_congr ?_
    exact Fields.find?_congr once once' fun e _ => order.mem_iff
  | @written _ _ before behind key v f inside is optional omitted default =>
    have listed : f.1.name ∈ Shape.names fields := List.mem_map_of_mem inside
    refine record_congr opens assembles (Fields.areDeclared_insert_iff listed is omitted).symm
      fun once once' g inside' => ?_
    by_cases changed : g = f
    · subst changed
      rw [Field.read_of_omitted omitted, Field.read_of_mem once' List.mem_append_cons_self is,
        default]
    · have ne := other inside inside' changed
      exact Field.read_congr (Fields.find?_insert_of_ne once' is ne).symm
  | @field _ _ before behind key v v' f inside is value =>
    refine record_congr opens assembles Fields.areDeclared_replace_iff
      fun once once' g inside' => ?_
    by_cases changed : g = f
    · subst changed
      rw [Field.read_of_mem once List.mem_append_cons_self is,
        Field.read_of_mem once' List.mem_append_cons_self is, (each g inside).restates value]
    · have ne := other inside inside' changed
      refine Field.read_congr ?_
      rw [Fields.find?_insert_of_ne once is ne, Fields.find?_insert_of_ne once' is ne]

/-- What reads the fields of a mapping and puts them together follows the record of the fields, if
what reads each field follows the shape of that field. -/
theorem follows_record (each : ∀ f ∈ fields, Follows f.1.decode f.2) :
    Follows decode (.record fields) where
  accepts := accepts_record opens assembles each
  restates := restates_record opens assembles distinct each

end Record

end Yaml

end BenchCampaign
