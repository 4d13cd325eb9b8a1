import BenchCampaign.Yaml.Meaning

/-!
# Mappings with declared fields

A mapping that describes one thing has a fixed set of fields.  It may hold no
other key and none twice; a field without a default has to be there.

* `Fields.ofNode?`: the fields of a mapping.
* `Field.required`, `Field.optional`: fields, with the way to read them.
* `Field.read`: the value of a field.
-/

namespace BenchCampaign

namespace Yaml

/-- The keys of a mapping with their values. -/
abbrev Fields := List (String × Node)

namespace Fields

/-- A key and its value. -/
def field? (e : Node × Node) : Option (String × Node) :=
  e.1.text?.map fun key => (key, e.2)

/-- Whether no name stands twice. -/
def allDistinct : List String → Bool
  | [] => true
  | name :: rest => !rest.contains name && allDistinct rest

/-- The fields of a mapping: every key is declared, and none is repeated. -/
def ofNode? (declared : List String) (n : Node) : Option Fields := do
  let fields ← (← n.entries?).mapM field?
  let names := fields.map Prod.fst
  if names.all declared.contains && allDistinct names then some fields else none

/-- The node of a field. -/
def find? (fs : Fields) (name : String) : Option Node :=
  (List.find? (fun f : String × Node => f.1 = name) fs).map Prod.snd

end Fields

/-- A field of a record. -/
structure Field : Type 1 where
  {Value : Type}
  name : String
  decode : Node → Option Value
  /-- What the field is where it is omitted, if it may be. -/
  default : Option Value

namespace Field

/-- A field that has to be there. -/
def required {β : Type} (name : String) (decode : Node → Option β) : Field := ⟨name, decode, none⟩

/-- A field that may be omitted. -/
def optional {β : Type} (name : String) (default : β) (decode : Node → Option β) : Field :=
  ⟨name, decode, some default⟩

/-- The value of a field of a mapping. -/
def read (f : Field) (fs : Fields) : Option f.Value :=
  match fs.find? f.name with
  | none => f.default
  | some n => f.decode n

end Field

end Yaml

end BenchCampaign
