import BenchCampaign.Proofs.Yaml.Shape
import BenchCampaign.Settings.Reader

/-!
# The format of settings

Settings are a record of declared fields, and so are the cluster, every driver, the options of the
space and the calibration in it.  What the format does not declare is refused at every depth, the
order of the keys does not matter, and a field that is omitted might as well be written out with
its default.

* `Settings.format`: the fields of settings and of the records in them.
* `Settings.follows_format`: settings are read as the format says.
* `Settings.exists_default`: every default can be written.
* `Settings.closed_and_orderFree`: which trees are settings, and what they are settings of.
-/

namespace BenchCampaign

open Yaml

/-! ## Fields -/

/-- The fields of a cluster. -/
def Nodes.fields : List (Field × Shape) := declared.map Field.alone

/-- The fields of a driver. -/
def Driver.fields : List (Field × Shape) := declared.map Field.alone

/-- The fields of the options of a space. -/
def SpaceOptions.fields : List (Field × Shape) := declared.map Field.alone

/-- The fields of a calibration. -/
def Calibration.fields : List (Field × Shape) := declared.map Field.alone

/-- The fields of settings, four of which have fields of their own. -/
def Settings.fields : List (Field × Shape) :=
  [runnersField.alone, samplesField.alone, (nodesField, .record Nodes.fields),
    (driversField, .list (.record Driver.fields)), (spaceField, .record SpaceOptions.fields),
    (calibrationField, .record Calibration.fields)]

/-- The format of settings. -/
def Settings.format : Shape := .record fields

/-! ## Reading by the format -/

theorem Nodes.follows_fields : Follows ofNode? (.record fields) := by
  refine follows_record (fun _ => rfl) ?assembles (by decide) ?each
  case assembles => exact .bind fun _ => .bind fun _ => .pure _
  case each => exact follows_alone_map declared

theorem Driver.follows_fields : Follows ofNode? (.record fields) := by
  refine follows_record (fun _ => rfl) ?assembles (by decide) ?each
  case assembles => exact .bind fun _ => .bind fun _ => .bind fun _ => .pure _
  case each => exact follows_alone_map declared

theorem SpaceOptions.follows_fields : Follows ofNode? (.record fields) := by
  refine follows_record (fun _ => rfl) ?assembles (by decide) ?each
  case assembles => exact .bind fun _ => .bind fun _ => .bind fun _ => .bind fun _ => .pure _
  case each => exact follows_alone_map declared

theorem Calibration.follows_fields : Follows ofNode? (.record fields) := by
  refine follows_record (fun _ => rfl) ?assembles (by decide) ?each
  case assembles =>
    exact .bind fun _ => .bind fun _ => .bind fun _ => .bind fun _ => .bind fun _ => .pure _
  case each => exact follows_alone_map declared

namespace Settings

theorem follows_format : Follows ofNode? format := by
  refine follows_record (fun _ => rfl) ?assembles (by decide) ?each
  case assembles =>
    exact .bind fun _ => .bind fun _ => .bind fun _ => .bind fun _ => .bind fun _ => .bind fun _ =>
      .pure _
  case each =>
    simp [fields, follows_alone, nodesField, driversField, spaceField, calibrationField,
      Field.required, Field.optional, Nodes.follows_fields, follows_list Driver.follows_fields,
      SpaceOptions.follows_fields, Calibration.follows_fields]

/-! ## Defaults -/

/-- The fields of all records of the format. -/
def allFields : List (Field × Shape) :=
  fields ++ Nodes.fields ++ Driver.fields ++ SpaceOptions.fields ++ Calibration.fields

/-- A scalar without a tag or quotes. -/
def plain (text : String) : Node := .scalar none .plain text

/-- Every default of the format is the value of some node. -/
theorem exists_default :
    ∀ f ∈ allFields, f.1.default ≠ none → ∃ v, f.1.decode v = f.1.default := by
  simp only [allFields, fields, Nodes.fields, Driver.fields, SpaceOptions.fields,
    Calibration.fields, Nodes.declared, Driver.declared, SpaceOptions.declared,
    Calibration.declared, List.map_cons, List.map_nil, List.cons_append, List.nil_append,
    List.forall_mem_cons]
  -- a field that has to be there has no default; the others are in the order of the format
  refine ⟨?runners, ?samples, absurd rfl, absurd rfl, absurd rfl, ?calibration,
    absurd rfl, ?port, absurd rfl, ?exec, ?bareHosts, absurd rfl, absurd rfl, absurd rfl,
    ?threshold, ?seconds, ?floor, ?restarts, ?overhead, ?baseline, nofun⟩
  case runners => exact fun _ => ⟨plain "benchmarks/basic", rfl⟩
  case samples => exact fun _ => ⟨plain "3", rfl⟩
  case calibration => exact fun _ => ⟨.mapping none [], rfl⟩
  case port => exact fun _ => ⟨plain "9042", rfl⟩
  case exec => exact fun _ => ⟨plain "~", rfl⟩
  case bareHosts => exact fun _ => ⟨plain "false", rfl⟩
  case threshold => exact fun _ => ⟨plain "512", rfl⟩
  case seconds => exact fun _ => ⟨plain "0.005", rfl⟩
  case floor => exact fun _ => ⟨plain "1024", rfl⟩
  case restarts => exact fun _ => ⟨plain "false", rfl⟩
  case overhead => exact fun _ => ⟨plain "240", rfl⟩
  case baseline => exact fun _ => ⟨.mapping none [], rfl⟩

/-! ## Settings as a format -/

/-- **Settings have a closed format without an order.**  A tree is one of settings if and only if
in the settings, the cluster, each driver, the options of the space and the calibration every key is
a declared field, none is repeated, every field without a default is there, and what stands under a
field is of the kind of the field.  So a key that is not declared is refused wherever it stands.
The settings do not depend on the order of keys in any of these mappings, nor on whether an
omitted field is written out with its default, as all of them can be. -/
theorem closed_and_orderFree (n : Node) :
    ((∃ s, ofNode? n = some s) ↔ format.Accepts n) ∧
      (∀ fields m entries e, format.Part n (.record fields) m → m.entries? = some entries →
        e ∈ entries → (∀ name ∈ Shape.names fields, e.1.text? ≠ some name) → ofNode? n = none) ∧
      (∀ n', Relation.EqvGen format.Restates n n' → ofNode? n' = ofNode? n) ∧
      ∀ f ∈ allFields, f.1.default ≠ none → ∃ v, f.1.decode v = f.1.default :=
  ⟨follows_format.accepts n,
    fun _ _ _ _ part mapping member unknown =>
      follows_format.eq_none_of_unknown part mapping member unknown,
    fun _ same => follows_format.eq_of_eqvGen same,
    exists_default⟩

/-- Settings of two drivers, with the keys of the first in another order and a default written out
for the second; and with a misspelt key of the second. -/
theorem closed_and_orderFree_twoDrivers :
    let list (texts : List String) : Node := .sequence none (texts.map plain)
    let cluster : Node := .mapping none [(plain "hosts", list ["scylla"])]
    let options : Node := .mapping none [(plain "tasks", list ["1000"]),
      (plain "concurrency", list ["64"]), (plain "workloads", list ["inserts"])]
    let rust : List (Node × Node) := [(plain "name", plain "rust"), (plain "exec", plain "run.sh")]
    let cpp : List (Node × Node) := [(plain "name", plain "cpp")]
    let settings (first second : List (Node × Node)) : Node := .mapping none
      ([(plain "nodes", cluster)] ++
        (plain "drivers", .sequence none [.mapping none first, .mapping none second]) ::
          [(plain "space", options)])
    (∃ s, ofNode? (settings rust cpp) = some s ∧
      ofNode? (settings rust.reverse ((plain "bare_hosts", plain "false") :: cpp)) = some s) ∧
      ofNode? (settings rust ((plain "bare_host", plain "true") :: cpp)) = none := by
  intro list cluster options rust cpp settings
  obtain ⟨-, -, restated, -⟩ := closed_and_orderFree (settings rust cpp)
  have drivers : (driversField, Shape.list (.record Driver.fields)) ∈ fields := by
    simp [fields]
  have bareHosts : Driver.bareHostsField.alone ∈ Driver.fields := by
    simp [Driver.fields, Driver.declared]
  have reordered : format.Restates (settings rust cpp) (settings rust.reverse cpp) := by
    have first : Shape.Restates (.list (.record Driver.fields))
        (.sequence none ([] ++ .mapping none rust :: [.mapping none cpp]))
        (.sequence none ([] ++ .mapping none rust.reverse :: [.mapping none cpp])) :=
      .item (.reordered rust.reverse_perm.symm)
    exact .field drivers rfl first
  have written : format.Restates (settings rust.reverse cpp)
      (settings rust.reverse ((plain "bare_hosts", plain "false") :: cpp)) := by
    have second : Shape.Restates (.list (.record Driver.fields))
        (.sequence none ([.mapping none rust.reverse] ++ .mapping none ([] ++ cpp) :: []))
        (.sequence none ([.mapping none rust.reverse] ++
          .mapping none ([] ++ (plain "bare_hosts", plain "false") :: cpp) :: [])) := by
      refine .item (.written bareHosts rfl nofun ?_ rfl)
      have omitted : "name" ≠ Driver.bareHostsField.name := by decide
      simpa [cpp, plain, Field.alone, Node.text?] using omitted
    exact .field drivers rfl second
  obtain ⟨-, refused, -⟩ :=
    closed_and_orderFree (settings rust ((plain "bare_host", plain "true") :: cpp))
  obtain ⟨s, made⟩ : ∃ s, ofNode? (settings rust cpp) = some s := ⟨_, rfl⟩
  refine ⟨⟨s, made, ?_⟩, ?_⟩
  · rw [restated _ (.trans _ _ _ (.rel _ _ reordered) (.rel _ _ written)), made]
  · have second : Shape.Part (.record Driver.fields)
        (.mapping none ((plain "bare_host", plain "true") :: cpp)) _ _ := .self _ _
    refine refused _ _ _ _ (.field rfl drivers List.mem_append_cons_self rfl
      (.item rfl (.tail _ (.head _)) second)) rfl (.head _) ?_
    have names : Shape.names Driver.fields = ["name", "exec", "bare_hosts"] := rfl
    simp [names, plain, Node.text?]

end Settings

end BenchCampaign
