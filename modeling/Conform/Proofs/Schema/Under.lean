import Conform.Proofs.Schema.Independence
import Conform.Rule.Kind
import Mathlib

/-!
# Schemas under a path

A schema is put under a path by joining the path in front of everything it declares. When the path
leads to a value of the tree, the schema finds there, with its full paths, what it finds in that
value by itself. A nested block is therefore its own schema, put under the path of the block.
-/

namespace Conform

/-! ## Instances below a path -/

namespace Path

/-- Below a path that leads to a value, a pattern stands for what it stands for in the value. -/
theorem instancesFrom_join {tree content : Value} {base : String}
    (h : tree.resolve? base = some content) (front : String) (pattern : List String) :
    instancesFrom tree (join base front) pattern =
      (instancesFrom content front pattern).map (join base) := by
  have hcount : ∀ path, tree.itemCount (join base path) = content.itemCount path := by
    intro path
    rw [Value.itemCount, Value.itemCount, Value.resolve?_join, h, Option.bind_some]
  induction pattern generalizing front with
  | nil => rfl
  | cons segment rest ih =>
    rw [instancesFrom, instancesFrom, hcount]
    split
    · simp only [join_assoc, ih, List.map_flatMap]
    · rw [join_assoc, ih]

theorem instances_join {tree content : Value} {base : String} (hbase : IsDeclarable base)
    (hconcrete : ¬IsPattern base) (h : tree.resolve? base = some content) (path : String) :
    instances tree (join base path) = (instances content path).map (join base) := by
  have hplain : ∀ s ∈ segments base, IsPlain s := fun _ => isPlain_of_isDeclarable hbase
  have hjoin := instancesFrom_join h "" (segments path)
  rwa [join_empty_right, ← instances_join_eq tree hplain hconcrete] at hjoin

end Path

/-! ## Findings below a path -/

namespace Schema

/-- The schema with everything that it declares put under a path. -/
def under (base : String) (schema : Schema) : Schema := schema.rename (Path.join base)

theorem expand_under {tree content : Value} {base : String} (hbase : Path.IsDeclarable base)
    (hconcrete : ¬Path.IsPattern base) (h : tree.resolve? base = some content) (schema : Schema) :
    (schema.under base).expand tree = (schema.expand content).under base := by
  have hentries : (schema.under base).concrete tree =
      (schema.concrete content).map fun e => (Path.join base e.1, e.2) := by
    simp only [concrete, under, OrderedMap.rename, List.flatMap_map, List.map_flatMap,
      Path.instances_join hbase hconcrete h, List.map_map, Function.comp_def]
  rw [expand, hentries, OrderedMap.insertAllWith_rename (Path.join_injective base)]
  rfl

end Schema

theorem Shape.findings_join {tree content : Value} {base : String}
    (h : tree.resolve? base = some content) (path field : String) {shape : Shape}
    (hrules : shape.IgnoresTree) :
    shape.findings path tree (Path.join base field) =
      shape.findings (Path.join path base) content field := by
  cases hrules with
  | rules hchain =>
    rw [findings, findings, Value.resolve?_join, h, Option.bind_some, Path.join_assoc,
      Chain.objections_eq_of_ignoresTree hchain _ _ tree content]
  | nested => rw [findings, findings, Value.resolve?_join, h, Option.bind_some, Path.join_assoc]
  | each => rw [findings, findings, Value.resolve?_join, h, Option.bind_some, Path.join_assoc]

namespace Schema

/-- Entries that are put under a path find what they find in the value that the path leads to. -/
theorem findings_entries_under {tree content : Value} {base : String}
    (h : tree.resolve? base = some content) (path : String) {schema : Schema}
    (hrules : schema.IgnoresTree) :
    ((schema.expand content).under base).entries.flatMap (fun e => e.2.findings path tree e.1) =
      schema.findings (Path.join path base) content := by
  rw [findings_eq, under, OrderedMap.rename, List.flatMap_map]
  exact List.flatMap_congr fun e he => Shape.findings_join h path e.1 (hrules.expand content e he)

theorem findings_under {tree content : Value} {base : String} (hbase : Path.IsDeclarable base)
    (hconcrete : ¬Path.IsPattern base) (h : tree.resolve? base = some content) (path : String)
    {schema : Schema} (hrules : schema.IgnoresTree) :
    (schema.under base).findings path tree = schema.findings (Path.join path base) content := by
  rw [findings_eq, expand_under hbase hconcrete h, findings_entries_under h path hrules]

/-- A schema of one concrete field finds what its shape finds. -/
theorem findings_singleton {field : String} (hfield : Path.IsDeclarable field)
    (hconcrete : ¬Path.IsPattern field) (path : String) (tree : Value) (shape : Shape) :
    Schema.findings path tree ⟨[(field, shape)]⟩ = shape.findings path tree field := by
  have hexpand : Schema.expand ⟨[(field, shape)]⟩ tree = ⟨[(field, shape)]⟩ :=
    expand_eq_self (by simpa [HasDeclarableKeys, OrderedMap.keys] using hfield)
      (by simp [OrderedMap.Distinct, OrderedMap.keys])
      (by simpa [IsConcrete, OrderedMap.keys] using hconcrete) tree
  rw [findings_eq, hexpand, List.flatMap_singleton]

/-- A nested block is the same schema as its fields under the path of the block, wherever the path
leads to an object. -/
theorem collect_nested {path : String} (hpath : Path.IsDeclarable path)
    (hconcrete : ¬Path.IsPattern path) (nullable : Bool) {fields : Schema}
    (hrules : fields.IgnoresTree) {tree : Value} {content : List (String × Value)}
    (htree : tree.resolve? path = some (.obj content)) :
    Schema.collect ⟨[(path, .nested nullable fields)]⟩ tree = (fields.under path).collect tree := by
  have hfindings : Schema.findings "" tree ⟨[(path, .nested nullable fields)]⟩ =
      (fields.under path).findings "" tree := by
    rw [findings_singleton hpath hconcrete, Shape.findings, htree,
      findings_under hpath hconcrete htree "" hrules]
  rw [collect_eq_findings, collect_eq_findings, hfindings]

theorem collect_nested_of_pattern :
    ∃ (path : String) (fields : Schema) (tree : Value) (content : List (String × Value)),
      Path.IsDeclarable path ∧ ¬Path.IsPattern path ∧ fields.IgnoresTree ∧
      tree.resolve? path = some (.obj content) ∧
      (fields.under path).collect tree =
        .ok (.ofList [("form.data.rows.1.id", ["This field must be an integer."])]) ∧
      Schema.collect ⟨[(path, .nested true fields)]⟩ tree = (fields.under path).collect tree := by
  let fields : Schema :=
    ⟨[("rows.*.id", .rules { rules := [.integer] }), ("rows.0.id", .rules { bail := true })]⟩
  let content : List (String × Value) := [("rows", .arr [.null, .obj [("id", .null)]])]
  have hpath : Path.IsDeclarable "form.data" := by decide
  have hconcrete : ¬Path.IsPattern "form.data" := by decide
  have hrules : fields.IgnoresTree := by
    have hinteger : Rule.integer.IgnoresTree := Rule.ignoresTree_ofPredicate _ _ _
    have hfirst : (Shape.rules { rules := [.integer] }).IgnoresTree :=
      .rules (by simpa using hinteger)
    have hsecond : (Shape.rules { bail := true }).IgnoresTree := .rules (by simp)
    simpa [IgnoresTree, fields] using ⟨hfirst, hsecond⟩
  have htree : Value.resolve? (.obj [("form", .obj [("data", .obj content)])]) "form.data" =
      some (.obj content) := rfl
  exact ⟨_, fields, _, content, hpath, hconcrete, hrules, htree, by cbv,
    collect_nested hpath hconcrete true hrules htree⟩

end Schema

end Conform
