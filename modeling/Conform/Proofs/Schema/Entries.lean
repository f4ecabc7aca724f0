import Conform.Proofs.Outcomes
import Conform.Proofs.Schema.Findings
import Conform.Rule.Kind
import Conform.Rule.Presence
import Mathlib

/-!
# Entries by themselves

Where no two entries of a schema expand to the same path, each entry is expanded and validated as if
it were alone. Their reports are merged in order of declaration. They may still name the same
fields, as a block and a path into it do. The first entry with a fault ends the validation.
-/

namespace Conform

/-- There is one outcome that says what the objections say. -/
theorem Reports.unique {path : String} {outcome other : Except Fault Report}
    {objections : List (String × Objection)} (h : Reports path outcome objections)
    (hother : Reports path other objections) : outcome = other := by
  obtain ⟨inner, hinner, rfl⟩ := h
  obtain ⟨inner', hinner', rfl⟩ := hother
  have hinjective : Function.Injective (Log.renameObjections (Path.join path)) :=
    List.map_injective_iff.mpr ((Path.join_injective path).prodMap Function.injective_id)
  rw [hinjective (hinner.symm.trans hinner')]

namespace Schema

/-- The schema of one entry. -/
def single (e : String × Shape) : Schema := ⟨[e]⟩

/-- No two entries of the schema expand to the same path. -/
def KeepsApart (schema : Schema) (tree : Value) : Prop :=
  schema.entries.Pairwise fun e other =>
    ∀ path ∈ ((single e).expand tree).keys, path ∉ ((single other).expand tree).keys

instance (schema : Schema) (tree : Value) : Decidable (schema.KeepsApart tree) :=
  inferInstanceAs (Decidable (List.Pairwise _ _))

variable {schema : Schema} {tree : Value}

/-! ## Expansion -/

theorem concrete_eq_flatMap (schema : Schema) (tree : Value) :
    schema.concrete tree = schema.entries.flatMap fun e => (single e).concrete tree := by
  simp [concrete, single]

theorem mem_keys_expand_iff_concrete {path : String} :
    path ∈ (schema.expand tree).keys ↔ ∃ e ∈ schema.concrete tree, e.1 = path := by
  rw [expand, OrderedMap.keys_insertAllWith, List.mem_eraseDups, List.mem_map]

/-- The expansions of the entries stand one after another. -/
theorem KeepsApart.entries_expand (h : schema.KeepsApart tree) :
    (schema.expand tree).entries =
      schema.entries.flatMap fun e => ((single e).expand tree).entries := by
  obtain ⟨entries⟩ := schema
  induction entries using List.reverseRecOn with
  | nil => rfl
  | append_singleton entries e ih =>
    obtain ⟨hentries, -, he⟩ := List.pairwise_append.mp h
    have hconcrete : concrete ⟨entries ++ [e]⟩ tree =
        concrete ⟨entries⟩ tree ++ (single e).concrete tree := by
      simp [concrete, single]
    have hnew : ∀ x ∈ (single e).concrete tree, x.1 ∉ (expand ⟨entries⟩ tree).keys := by
      intro x hx hmem
      obtain ⟨y, hy, heq⟩ := mem_keys_expand_iff_concrete.mp hmem
      rw [concrete_eq_flatMap] at hy
      obtain ⟨d, hd, hy⟩ := List.mem_flatMap.mp hy
      exact he d hd e (List.mem_singleton_self e) x.1
        (mem_keys_expand_iff_concrete.mpr ⟨y, hy, heq⟩)
        (mem_keys_expand_iff_concrete.mpr ⟨x, hx, rfl⟩)
    have hexpand : expand ⟨entries ++ [e]⟩ tree =
        (expand ⟨entries⟩ tree).insertAllWith Shape.merge ((single e).concrete tree) := by
      rw [expand, hconcrete, OrderedMap.insertAllWith, List.foldl_append]
      rfl
    rw [hexpand, OrderedMap.insertAllWith_of_not_mem _ hnew, ih hentries]
    simp [expand]

/-! ## Validation -/

theorem KeepsApart.findings_eq (h : schema.KeepsApart tree) (path : String) :
    schema.findings path tree = schema.entries.flatMap fun e => (single e).findings path tree := by
  simp only [Schema.findings_eq, h.entries_expand, List.flatMap_assoc]

/-- Each entry adds to the report of those before it what it reports by itself. -/
theorem KeepsApart.collectIn_eq (h : schema.KeepsApart tree) (path : String) :
    schema.collectIn path tree =
      schema.entries.foldlM
        (fun report e => ((single e).collectIn path tree).map report.merge) ∅ := by
  have hschema := reports_findings path tree schema
  rw [h.findings_eq] at hschema
  have hentries : Contributes path
      (schema.entries.foldlM (fun report e => ((single e).collectIn path tree).map report.merge) ·)
      (schema.entries.flatMap fun e => (single e).findings path tree) :=
    Contributes.foldlM fun e _ => (reports_findings path tree (single e)).merge
  exact hschema.unique hentries.reports

/-- Entries that keep apart are validated one by one: their reports are merged in order, and the
first fault is that of the schema. -/
theorem collect_eq_merge (h : schema.KeepsApart tree) :
    schema.collect tree =
        (schema.entries.mapM fun e => (single e).collect tree).map (·.foldl Report.merge ∅) ∧
      ∀ fault, schema.collect tree = .error fault ↔
        ∃ before e after, schema.entries = before ++ e :: after ∧
          (∀ other ∈ before, ∃ report, (single other).collect tree = .ok report) ∧
          (single e).collect tree = .error fault := by
  have hmerge : schema.collect tree =
      (schema.entries.mapM fun e => (single e).collect tree).map (·.foldl Report.merge ∅) := by
    rw [← List.foldlM_map_eq_mapM]
    exact h.collectIn_eq ""
  refine ⟨hmerge, fun fault => ?_⟩
  rw [← List.mapM_eq_error_iff, hmerge]
  cases schema.entries.mapM fun e => (single e).collect tree <;> simp [Except.map]

theorem collect_eq_merge_of_block_and_field :
    ∃ (schema : Schema) (tree : Value), schema.KeepsApart tree ∧
      schema.keys = ["user", "user.name", "rows.*.id"] ∧
      schema.collect tree =
        .ok (.ofList [("user.name", ["This field is required.", "This field is required."]),
          ("rows.0.id", ["This field must be an integer."])]) ∧
      schema.collect tree =
        (schema.entries.mapM fun e => (single e).collect tree).map (·.foldl Report.merge ∅) ∧
      ∀ fault, schema.collect tree = .error fault ↔
        ∃ before e after, schema.entries = before ++ e :: after ∧
          (∀ other ∈ before, ∃ report, (single other).collect tree = .ok report) ∧
          (single e).collect tree = .error fault := by
  let schema : Schema :=
    ⟨[("user", .nested false ⟨[("name", .rules { rules := [.required] })]⟩),
      ("user.name", .rules { rules := [.required], bail := true }),
      ("rows.*.id", .rules { rules := [.integer] })]⟩
  let tree : Value := .obj [("user", .obj []), ("rows", .arr [.obj [("id", .bool true)]])]
  have hapart : schema.KeepsApart tree := by decide
  exact ⟨schema, tree, hapart, rfl, by cbv, collect_eq_merge hapart⟩

end Schema

end Conform
