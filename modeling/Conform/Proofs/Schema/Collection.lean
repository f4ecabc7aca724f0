import Conform.Proofs.Path.Resolution
import Conform.Proofs.Schema.Findings
import Conform.Rule.Presence
import Mathlib

/-!
# Collection is the run of the checks

The collector works block by block: it looks values up in the tree of the block, records messages
under paths inside the block and renames them on the way out. The list of checks knows full paths
only. The two agree because joining paths is associative and resolving follows it.
-/

namespace Conform

/-- The objections that checks raise, with their fields. -/
def Check.run (root : Value) (checks : List Check) : List (String × Objection) :=
  checks.flatMap fun check => Log.objectionsTo check.field (check.objections root)

@[simp] theorem Check.run_nil (root : Value) : Check.run root [] = [] := rfl

theorem Check.run_cons (root : Value) (check : Check) (rest : List Check) :
    Check.run root (check :: rest) =
      Log.objectionsTo check.field (check.objections root) ++ Check.run root rest := rfl

section

variable {root : Value}

-- What carries the induction is that the path of a block leads from the root to the tree of the
-- block: values are then the same, whether they are looked up in the block or from the root.
mutual

theorem Shape.findings_eq_run (hroot : root.IsIndexable) (path : String) (scope : Value)
    (field : String) (h : root.resolve? path = some scope) :
    (shape : Shape) → shape.findings path scope field =
      Check.run root (shape.checks root scope (Path.join path field))
  | .rules chain => by
    have hvalue : root.resolve? (Path.join path field) = scope.resolve? field := by
      rw [Value.resolve?_join, h, Option.bind_some]
    simp [Shape.findings, Shape.checks, Check.run, Check.objections, hvalue]
  | .nested nullable fields => by
    have hvalue : root.resolve? (Path.join path field) = scope.resolve? field := by
      rw [Value.resolve?_join, h, Option.bind_some]
    rw [Shape.findings, Shape.checks, hvalue, Check.run_cons]
    cases hfound : scope.resolve? field with
    | none => cases nullable <;> simp [Check.objections, hvalue, hfound, Log.objectionsTo]
    | some value =>
      cases value with
      | obj content =>
        have hinner := Schema.findings_eq_run hroot (Path.join path field) (.obj content)
          (hvalue.trans hfound) fields
        simp [Check.objections, hvalue, hfound, Log.objectionsTo, hinner]
      | null => cases nullable <;> simp [Check.objections, hvalue, hfound, Log.objectionsTo]
      | _ => simp [Check.objections, hvalue, hfound, Log.objectionsTo]
  | .each fields => by
    have hvalue : root.resolve? (Path.join path field) = scope.resolve? field := by
      rw [Value.resolve?_join, h, Option.bind_some]
    rw [Shape.findings, Shape.checks, hvalue, Check.run_cons]
    cases hfound : scope.resolve? field with
    | none => simp [Check.objections, hvalue, hfound, Log.objectionsTo]
    | some value =>
      cases value with
      | arr items =>
        have hlist : Check.objections root ⟨Path.join path field, scope, .list⟩ = [] := by
          simp [Check.objections, hvalue, hfound]
        simp only [hlist]
        rw [Check.run, List.flatMap_assoc]
        refine List.flatMap_congr fun (item, i) he => ?_
        -- from the root the item is found by the text of its index, which has to be a machine word
        have hitem := Value.resolve?_join_toString hroot (hvalue.trans hfound)
          (List.mem_zipIdx_iff_getElem?.mp he)
        exact Schema.findings_eq_run hroot _ item hitem fields
      | _ => simp [Check.objections, hvalue, hfound, Log.objectionsTo]
termination_by shape => (shape.depth, 0)

theorem Schema.findings_eq_run (hroot : root.IsIndexable) (path : String) (scope : Value)
    (h : root.resolve? path = some scope) (schema : Schema) :
    schema.findings path scope = Check.run root (schema.checksIn root path scope) := by
  rw [Schema.findings_eq, Schema.checksIn_eq, Check.run, List.flatMap_assoc]
  refine List.flatMap_congr fun e he => ?_
  exact Shape.findings_eq_run hroot path scope e.1 h e.2
termination_by (Schema.depth schema, 1)
decreasing_by exact Schema.depth_lex_of_mem_expand he

end

theorem Schema.reports (hroot : root.IsIndexable) (path : String) (scope : Value)
    (h : root.resolve? path = some scope) (schema : Schema) :
    Reports path (schema.collectIn path scope)
      (Check.run root (schema.checksIn root path scope)) := by
  rw [← Schema.findings_eq_run hroot path scope h]
  exact Schema.reports_findings path scope schema

end

/-- The collector does what its flat list of checks says: it fails with the first fault, and
otherwise groups all messages by the full paths of their fields. -/
theorem Schema.collect_eq_objections (schema : Schema) (tree : Value) (h : tree.IsIndexable) :
    schema.collect tree = (Log.ofObjections (schema.objections tree)).map Log.toReport := by
  obtain ⟨inner, hinner, hcollect⟩ := Schema.reports h "" tree rfl schema
  have hsame : schema.objections tree = inner := by
    have : schema.objections tree = Check.run tree (schema.checksIn tree "" tree) := rfl
    simp [this, hinner, Log.renameObjections]
  rw [Schema.collect, hcollect, hsame]

theorem Schema.collect_eq_objections_of_blocks :
    ∃ (schema : Schema) (tree : Value), tree.IsIndexable ∧
      schema.collect tree =
        .ok (.ofList [("documents.0.meta.tags.0.label", ["This field is required."])]) ∧
      schema.collect tree = (Log.ofObjections (schema.objections tree)).map Log.toReport := by
  let tags : Schema := ⟨[("tags.*.label", .rules { rules := [.required] })]⟩
  let schema : Schema := ⟨[("documents", .each ⟨[("meta", .nested false tags)]⟩)]⟩
  let label : Value := .obj [("label", .null)]
  let tree : Value := .obj [("documents", .arr [.obj [("meta", .obj [("tags", .arr [label])])]])]
  have hindexable : tree.IsIndexable := by
    simp [tree, label, Value.IsIndexable, Value.ItemsIndexable, Value.FieldsIndexable,
      Path.indexBound]
  exact ⟨schema, tree, hindexable, by cbv, collect_eq_objections schema tree hindexable⟩

end Conform
