import Conform.Proofs.Schema.Entries

/-!
# One report for all entries

The collector makes a report for each entry and merges them in order. It might as well keep one
report, to which each entry adds what it has to say. The report of a block is then merged into the
report of the block around it, and those of the items of a list one after another. Both ways give
the same report, and end with the same fault (`Schema.record_eq_collectIn`).
-/

namespace Conform

mutual

/-- Adds the failures of one declared field of a tree that stands at `scope` to a report. -/
def Shape.record (scope : String) (tree : Value) (field : String) (report : Report) :
    Shape → Except Fault Report
  | .rules chain =>
    (chain.messages (Path.join scope field) (tree.resolve? field) tree).map (report.extend field)
  | .nested nullable fields =>
    match tree.resolve? field with
    | some (.obj content) =>
      (Schema.record (Path.join scope field) (.obj content) fields).map (report.mergeUnder field)
    | none | some .null => .ok (if nullable then report else report.add field notAnObject)
    | some _ => .ok (report.add field notAnObject)
  | .each fields =>
    match tree.resolve? field with
    | some (.arr items) =>
      items.zipIdx.foldlM (fun report (item, i) =>
        (Schema.record (Path.join (Path.join scope field) (toString i)) item fields).map
          (report.mergeUnder (Path.join field (toString i)))) report
    | _ => .ok (report.add field notAnArray)
termination_by shape => (shape.depth, 0)
decreasing_by
  all_goals
    simp only [Shape.depth_nested, Shape.depth_each]
    exact Prod.Lex.left _ _ (Nat.lt_succ_self _)

/-- The report of a tree that stands at `scope`, to which one entry after another has added. -/
def Schema.record (scope : String) (tree : Value) (schema : Schema) : Except Fault Report :=
  (schema.expand tree).entries.attach.foldlM
    (fun report e => e.1.2.record scope tree e.1.1 report) ∅
termination_by (Schema.depth schema, 1)
decreasing_by exact Schema.depth_lex_of_mem_expand e.2

end

theorem Schema.record_eq (scope : String) (tree : Value) (schema : Schema) :
    schema.record scope tree =
      (schema.expand tree).entries.foldlM
        (fun report e => e.2.record scope tree e.1 report) ∅ := by
  rw [Schema.record]
  conv => rhs; rw [← List.attach_map_subtype_val (schema.expand tree).entries, List.foldlM_map]

-- What a step adds depends on what it finds in the tree, and not on the report at hand.
mutual

theorem Shape.contributes_record (path : String) (tree : Value) (field : String) :
    (shape : Shape) →
      Contributes path (shape.record path tree field ·) (shape.findings path tree field)
  | .rules chain => by
    simp only [Shape.record]
    exact Contributes.rules path tree field chain
  | .nested nullable fields => by
    simp only [Shape.record, Shape.findings]
    cases hfound : tree.resolve? field with
    | none =>
      cases nullable
      · exact Contributes.refused path field notAnObject
      · exact Contributes.accepted path
    | some value =>
      cases value with
      | obj content =>
        exact (Schema.reports_record (Path.join path field) (.obj content) fields).mergeUnder
      | null =>
        cases nullable
        · exact Contributes.refused path field notAnObject
        · exact Contributes.accepted path
      | _ => exact Contributes.refused path field notAnObject
  | .each fields => by
    simp only [Shape.record, Shape.findings]
    cases hfound : tree.resolve? field with
    | none => exact Contributes.refused path field notAnArray
    | some value =>
      cases value with
      | arr items =>
        refine Contributes.foldlM fun (item, i) _ => ?_
        simp only [Path.join_assoc]
        exact (Schema.reports_record _ item fields).mergeUnder
      | _ => exact Contributes.refused path field notAnArray
termination_by shape => (shape.depth, 0)

theorem Schema.reports_record (path : String) (tree : Value) (schema : Schema) :
    Reports path (schema.record path tree) (schema.findings path tree) := by
  rw [Schema.record_eq, Schema.findings_eq]
  exact (Contributes.foldlM fun e he => Shape.contributes_record path tree e.1 e.2).reports
termination_by (Schema.depth schema, 1)
decreasing_by exact Schema.depth_lex_of_mem_expand he

end

/-- Merging the reports of the entries and adding to one report come to the same. -/
theorem Schema.record_eq_collectIn (scope : String) (tree : Value) (schema : Schema) :
    schema.record scope tree = schema.collectIn scope tree :=
  (schema.reports_record scope tree).unique (schema.reports_findings scope tree)

end Conform
