import Conform.Report
import Conform.Schema.Expand
/-!
# Collecting failures

Each entry of the expanded schema contributes a report of its own, and the reports are merged in
order. A chain is run on the value of its field, a nested block on the object there and a list block
on each item. Paths are relative to the tree of the block, except that rules are told the full path
of their field. The first rule that cannot be applied ends the collection.
-/

namespace Conform

/-- What is reported where a nested block finds no object. -/
def notAnObject : String := "This field must be an object."

/-- What is reported where a list block finds no list. -/
def notAnArray : String := "This field must be an array."

mutual

/-- The failures of one declared field of a tree that stands at `scope`. -/
def Shape.collect (scope : String) (tree : Value) (field : String) : Shape → Except Fault Report
  | .rules chain =>
    (chain.messages (Path.join scope field) (tree.resolve? field) tree).map
      ((∅ : Report).extend field)
  | .nested nullable fields =>
    match tree.resolve? field with
    | some (.obj content) =>
      (Schema.collectIn (Path.join scope field) (.obj content) fields).map
        ((∅ : Report).mergeUnder field)
    | none | some .null => .ok (if nullable then ∅ else (∅ : Report).add field notAnObject)
    | some _ => .ok ((∅ : Report).add field notAnObject)
  | .each fields =>
    match tree.resolve? field with
    | some (.arr items) =>
      items.zipIdx.foldlM (fun report (item, i) =>
        (Schema.collectIn (Path.join (Path.join scope field) (toString i)) item fields).map
          (report.mergeUnder (Path.join field (toString i)))) ∅
    | _ => .ok ((∅ : Report).add field notAnArray)
termination_by shape => (shape.depth, 0)
decreasing_by
  all_goals
    simp only [Shape.depth_nested, Shape.depth_each]
    exact Prod.Lex.left _ _ (Nat.lt_succ_self _)

/-- The failures of a tree that stands at `scope`. -/
def Schema.collectIn (scope : String) (tree : Value) (schema : Schema) : Except Fault Report :=
  (schema.expand tree).entries.attach.foldlM (fun report e =>
    (e.1.2.collect scope tree e.1.1).map report.merge) ∅
termination_by (Schema.depth schema, 1)
decreasing_by
  have := Schema.depth_le_of_mem_expand e.2
  rcases Nat.lt_or_eq_of_le this with less | equal
  · exact Prod.Lex.left _ _ less
  · rw [equal]
    exact Prod.Lex.right _ (by decide)

end

/-- The failures of a tree. -/
def Schema.collect (schema : Schema) (tree : Value) : Except Fault Report :=
  Schema.collectIn "" tree schema

/-- The entries of the expansion contribute one after another. -/
theorem Schema.collectIn_eq (scope : String) (tree : Value) (schema : Schema) :
    Schema.collectIn scope tree schema =
      (schema.expand tree).entries.foldlM (fun report e =>
        (e.2.collect scope tree e.1).map report.merge) ∅ := by
  rw [Schema.collectIn]
  conv => rhs; rw [← List.attach_map_subtype_val (schema.expand tree).entries, List.foldlM_map]

end Conform
