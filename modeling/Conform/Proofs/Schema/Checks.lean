import Conform.Proofs.Report.Log
import Conform.Schema.Collect

/-!
# Schemas as lists of checks

A schema stands, for one tree, for a list of checks: what is demanded of which field, with the path
of the field from the root. Every check can be made by itself. It looks its value up from the root,
shows its rules the tree of the innermost block around it, and answers with messages and faults.
-/

namespace Conform

/-- What a check demands of a value: that rules accept it, that it is an object, that it is a
list. -/
inductive Demand where
  | rules (chain : Chain)
  | object (nullable : Bool)
  | list

/-- A demand on the field at a path from the root. The scope is the tree of the innermost block
around the field. -/
structure Check where
  field : String
  scope : Value
  demand : Demand

/-- An objection to the value of a field: a message, or the fault of a rule. -/
abbrev Objection := Except Fault String

/-! ## The checks of a schema -/

/-- The shapes of an expansion come before the schema in the order by which checks are listed. -/
theorem Schema.depth_lex_of_mem_expand {schema : Schema} {tree : Value} {e : String × Shape}
    (h : e ∈ (schema.expand tree).entries) :
    Prod.Lex (· < ·) (· < ·) (e.2.depth, 0) (Schema.depth schema, 1) := by
  rcases Nat.lt_or_eq_of_le (Schema.depth_le_of_mem_expand h) with hless | hequal
  · exact .left _ _ hless
  · rw [hequal]
    exact .right _ Nat.zero_lt_one

mutual

/-- The checks of a shape that is declared for a field: that of the field itself, then those of its
fields when it is an object, or of the fields of each item when it is a list. -/
def Shape.checks (root scope : Value) (field : String) : Shape → List Check
  | .rules chain => [⟨field, scope, .rules chain⟩]
  | .nested nullable fields =>
    ⟨field, scope, .object nullable⟩ ::
      match root.resolve? field with
      | some (.obj content) => Schema.checksIn root field (.obj content) fields
      | _ => []
  | .each fields =>
    ⟨field, scope, .list⟩ ::
      match root.resolve? field with
      | some (.arr items) =>
        items.zipIdx.flatMap fun (item, i) =>
          Schema.checksIn root (Path.join field (toString i)) item fields
      | _ => []
termination_by shape => (shape.depth, 0)
decreasing_by
  all_goals
    simp only [Shape.depth_nested, Shape.depth_each]
    exact Prod.Lex.left _ _ (Nat.lt_succ_self _)

/-- The checks of a block whose tree stands at a path, in the order of its expanded
declarations. -/
def Schema.checksIn (root : Value) (path : String) (scope : Value) (schema : Schema) :
    List Check :=
  (schema.expand scope).entries.attach.flatMap fun e =>
    e.1.2.checks root scope (Path.join path e.1.1)
termination_by (Schema.depth schema, 1)
decreasing_by exact Schema.depth_lex_of_mem_expand e.2

end

/-- The checks of a schema for a tree. -/
def Schema.checks (schema : Schema) (tree : Value) : List Check :=
  schema.checksIn tree "" tree

theorem Schema.checksIn_eq (root : Value) (path : String) (scope : Value) (schema : Schema) :
    schema.checksIn root path scope =
      (schema.expand scope).entries.flatMap fun e =>
        e.2.checks root scope (Path.join path e.1) := by
  rw [Schema.checksIn]
  conv => rhs; rw [← List.attach_map_subtype_val (schema.expand scope).entries, List.flatMap_map]

/-! ## What a check answers -/

/-- The objection of a rule, if it has one. -/
def Rule.objection? (rule : Rule) (field : String) (value? : Option Value) (scope : Value) :
    Option Objection :=
  match rule.apply field value? scope with
  | .ok () => none
  | .error (.invalid failure) => some (.ok failure.message)
  | .error (.fault cause) => some (.error ⟨field, rule.name, cause⟩)

/-- The objections of the rules of a chain, in order. A nullable chain takes null for absent, an
absent value is shown to implicit rules only, and a bail chain objects once at most. -/
def Chain.objections (chain : Chain) (field : String) (value? : Option Value) (scope : Value) :
    List Objection :=
  let seen := value?.filter fun value => !(chain.nullable && value.isNull)
  let asked := chain.rules.filter fun rule => seen.isSome || rule.isImplicit
  let all := asked.filterMap fun rule => rule.objection? field seen scope
  if chain.bail then all.take 1 else all

/-- What is objected to the value that the path of a check leads to from the root. -/
def Check.objections (root : Value) (check : Check) : List Objection :=
  match check.demand, root.resolve? check.field with
  | .rules chain, value? => chain.objections check.field value? check.scope
  | .object _, some (.obj _) => []
  | .object true, none => []
  | .object true, some .null => []
  | .object _, _ => [.ok notAnObject]
  | .list, some (.arr _) => []
  | .list, _ => [.ok notAnArray]

/-- The objections to a tree with their fields, check by check. -/
def Schema.objections (schema : Schema) (tree : Value) : List (String × Objection) :=
  (schema.checks tree).flatMap fun check =>
    (check.objections tree).map fun objection => (check.field, objection)

/-- The log of objections in order, unless there is a fault among them: then the first one. -/
def Log.ofObjections : List (String × Objection) → Except Fault Log
  | [] => .ok []
  | (_, .error fault) :: _ => .error fault
  | (field, .ok message) :: rest => (ofObjections rest).map ((field, message) :: ·)

end Conform
