import Conform.OrderedMap
import Conform.Path.Pattern
import Conform.Rule.Chain
import Conform.Spec.Error
/-!
# Schemas

A schema declares, for paths and patterns, what is required there: a chain of rules for the value
itself, an object with a schema of its own, or a list whose items each have one. The order of
declaration is kept; it is the order of the fields in reports.
-/

namespace Conform

/-- What is declared for a field. A nullable nested block accepts an absent or null value. -/
inductive Shape where
  | rules (chain : Chain)
  | nested (nullable : Bool) (fields : OrderedMap Shape)
  | each (fields : OrderedMap Shape)

abbrev Schema := OrderedMap Shape

namespace Shape

def chain? : Shape → Option Chain
  | rules chain => some chain
  | _ => none

/-- The schema of a block. -/
def block? : Shape → Option Schema
  | rules _ => none
  | nested _ fields | each fields => some fields

/-- How deep the blocks of a shape are nested. -/
def depth : Shape → Nat
  | rules _ => 0
  | nested _ fields => (fields.entries.map fun e => e.2.depth).foldr max 0 + 1
  | each fields => (fields.entries.map fun e => e.2.depth).foldr max 0 + 1
decreasing_by
  all_goals
    have := OrderedMap.sizeOf_lt_of_mem ‹_ ∈ OrderedMap.entries _›
    simp_wf
    omega

end Shape

namespace Schema

/-- The greatest depth of the shapes of a schema. -/
def depth (schema : Schema) : Nat := (schema.entries.map fun e => e.2.depth).foldr max 0

/-- Declares a field. A path that is declared again keeps its place and gets the new shape. -/
def declare (schema : Schema) (path : String) (shape : Shape) : Except SpecError Schema :=
  if Path.IsDeclarable path then .ok (schema.insert path shape) else .error (.invalidPath path)

/-- Declares a field in a schema that is changed in place. The path is looked at first. -/
def declareInPlace (path : String) (shape : Shape) : ExceptT SpecError (StateM Schema) Unit := do
  unless Path.IsDeclarable path do
    throw (.invalidPath path)
  modify fun schema => schema.insert path shape

theorem depth_le_of_mem {schema : Schema} {e : String × Shape} (h : e ∈ schema.entries) :
    e.2.depth ≤ depth schema := by
  unfold depth
  generalize schema.entries = entries at h
  induction entries with
  | nil => simp at h
  | cons first rest ih =>
    rcases List.mem_cons.mp h with rfl | h
    · simp only [List.map_cons, List.foldr_cons]
      omega
    · have := ih h
      simp only [List.map_cons, List.foldr_cons]
      omega

end Schema

@[simp] theorem Shape.depth_rules (chain : Chain) : (rules chain).depth = 0 := by
  rw [depth]

@[simp] theorem Shape.depth_nested (nullable : Bool) (fields : Schema) :
    (nested nullable fields).depth = Schema.depth fields + 1 := by
  rw [depth, Schema.depth]

@[simp] theorem Shape.depth_each (fields : Schema) :
    (each fields).depth = Schema.depth fields + 1 := by
  rw [depth, Schema.depth]

end Conform
