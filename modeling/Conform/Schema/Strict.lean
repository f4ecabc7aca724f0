import Conform.Path.Leaves
import Conform.Report
import Conform.Schema.Basic
/-!
# Undeclared fields

A leaf of a tree is covered when a chain is declared for it or for one of its ancestors, or when it
is itself an ancestor of a declared path. Every leaf that is not covered is reported.
-/

namespace Conform

/-- What is reported for a leaf that no declaration covers. -/
def unknownField : String := "This field is unknown."

/-- A declared path from the root. The rules of a chain own all that lies below their path. -/
structure Declared where
  segments : List String
  ownsSubtree : Bool
deriving DecidableEq, Repr

/-- The paths that a shape at `path` declares: its own, then those of its fields. The fields of a
list block stand below every index. -/
def Shape.declared (path : String) : Shape → List Declared
  | .rules _ => [⟨Path.segments path, true⟩]
  | .nested _ fields =>
    ⟨Path.segments path, false⟩ ::
      fields.entries.flatMap fun e => e.2.declared (Path.join path e.1)
  | .each fields =>
    ⟨Path.segments path, false⟩ ::
      fields.entries.flatMap fun e =>
        e.2.declared (Path.join (Path.join path Path.wildcard) e.1)
decreasing_by
  all_goals
    have := OrderedMap.sizeOf_lt_of_mem ‹_ ∈ OrderedMap.entries _›
    simp_wf
    omega

/-- Whether a declaration covers the leaf with the given segments. -/
def Declared.Covers (declared : Declared) (leaf : List String) : Prop :=
  (declared.ownsSubtree = true ∧ declared.segments.length ≤ leaf.length ∨
    leaf.length ≤ declared.segments.length) ∧ Path.agree declared.segments leaf = true

instance (declared : Declared) (leaf : List String) : Decidable (declared.Covers leaf) :=
  inferInstanceAs (Decidable (_ ∧ _))

namespace Schema

/-- All paths that a schema declares, from the root. -/
def declared (schema : Schema) : List Declared :=
  schema.entries.flatMap fun e => e.2.declared e.1

/-- The leaves of a tree that no declaration covers. -/
def undeclared (schema : Schema) (tree : Value) : Report :=
  let declared := schema.declared
  let unknown := tree.leaves.filter fun leaf => ¬∃ d ∈ declared, d.Covers (Path.segments leaf)
  unknown.foldl (fun report leaf => report.add leaf unknownField) ∅

end Schema

end Conform
