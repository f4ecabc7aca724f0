import Conform.Proofs.Schema.Expansion
import Conform.Proofs.Schema.Findings

/-!
# Rules that ignore the tree

Most rules look at the path and the value of their field only. What a chain of such rules finds does
not depend on the tree in which the field stands.
-/

namespace Conform

/-- The rule looks at the path and at the value, and not at the tree. -/
def Rule.IgnoresTree (rule : Rule) : Prop :=
  ∀ path value? tree tree', rule.test path value? tree = rule.test path value? tree'

/-- No rule in the shape, at any depth, looks at the tree. -/
inductive Shape.IgnoresTree : Shape → Prop where
  | rules {chain : Chain} : (∀ rule ∈ chain.rules, rule.IgnoresTree) → IgnoresTree (.rules chain)
  | nested {nullable : Bool} {fields : Schema} : (∀ e ∈ fields.entries, IgnoresTree e.2) →
      IgnoresTree (.nested nullable fields)
  | each {fields : Schema} : (∀ e ∈ fields.entries, IgnoresTree e.2) → IgnoresTree (.each fields)

/-- No rule of the schema or of its blocks looks at the tree. -/
def Schema.IgnoresTree (schema : Schema) : Prop := ∀ e ∈ schema.entries, e.2.IgnoresTree

theorem Rule.ignoresTree_ofPredicate (name : String) (failure : Failure) (accepts : Value → Bool) :
    (Rule.ofPredicate name failure accepts).IgnoresTree :=
  fun _ _ _ _ => rfl

theorem Rule.IgnoresTree.objection?_eq {rule : Rule} (h : rule.IgnoresTree) (field : String)
    (value? : Option Value) (scope scope' : Value) :
    rule.objection? field value? scope = rule.objection? field value? scope' := by
  rw [Rule.objection?, Rule.objection?, Rule.apply, Rule.apply, h field value? scope scope']

theorem Chain.objections_eq_of_ignoresTree {chain : Chain}
    (h : ∀ rule ∈ chain.rules, rule.IgnoresTree) (field : String) (value? : Option Value)
    (scope scope' : Value) :
    chain.objections field value? scope = chain.objections field value? scope' := by
  have hrules : ∀ (seen : Option Value) (asked : Rule → Bool),
      (chain.rules.filter asked).filterMap (fun rule => rule.objection? field seen scope) =
        (chain.rules.filter asked).filterMap fun rule => rule.objection? field seen scope' := by
    intro seen asked
    refine List.filterMap_congr fun rule hrule => ?_
    exact (h rule (List.mem_filter.mp hrule).1).objection?_eq field seen scope scope'
  simp only [Chain.objections, hrules]

theorem Shape.IgnoresTree.merge {first second : Shape} (h : first.IgnoresTree)
    (h' : second.IgnoresTree) : (first.merge second).IgnoresTree := by
  cases h with
  | rules hfirst =>
    cases h' with
    | rules hsecond =>
      refine .rules fun rule hrule => ?_
      rcases List.mem_append.mp hrule with hrule | hrule
      · exact hfirst rule hrule
      · exact hsecond rule hrule
    | nested _ => exact .rules hfirst
    | each _ => exact .rules hfirst
  | nested hfields => exact .nested hfields
  | each hfields => exact .each hfields

theorem Schema.IgnoresTree.expand {schema : Schema} (h : schema.IgnoresTree) (tree : Value) :
    (schema.expand tree).IgnoresTree :=
  fun _ he => Schema.forall_mem_expand (fun _ _ => Shape.IgnoresTree.merge) h he

end Conform
