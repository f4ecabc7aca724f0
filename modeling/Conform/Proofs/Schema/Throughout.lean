import Conform.Proofs.Schema.Expansion

/-!
# What holds throughout a schema

Most conditions on a schema concern all of its chains or all of its levels: the schema itself and
the schemas of its blocks, however deep they are nested. Such a condition is kept when entries are
added, when shapes meet at one path and when patterns are expanded.
-/

namespace Conform

/-- Every chain in the shape, and the schema of every block in it, is as described. -/
inductive Shape.All (chains : Chain → Prop) (blocks : Schema → Prop) : Shape → Prop where
  | rules {chain : Chain} : chains chain → All chains blocks (.rules chain)
  | nested {nullable : Bool} {fields : Schema} : blocks fields →
      (∀ e ∈ fields.entries, All chains blocks e.2) → All chains blocks (.nested nullable fields)
  | each {fields : Schema} : blocks fields → (∀ e ∈ fields.entries, All chains blocks e.2) →
      All chains blocks (.each fields)

/-- Every chain of the schema, the schema itself and the schema of every block in it is as
described. -/
structure Schema.All (chains : Chain → Prop) (blocks : Schema → Prop) (schema : Schema) : Prop where
  block : blocks schema
  shapes : ∀ e ∈ schema.entries, e.2.All chains blocks

variable {chains : Chain → Prop} {blocks : Schema → Prop}

theorem Shape.All.imp {others : Chain → Prop} {shape : Shape} (h : shape.All chains blocks)
    (hchains : ∀ chain, chains chain → others chain) : shape.All others blocks := by
  induction h with
  | rules hchain => exact .rules (hchains _ hchain)
  | nested hblock _ ih => exact .nested hblock ih
  | each hblock _ ih => exact .each hblock ih

theorem Schema.All.imp {others : Chain → Prop} {schema : Schema} (h : schema.All chains blocks)
    (hchains : ∀ chain, chains chain → others chain) : schema.All others blocks :=
  ⟨h.block, fun e he => (h.shapes e he).imp hchains⟩

/-- A chain at which two chains meet has to be as described too; a block keeps its path. -/
theorem Shape.All.merge {first second : Shape}
    (happend : ∀ a b, chains a → chains b → chains (a ++ b)) (h : first.All chains blocks)
    (h' : second.All chains blocks) : (first.merge second).All chains blocks := by
  cases h with
  | rules hfirst =>
    cases h' with
    | rules hsecond => exact .rules (happend _ _ hfirst hsecond)
    | nested => exact .rules hfirst
    | each => exact .rules hfirst
  | nested hblock hshapes => exact .nested hblock hshapes
  | each hblock hshapes => exact .each hblock hshapes

/-- A shape is as described when its block is, at every level. -/
theorem Shape.all_of_block? {shape : Shape}
    (hchains : ∀ chain, shape.chain? = some chain → chains chain)
    (h : ∀ fields, shape.block? = some fields → Schema.All chains blocks fields) :
    shape.All chains blocks := by
  cases shape with
  | rules chain => exact .rules (hchains chain rfl)
  | nested nullable fields => exact .nested (h fields rfl).block (h fields rfl).shapes
  | each fields => exact .each (h fields rfl).block (h fields rfl).shapes

namespace Schema.All

theorem expand {schema : Schema} (happend : ∀ a b, chains a → chains b → chains (a ++ b))
    (hexpand : ∀ tree, blocks schema → blocks (schema.expand tree)) (h : schema.All chains blocks)
    (tree : Value) : Schema.All chains blocks (schema.expand tree) where
  block := hexpand tree h.block
  shapes _ he := forall_mem_expand (fun _ _ => Shape.All.merge happend) h.shapes he

theorem insert {schema : Schema} {path : String} {shape : Shape} (h : schema.All chains blocks)
    (hblock : blocks (OrderedMap.insert schema path shape)) (hshape : shape.All chains blocks) :
    Schema.All chains blocks (OrderedMap.insert schema path shape) where
  block := hblock
  shapes e he := by
    rcases OrderedMap.mem_insert he with he | heq
    · exact h.shapes e he
    · rwa [heq]

end Schema.All

end Conform
