import Conform.Proofs.Schema.Throughout
import Conform.Proofs.Schema.Validated
import Conform.Schema.Build

/-!
# Built schemas

A path is looked at when it is declared. So what holds of an empty schema and is kept when a path
that may be declared is added holds throughout a schema that has been built: all its paths, at any
depth, are paths that may be declared.
-/

namespace Conform

namespace Schema

/-- One declaration is added at a time, once its path has been looked at. -/
theorem extendFrom_cons_eq_ok_iff {registry : Registry} {wrap : String → SpecError → SpecError}
    {field : String} {declaration : Declaration} {rest : List (String × Declaration)}
    {start schema : Schema} :
    extendFrom registry wrap ((field, declaration) :: rest) start = .ok schema ↔
      ∃ shape, declaration.shape registry wrap = .ok shape ∧ Path.IsDeclarable field ∧
        extendFrom registry wrap rest (start.insert field shape) = .ok schema := by
  rw [extendFrom]
  cases declaration.shape registry wrap with
  | error error => simp [Except.bind]
  | ok shape => by_cases hfield : Path.IsDeclarable field <;> simp [Except.bind, declare, hfield]

/-- The condition is kept when a path that may be declared is added. -/
def IsKept (blocks : Schema → Prop) : Prop :=
  ∀ (schema : Schema) (path : String) (shape : Shape), blocks schema → Path.IsDeclarable path →
    blocks (OrderedMap.insert schema path shape)

end Schema

section

variable {blocks : Schema → Prop} {registry : Registry} {wrap : String → SpecError → SpecError}

mutual

/-- A declared block is built from nothing. -/
theorem Declaration.all_shape (hempty : blocks ∅) (hkept : Schema.IsKept blocks) :
    (declaration : Declaration) → {shape : Shape} → declaration.shape registry wrap = .ok shape →
      shape.All (fun _ => True) blocks
  | .spec text, shape, h => by
    rw [Declaration.shape] at h
    cases hchain : registry.compile text <;> rw [hchain] at h <;> cases h
    exact .rules trivial
  | .rules chain, shape, h => by
    rw [Declaration.shape] at h
    cases h
    exact .rules trivial
  | .nested _ fields, shape, h | .each fields, shape, h => by
    rw [Declaration.shape] at h
    cases hfields : Schema.extendFrom registry wrap fields ∅ with
    | error error => rw [hfields] at h; cases h
    | ok schema =>
      rw [hfields] at h
      cases h
      refine Shape.all_of_block? (fun _ hchain => by cases hchain) fun _ hblock => ?_
      cases hblock
      exact Schema.All.extendFrom hempty hkept fields ⟨hempty, by simp⟩ hfields

theorem Schema.All.extendFrom (hempty : blocks ∅) (hkept : Schema.IsKept blocks) :
    (fields : List (String × Declaration)) → {schema extended : Schema} →
      schema.All (fun _ => True) blocks →
      Schema.extendFrom registry wrap fields schema = .ok extended →
      extended.All (fun _ => True) blocks
  | [], schema, extended, hall, h => by
    rw [Schema.extendFrom] at h
    cases h
    exact hall
  | (field, declaration) :: rest, schema, extended, hall, h => by
    obtain ⟨shape, hshape, hfield, hrest⟩ := Schema.extendFrom_cons_eq_ok_iff.mp h
    have hnext := hall.insert (hkept _ field shape hall.block hfield)
      (Declaration.all_shape hempty hkept declaration hshape)
    exact Schema.All.extendFrom hempty hkept rest hnext hrest

end

/-- What holds of an empty schema and is kept holds throughout a schema that has been built. -/
theorem Schema.all_build {fields : List (String × Declaration)} {schema : Schema}
    (hempty : blocks ∅) (hkept : Schema.IsKept blocks)
    (h : Schema.build registry fields = .ok schema) :
    schema.All (fun _ => True) blocks :=
  All.extendFrom hempty hkept fields ⟨hempty, by simp⟩ h

end

/-! ## Paths that may be declared -/

namespace Schema

theorem isKept_hasDeclarableKeys : IsKept HasDeclarableKeys := by
  intro schema path shape h hpath key hkey
  rw [OrderedMap.insert, OrderedMap.keys_insertWith] at hkey
  split at hkey
  · exact h key hkey
  · rcases List.mem_append.mp hkey with hkey | hkey
    · exact h key hkey
    · rwa [List.mem_singleton.mp hkey]

end Schema

theorem Shape.All.isDeclarable {chains : Chain → Prop} {blocks : Schema → Prop}
    (hblocks : ∀ fields, blocks fields → fields.HasDeclarableKeys) {shape : Shape}
    (h : shape.All chains blocks) : shape.IsDeclarable := by
  induction h with
  | @rules chain _ => exact .rules chain
  | nested hblock _ ih => exact .nested (hblocks _ hblock) ih
  | each hblock _ ih => exact .each (hblocks _ hblock) ih

theorem Schema.All.isDeclarable {chains : Chain → Prop} {blocks : Schema → Prop}
    (hblocks : ∀ fields, blocks fields → fields.HasDeclarableKeys) {schema : Schema}
    (h : schema.All chains blocks) : schema.IsDeclarable :=
  ⟨hblocks schema h.block, fun e he => (h.shapes e he).isDeclarable hblocks⟩

/-- Whatever declarations a schema is built from, all its paths may be declared. -/
theorem Schema.isDeclarable_build {registry : Registry} {fields : List (String × Declaration)}
    {schema : Schema} (h : Schema.build registry fields = .ok schema) : schema.IsDeclarable :=
  (all_build (fun _ h => by simp at h) isKept_hasDeclarableKeys h).isDeclarable fun _ => id

end Conform
