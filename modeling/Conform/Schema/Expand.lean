import Conform.Schema.Basic
/-!
# Expansion of patterns

Against a tree, a pattern stands for the concrete paths in which each wildcard has become the index
of an item. A schema is expanded entry by entry. Chains that meet at one path become one chain, in
order of declaration; any other shape keeps its path from the shapes that come after it.
-/

namespace Conform

/-- The number of items of the list that a path leads to; zero if there is no list. -/
def Value.itemCount (tree : Value) (path : String) : Nat :=
  match tree.resolve? path with
  | some (.arr items) => items.length
  | _ => 0

namespace Path

/-- The concrete paths that begin with `front` and go on with the segments. The items that a
wildcard ranges over are those of the list that the path before it leads to. -/
def instancesFrom (tree : Value) (front : String) : List String → List String
  | [] => [front]
  | segment :: rest =>
    if segment = wildcard then
      (List.range (tree.itemCount front)).flatMap fun i =>
        instancesFrom tree (join front (toString i)) rest
    else instancesFrom tree (join front segment) rest

/-- The concrete paths that a declared path stands for. -/
def instances (tree : Value) (path : String) : List String := instancesFrom tree "" (segments path)

end Path

/-- Two shapes at one path: chains are joined, and otherwise the first shape holds. -/
def Shape.merge : Shape → Shape → Shape
  | rules first, rules second => rules (first ++ second)
  | first, _ => first

namespace Schema

/-- The entries of a schema at concrete paths, before those that meet are merged. -/
def concrete (schema : Schema) (tree : Value) : List (String × Shape) :=
  schema.entries.flatMap fun e => (Path.instances tree e.1).map fun path => (path, e.2)

/-- The schema with every pattern replaced by the paths that it stands for in the tree. Blocks are
left as they are; their patterns are expanded against their own values. -/
def expand (schema : Schema) (tree : Value) : Schema :=
  (∅ : Schema).insertAllWith Shape.merge (schema.concrete tree)

/-- Whether no path of the schema is a pattern. -/
def IsConcrete (schema : Schema) : Prop := ∀ path ∈ schema.keys, ¬Path.IsPattern path

instance (schema : Schema) : Decidable (IsConcrete schema) :=
  inferInstanceAs (Decidable (∀ path ∈ schema.keys, _))

end Schema

/-! ## Expansion makes nothing deeper -/

namespace Shape

theorem depth_merge_le (first second : Shape) :
    (first.merge second).depth ≤ first.depth := by
  unfold merge
  split <;> simp

end Shape

namespace Schema

private theorem depth_insertWith_go {path : String} {shape : Shape}
    {entries : List (String × Shape)} {e : String × Shape}
    (h : e ∈ OrderedMap.insertWith.go Shape.merge path shape entries) :
    e.2.depth ≤ shape.depth ∨ ∃ old ∈ entries, e.2.depth ≤ old.2.depth := by
  induction entries with
  | nil =>
    simp only [OrderedMap.insertWith.go, List.mem_singleton] at h
    exact .inl (by simp [h])
  | cons first rest ih =>
    simp only [OrderedMap.insertWith.go] at h
    split at h
    · rcases List.mem_cons.mp h with rfl | h
      · exact .inr ⟨first, by simp, Shape.depth_merge_le _ _⟩
      · exact .inr ⟨e, by simp [h], Nat.le_refl _⟩
    · rcases List.mem_cons.mp h with rfl | h
      · exact .inr ⟨first, by simp, Nat.le_refl _⟩
      · rcases ih h with le | ⟨old, mem, le⟩
        · exact .inl le
        · exact .inr ⟨old, by simp [mem], le⟩

private theorem depth_insertAllWith (bound : Nat) (entries : List (String × Shape))
    (within : ∀ e ∈ entries, e.2.depth ≤ bound) (schema : Schema)
    (start : ∀ e ∈ schema.entries, e.2.depth ≤ bound) {e : String × Shape}
    (h : e ∈ (schema.insertAllWith Shape.merge entries).entries) : e.2.depth ≤ bound := by
  induction entries generalizing schema with
  | nil => exact start e h
  | cons first rest ih =>
    refine ih (fun x hx => within x (by simp [hx])) _ ?_ h
    intro x hx
    have first_le := within first (by simp)
    rcases depth_insertWith_go hx with le | ⟨old, mem, le⟩
    · omega
    · have := start old mem
      omega

/-- An entry of the expansion is no deeper than the schema. -/
theorem depth_le_of_mem_expand {schema : Schema} {tree : Value} {e : String × Shape}
    (h : e ∈ (schema.expand tree).entries) : e.2.depth ≤ depth schema := by
  refine depth_insertAllWith _ (schema.concrete tree) ?_ ∅ (by simp) h
  intro x hx
  simp only [concrete, List.mem_flatMap, List.mem_map] at hx
  obtain ⟨declared, mem, path, -, rfl⟩ := hx
  exact depth_le_of_mem (e := declared) mem

end Schema

end Conform
