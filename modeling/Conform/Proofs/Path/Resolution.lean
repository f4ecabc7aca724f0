import Conform.Proofs.Path.Segments

/-!
# Resolution step by step

Resolving a joined path is resolving its parts one after the other. The items of a list are found
under the texts of their indices as long as the indices are machine words.
-/

namespace Conform

namespace Value

/-- Resolving a joined path is resolving its parts in turn, whatever the texts are. -/
theorem resolve?_join (tree : Value) (front back : String) :
    tree.resolve? (Path.join front back) =
      (tree.resolve? front).bind fun inner => inner.resolve? back := by
  simp [resolve?, List.foldlM_append]

theorem resolve?_of_isPlain (tree : Value) {segment : String} (h : Path.IsPlain segment) :
    tree.resolve? segment = tree.child? segment := by
  simp [resolve?, Path.segments_of_isPlain h]

theorem child?_toString {items : List Value} {i : Nat} (h : i < Path.indexBound) :
    (arr items).child? (toString i) = items[i]? := by
  rw [child?, Path.index?_toString h, Option.bind_some]

/-! ## Trees whose items all have an index -/

mutual

/-- Every list in the tree has at most `2 ^ 64` items. Indices are 64-bit words, so this holds of
every tree that is held in memory. -/
def IsIndexable : Value → Prop
  | .arr items => items.length ≤ Path.indexBound ∧ ItemsIndexable items
  | .obj fields => FieldsIndexable fields
  | _ => True

def ItemsIndexable : List Value → Prop
  | [] => True
  | item :: rest => item.IsIndexable ∧ ItemsIndexable rest

def FieldsIndexable : List (String × Value) → Prop
  | [] => True
  | (_, value) :: rest => value.IsIndexable ∧ FieldsIndexable rest

end

theorem ItemsIndexable.of_mem {items : List Value} (h : ItemsIndexable items) {item : Value}
    (hmem : item ∈ items) : item.IsIndexable := by
  induction items with
  | nil => simp at hmem
  | cons first rest ih =>
    rw [ItemsIndexable] at h
    rcases List.mem_cons.mp hmem with rfl | hmem
    · exact h.1
    · exact ih h.2 hmem

theorem FieldsIndexable.of_mem {fields : List (String × Value)} (h : FieldsIndexable fields)
    {e : String × Value} (hmem : e ∈ fields) : e.2.IsIndexable := by
  induction fields with
  | nil => simp at hmem
  | cons first rest ih =>
    rw [FieldsIndexable] at h
    rcases List.mem_cons.mp hmem with rfl | hmem
    · exact h.1
    · exact ih h.2 hmem

theorem mem_of_lookup {fields : List (String × Value)} {key : String} {value : Value}
    (h : fields.lookup key = some value) : (key, value) ∈ fields := by
  obtain ⟨before, after, rfl, -⟩ := List.lookup_eq_some_iff.mp h
  simp

theorem IsIndexable.child? {tree inner : Value} {segment : String} (h : tree.IsIndexable)
    (hc : tree.child? segment = some inner) : inner.IsIndexable := by
  cases tree with
  | obj fields =>
    rw [IsIndexable] at h
    exact h.of_mem (mem_of_lookup hc)
  | arr items =>
    rw [IsIndexable] at h
    obtain ⟨i, -, hi⟩ := Option.bind_eq_some_iff.mp hc
    exact h.2.of_mem (List.mem_of_getElem? hi)
  | _ => simp [Value.child?] at hc

theorem IsIndexable.resolve? {tree inner : Value} {path : String} (h : tree.IsIndexable)
    (hr : tree.resolve? path = some inner) : inner.IsIndexable := by
  unfold Value.resolve? at hr
  generalize Path.segments path = segments at hr
  induction segments generalizing tree with
  | nil =>
    simp only [List.foldlM_nil, Option.pure_def, Option.some.injEq] at hr
    exact hr ▸ h
  | cons segment rest ih =>
    rw [List.foldlM_cons] at hr
    obtain ⟨child, hc, hr⟩ := Option.bind_eq_some_iff.mp hr
    exact ih (h.child? hc) hr

/-- The items of a list that a path leads to stand under the path joined with their indices. -/
theorem resolve?_join_toString {tree : Value} {path : String} {items : List Value} {item : Value}
    {i : Nat} (h : tree.IsIndexable) (hr : tree.resolve? path = some (.arr items))
    (hi : items[i]? = some item) : tree.resolve? (Path.join path (toString i)) = some item := by
  have hlength := h.resolve? hr
  rw [IsIndexable] at hlength
  have hlt : i < Path.indexBound := by
    have := List.getElem?_eq_some_iff.mp hi |>.1
    omega
  rw [resolve?_join, hr, Option.bind_some, resolve?_of_isPlain _ (Path.isPlain_toString i),
    child?_toString hlt, hi]

/-! ## Parts of a tree -/

/-- The tree has the part at a path: as the whole, as what a path in one of its parts resolves to,
or as an item of one of its lists, however long the list is. -/
inductive HasAt (tree : Value) : String → Value → Prop where
  | whole : HasAt tree "" tree
  | field {path field : String} {part inner : Value} : HasAt tree path part →
      part.resolve? field = some inner → HasAt tree (Path.join path field) inner
  | item {path : String} {items : List Value} {item : Value} {i : Nat} :
      HasAt tree path (.arr items) → items[i]? = some item →
      HasAt tree (Path.join path (toString i)) item

/-- Where all items have an index, a part is what its path resolves to. -/
theorem HasAt.resolve? {tree part : Value} {path : String} (h : tree.HasAt path part)
    (htree : tree.IsIndexable) : tree.resolve? path = some part := by
  induction h with
  | whole => rfl
  | field _ hinner ih => rw [resolve?_join, ih, Option.bind_some, hinner]
  | item _ hitem ih => exact resolve?_join_toString htree ih hitem

end Value

/-! ## Joining -/

namespace Path

/-- Joined texts are read as one after the other, by their segments and along a tree. This asks
nothing of the texts: they may be empty, or have dots at either end or in a row. -/
structure JoinsAsRead (front middle back : String) : Prop where
  segmentwise : segments (join front back) = segments front ++ segments back
  associative : join (join front middle) back = join front (join middle back)
  empty_left : join "" back = back
  empty_right : join front "" = front
  stepwise : ∀ tree : Value, tree.resolve? (join front back) =
    (tree.resolve? front).bind fun inner => inner.resolve? back

theorem joinsAsRead (front middle back : String) : JoinsAsRead front middle back where
  segmentwise := segments_join front back
  associative := join_assoc front middle back
  empty_left := join_empty_left back
  empty_right := join_empty_right front
  stepwise tree := tree.resolve?_join front back

-- the dots at the joint leave two empty segments, which are keys like others
example : segments (join "a." ".b") = ["a", "", "", "b"] := by decide

end Path

end Conform
