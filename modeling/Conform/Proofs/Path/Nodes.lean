import Conform.Path.Leaves
import Conform.Proofs.Path.Resolution

/-!
# Nodes and their steps

A node of a tree is reached by steps: whole keys of objects and texts of indices. The paths of the
leaves are the steps to the nodes without children, joined; the segments of such a path are the
steps again only as long as keys have no dots and are not empty.
-/

namespace Conform.Value

/-- The steps lead from a tree to a node of it. Each key is one step, whatever it is. -/
inductive Reaches : Value → List String → Value → Prop where
  | here (node : Value) : Reaches node [] node
  | field {fields : List (String × Value)} {key : String} {child node : Value}
      {steps : List String} :
      (key, child) ∈ fields → Reaches child steps node → Reaches (.obj fields) (key :: steps) node
  | item {items : List Value} {i : Nat} {child node : Value} {steps : List String} :
      items[i]? = some child → Reaches child steps node →
      Reaches (.arr items) (toString i :: steps) node

/-- A value without children: a scalar, an empty object or an empty list. -/
def IsBare : Value → Prop
  | .obj fields => fields = []
  | .arr items => items = []
  | _ => True

/-- The steps lead to a leaf below the root. -/
def IsLeafAt (tree : Value) (steps : List String) : Prop :=
  steps ≠ [] ∧ ∃ leaf, tree.Reaches steps leaf ∧ leaf.IsBare

theorem Reaches.trans {tree inner node : Value} {front back : List String}
    (h : tree.Reaches front inner) (h' : inner.Reaches back node) :
    tree.Reaches (front ++ back) node := by
  induction h with
  | here => exact h'
  | field hmem _ ih => exact .field hmem (ih h')
  | item hi _ ih => exact .item hi (ih h')

/-! ## Children -/

/-- The children of a value in order, each with the step to it. -/
def children : Value → List (String × Value)
  | .obj fields => fields
  | .arr items => items.zipIdx.map fun (item, i) => (toString i, item)
  | _ => []

theorem children_eq_nil_iff {value : Value} : value.children = [] ↔ value.IsBare := by
  cases value <;> simp [children, IsBare]

theorem not_isBare_of_mem_children {value : Value} {e : String × Value} (he : e ∈ value.children) :
    ¬value.IsBare :=
  mt children_eq_nil_iff.mpr (List.ne_nil_of_mem he)

theorem getElem?_children_arr {items : List Value} {i : Nat} {step : String} {child : Value} :
    (arr items).children[i]? = some (step, child) ↔ step = toString i ∧ items[i]? = some child := by
  rw [children, List.getElem?_map, List.getElem?_zipIdx]
  cases items[i]? <;> simp [eq_comm]

theorem mem_children_arr {items : List Value} {e : String × Value}
    (h : e ∈ (arr items).children) : ∃ i : Nat, e.1 = toString i ∧ items[i]? = some e.2 := by
  obtain ⟨i, hi⟩ := List.mem_iff_getElem?.mp h
  exact ⟨i, getElem?_children_arr.mp hi⟩

theorem sizeOf_lt_of_mem_children {value : Value} {e : String × Value} (h : e ∈ value.children) :
    sizeOf e.2 < sizeOf value := by
  cases value with
  | obj fields =>
    have hpair := List.sizeOf_lt_of_mem h
    obtain ⟨key, child⟩ := e
    simp only [Prod.mk.sizeOf_spec, children] at hpair
    simp only [obj.sizeOf_spec]
    omega
  | arr items =>
    obtain ⟨i, -, hi⟩ := mem_children_arr h
    have hitem := List.sizeOf_lt_of_mem (List.mem_of_getElem? hi)
    simp only [arr.sizeOf_spec]
    omega
  | _ => simp [children] at h

/-- What holds of a value when it holds of its children holds of every value. -/
theorem childrenInduction {motive : Value → Prop}
    (h : ∀ value, (∀ e ∈ value.children, motive e.2) → motive value) (value : Value) :
    motive value :=
  h value fun e _ => childrenInduction h e.2
termination_by value
decreasing_by exact sizeOf_lt_of_mem_children ‹_›

theorem Reaches.of_mem_children {tree node : Value} {e : String × Value} {steps : List String}
    (he : e ∈ tree.children) (h : e.2.Reaches steps node) : tree.Reaches (e.1 :: steps) node := by
  cases tree with
  | obj fields => exact .field he h
  | arr items =>
    obtain ⟨i, hstep, hi⟩ := mem_children_arr he
    rw [hstep]
    exact .item hi h
  | _ => simp [children] at he

/-! ## The listed leaves -/

/-- A leaf is listed by its own path. -/
theorem leavesAt_of_isBare {value : Value} (h : value.IsBare) (base : String) :
    leavesAt base value = [base] := by
  cases value with
  | obj fields =>
    rw [IsBare] at h
    subst h
    rw [leavesAt] <;> simp
  | arr items =>
    rw [IsBare] at h
    subst h
    rw [leavesAt] <;> simp
  | _ => rw [leavesAt] <;> simp

theorem leavesAt_obj {fields : List (String × Value)} (h : fields ≠ []) (base : String) :
    leavesAt base (.obj fields) = fieldLeaves base fields := by
  cases fields with
  | nil => exact absurd rfl h
  | cons e rest => rw [leavesAt]

theorem leavesAt_arr {items : List Value} (h : items ≠ []) (base : String) :
    leavesAt base (.arr items) = itemLeaves base 0 items := by
  cases items with
  | nil => exact absurd rfl h
  | cons item rest => rw [leavesAt]

theorem fieldLeaves_eq (base : String) (fields : List (String × Value)) :
    fieldLeaves base fields = fields.flatMap fun e => leavesAt (Path.join base e.1) e.2 := by
  induction fields with
  | nil => rfl
  | cons e rest ih => rw [fieldLeaves, ih, List.flatMap_cons]

theorem itemLeaves_eq (base : String) (start : Nat) (items : List Value) :
    itemLeaves base start items = (items.zipIdx start).flatMap fun (item, i) =>
      leavesAt (Path.join base (toString i)) item := by
  induction items generalizing start with
  | nil => rfl
  | cons item rest ih => rw [itemLeaves, ih, List.zipIdx_cons, List.flatMap_cons]

theorem leavesAt_of_not_isBare {value : Value} (h : ¬value.IsBare) (base : String) :
    leavesAt base value = value.children.flatMap fun e => leavesAt (Path.join base e.1) e.2 := by
  cases value with
  | obj fields => rw [leavesAt_obj h, fieldLeaves_eq, children]
  | arr items => rw [leavesAt_arr h, itemLeaves_eq, children, List.flatMap_map]
  | _ => exact absurd trivial h

theorem mem_leavesAt_of_mem_children {tree : Value} {e : String × Value} (he : e ∈ tree.children)
    {base path : String} (h : path ∈ leavesAt (Path.join base e.1) e.2) :
    path ∈ leavesAt base tree := by
  rw [leavesAt_of_not_isBare (not_isBare_of_mem_children he)]
  exact List.mem_flatMap_of_mem he h

theorem exists_of_mem_leavesAt {base path : String} {value : Value}
    (h : path ∈ leavesAt base value) :
    ∃ steps leaf, value.Reaches steps leaf ∧ leaf.IsBare ∧ path = steps.foldl Path.join base := by
  induction value using childrenInduction generalizing base with
  | h value ih =>
    by_cases hbare : value.IsBare
    · rw [leavesAt_of_isBare hbare, List.mem_singleton] at h
      exact ⟨[], value, .here value, hbare, h⟩
    · rw [leavesAt_of_not_isBare hbare] at h
      obtain ⟨e, he, hmem⟩ := List.mem_flatMap.mp h
      obtain ⟨steps, leaf, hreach, hleaf, hpath⟩ := ih e he hmem
      exact ⟨e.1 :: steps, leaf, hreach.of_mem_children he, hleaf, hpath⟩

theorem mem_leavesAt_of_reaches {value leaf : Value} {steps : List String}
    (h : value.Reaches steps leaf) (hbare : leaf.IsBare) (base : String) :
    steps.foldl Path.join base ∈ leavesAt base value := by
  induction h generalizing base with
  | here => simp [leavesAt_of_isBare hbare]
  | @field fields key child node steps hmem _ ih =>
    have hchild : (key, child) ∈ (obj fields).children := hmem
    exact mem_leavesAt_of_mem_children hchild (ih hbare _)
  | @item items i child node steps hi _ ih =>
    have hchild := List.mem_of_getElem? (getElem?_children_arr.mpr ⟨rfl, hi⟩)
    exact mem_leavesAt_of_mem_children hchild (ih hbare _)

theorem leaves_of_not_isBare {tree : Value} (h : ¬tree.IsBare) :
    tree.leaves = leavesAt "" tree := by
  cases tree with
  | obj fields => rw [leaves, leavesAt_obj h]
  | arr items => rw [leaves, leavesAt_arr h]
  | _ => exact absurd trivial h

theorem leaves_of_isBare {tree : Value} (h : tree.IsBare) : tree.leaves = [] := by
  cases tree with
  | obj fields => rw [IsBare] at h; simp [h, leaves, fieldLeaves]
  | arr items => rw [IsBare] at h; simp [h, leaves, itemLeaves]
  | _ => rfl

theorem Reaches.eq_nil_of_isBare {tree node : Value} {steps : List String}
    (h : tree.Reaches steps node) (hbare : tree.IsBare) : steps = [] := by
  cases h with
  | here => rfl
  | field hmem _ => exact absurd hbare (List.ne_nil_of_mem hmem)
  | item hi _ => exact absurd hbare (List.ne_nil_of_mem (List.mem_of_getElem? hi))

/-- The listed paths are those of the leaves below the root, each made by joining its steps. -/
theorem mem_leaves_iff {tree : Value} {path : String} :
    path ∈ tree.leaves ↔ ∃ steps, tree.IsLeafAt steps ∧ path = steps.foldl Path.join "" := by
  by_cases hbare : tree.IsBare
  · rw [leaves_of_isBare hbare]
    constructor
    · intro h
      simp at h
    · rintro ⟨steps, ⟨hne, leaf, hreach, -⟩, -⟩
      exact absurd (hreach.eq_nil_of_isBare hbare) hne
  · rw [leaves_of_not_isBare hbare]
    constructor
    · intro h
      obtain ⟨steps, leaf, hreach, hleaf, hpath⟩ := exists_of_mem_leavesAt h
      refine ⟨steps, ⟨?_, leaf, hreach, hleaf⟩, hpath⟩
      rintro rfl
      cases hreach
      exact hbare hleaf
    · rintro ⟨steps, ⟨-, leaf, hreach, hleaf⟩, rfl⟩
      exact mem_leavesAt_of_reaches hreach hleaf ""

/-! ## Resolution as steps -/

/-- The segments lead to a node of the tree, by these steps. A segment is taken for the key that it
is and for the index that it denotes; the step to an item is always the index in decimal. -/
inductive Follows : Value → List String → List String → Value → Prop where
  | here (node : Value) : Follows node [] [] node
  | field {fields : List (String × Value)} {key : String} {child node : Value}
      {segments steps : List String} : fields.lookup key = some child →
      Follows child segments steps node →
      Follows (.obj fields) (key :: segments) (key :: steps) node
  | item {items : List Value} {segment : String} {i : Nat} {child node : Value}
      {segments steps : List String} : Path.index? segment = some i → items[i]? = some child →
      Follows child segments steps node →
      Follows (.arr items) (segment :: segments) (toString i :: steps) node

/-- A path is resolved just when its segments lead somewhere. -/
theorem resolve?_eq_some_iff {tree node : Value} {path : String} :
    tree.resolve? path = some node ↔ ∃ steps, tree.Follows (Path.segments path) steps node := by
  rw [resolve?]
  generalize Path.segments path = segments
  constructor
  · intro h
    induction segments generalizing tree with
    | nil =>
      rw [List.foldlM_nil, Option.pure_def, Option.some.injEq] at h
      exact ⟨[], h ▸ .here tree⟩
    | cons segment rest ih =>
      rw [List.foldlM_cons] at h
      obtain ⟨child, hchild, h⟩ := Option.bind_eq_some_iff.mp h
      obtain ⟨steps, hsteps⟩ := ih h
      cases tree with
      | obj fields => exact ⟨segment :: steps, .field hchild hsteps⟩
      | arr items =>
        obtain ⟨i, hi, hitem⟩ := Option.bind_eq_some_iff.mp hchild
        exact ⟨toString i :: steps, .item hi hitem hsteps⟩
      | _ => simp [child?] at hchild
  · rintro ⟨steps, h⟩
    induction h with
    | here => rfl
    | field hlookup _ ih => rw [List.foldlM_cons, child?, hlookup]; exact ih
    | item hi hitem _ ih => rw [List.foldlM_cons, child?, hi, Option.bind_some, hitem]; exact ih

theorem Follows.reaches {tree node : Value} {segments steps : List String}
    (h : tree.Follows segments steps node) : tree.Reaches steps node := by
  induction h with
  | here node => exact .here node
  | field hlookup _ ih => exact .field (mem_of_lookup hlookup) ih
  | item _ hitem _ ih => exact .item hitem ih

theorem Follows.length_eq {tree node : Value} {segments steps : List String}
    (h : tree.Follows segments steps node) : steps.length = segments.length := by
  induction h with
  | here => rfl
  | field _ _ ih => simp [ih]
  | item _ _ _ ih => simp [ih]

end Conform.Value
