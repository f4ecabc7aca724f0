import Conform.Proofs.OrderedMap
import Conform.Proofs.Path.Nodes
import Mathlib.Data.List.Basic
import Mathlib.Data.List.Nodup

/-!
# Leaves in the order of the document

A node has its place in a tree: on each level the position of the child through which one comes to
it. Places are compared like words, and this is the order of the document. The leaves are listed in
this order. As long as keys are plain and no object has a key twice, the path of a leaf leads to
that leaf and is the beginning of no other.
-/

namespace Conform.Value

/-! ## Places -/

/-- A node with its place in a tree: its position among its siblings on each level, and the steps
that lead to it. -/
structure Place where
  positions : List Nat
  steps : List String
  node : Value

/-- The place of what stands at a place of a child. -/
def Place.below (i : Nat) (step : String) (place : Place) : Place :=
  ⟨i :: place.positions, step :: place.steps, place.node⟩

/-- The tree has the node at the place. -/
inductive Holds : Value → Place → Prop where
  | root (tree : Value) : Holds tree ⟨[], [], tree⟩
  | child {tree child : Value} {i : Nat} {step : String} {place : Place} :
      tree.children[i]? = some (step, child) → Holds child place →
      Holds tree (place.below i step)

/-- The bare nodes of a value with their places, in the order of the document. -/
def bareNodes (value : Value) : List Place :=
  if value.children = [] then [⟨[], [], value⟩]
  else value.children.zipIdx.attach.flatMap fun e =>
    e.1.1.2.bareNodes.map (.below e.1.2 e.1.1.1)
termination_by value
decreasing_by exact sizeOf_lt_of_mem_children (List.fst_mem_of_mem_zipIdx e.2)

theorem bareNodes_of_isBare {value : Value} (h : value.IsBare) :
    value.bareNodes = [⟨[], [], value⟩] := by
  rw [bareNodes, if_pos (children_eq_nil_iff.mpr h)]

theorem bareNodes_of_not_isBare {value : Value} (h : ¬value.IsBare) :
    value.bareNodes = value.children.zipIdx.flatMap fun e =>
      e.1.2.bareNodes.map (.below e.2 e.1.1) := by
  rw [bareNodes, if_neg (mt children_eq_nil_iff.mp h)]
  conv => rhs; rw [← List.attach_map_subtype_val value.children.zipIdx, List.flatMap_map]

/-- Leaves are listed by the steps to the bare nodes. -/
theorem leavesAt_eq (base : String) (value : Value) :
    leavesAt base value = value.bareNodes.map fun place => place.steps.foldl Path.join base := by
  induction value using childrenInduction generalizing base with
  | h value ih =>
    by_cases hbare : value.IsBare
    · rw [leavesAt_of_isBare hbare, bareNodes_of_isBare hbare]
      rfl
    · rw [leavesAt_of_not_isBare hbare, bareNodes_of_not_isBare hbare, List.map_flatMap]
      conv => lhs; rw [← List.zipIdx_map_fst 0 value.children, List.flatMap_map]
      refine List.flatMap_congr fun e he => ?_
      rw [ih e.1 (List.fst_mem_of_mem_zipIdx he), List.map_map]
      rfl

theorem mem_bareNodes_iff {value : Value} {place : Place} :
    place ∈ value.bareNodes ↔ value.Holds place ∧ place.node.IsBare := by
  constructor
  · intro h
    induction value using childrenInduction generalizing place with
    | h value ih =>
      by_cases hbare : value.IsBare
      · rw [bareNodes_of_isBare hbare, List.mem_singleton] at h
        exact h ▸ ⟨.root value, hbare⟩
      · rw [bareNodes_of_not_isBare hbare, List.mem_flatMap] at h
        obtain ⟨e, he, h⟩ := h
        obtain ⟨inner, hinner, rfl⟩ := List.mem_map.mp h
        obtain ⟨hholds, hleaf⟩ := ih e.1 (List.fst_mem_of_mem_zipIdx he) hinner
        exact ⟨.child (List.mem_zipIdx_iff_getElem?.mp he) hholds, hleaf⟩
  · rintro ⟨h, hleaf⟩
    induction h with
    | root => simp [bareNodes_of_isBare hleaf]
    | @child tree child i step place hchild _ ih =>
      have hbare := not_isBare_of_mem_children (List.mem_of_getElem? hchild)
      rw [bareNodes_of_not_isBare hbare, List.mem_flatMap]
      exact ⟨((step, child), i), List.mem_zipIdx_iff_getElem?.mpr hchild,
        List.mem_map_of_mem (ih hleaf)⟩

theorem pairwise_bareNodes (value : Value) :
    value.bareNodes.Pairwise fun a b => a.positions < b.positions := by
  induction value using childrenInduction with
  | h value ih =>
    by_cases hbare : value.IsBare
    · rw [bareNodes_of_isBare hbare]
      exact List.pairwise_singleton _ _
    · rw [bareNodes_of_not_isBare hbare, List.pairwise_flatMap]
      constructor
      · intro e he
        rw [List.pairwise_map]
        refine (ih e.1 (List.fst_mem_of_mem_zipIdx he)).imp fun h => ?_
        simpa [Place.below, List.cons_lt_cons_iff] using h
      · have hpositions : value.children.zipIdx.Pairwise fun x y => x.2 < y.2 := by
          rw [← List.pairwise_map, List.zipIdx_map_snd]
          exact List.pairwise_lt_range'
        refine hpositions.imp fun hlt a ha b hb => ?_
        obtain ⟨x, -, rfl⟩ := List.mem_map.mp ha
        obtain ⟨y, -, rfl⟩ := List.mem_map.mp hb
        simp [Place.below, List.cons_lt_cons_iff, hlt]

/-- The bare nodes below the root with their places. -/
def leafPlaces (tree : Value) : List Place := tree.bareNodes.filter (·.positions ≠ [])

theorem mem_leafPlaces_iff {tree : Value} {place : Place} :
    place ∈ tree.leafPlaces ↔ tree.Holds place ∧ place.positions ≠ [] ∧ place.node.IsBare := by
  rw [leafPlaces, List.mem_filter, mem_bareNodes_iff, decide_eq_true_eq, and_right_comm,
    and_assoc]

theorem leaves_eq_map (tree : Value) :
    tree.leaves = tree.leafPlaces.map fun place => place.steps.foldl Path.join "" := by
  by_cases hbare : tree.IsBare
  · rw [leaves_of_isBare hbare, leafPlaces, bareNodes_of_isBare hbare]
    rfl
  · have hbelow : ∀ place ∈ tree.bareNodes, decide (place.positions ≠ []) = true := by
      intro place h
      rw [bareNodes_of_not_isBare hbare, List.mem_flatMap] at h
      obtain ⟨e, -, h⟩ := h
      obtain ⟨inner, -, rfl⟩ := List.mem_map.mp h
      exact decide_eq_true (List.cons_ne_nil _ _)
    rw [leaves_of_not_isBare hbare, leavesAt_eq, leafPlaces, List.filter_eq_self.mpr hbelow]

/-! ## Keys -/

mutual

/-- The keys of every object in a value, object by object. -/
def keyLists : Value → List (List String)
  | .obj fields => fields.map (·.1) :: fieldKeyLists fields
  | .arr items => itemKeyLists items
  | _ => []

def fieldKeyLists : List (String × Value) → List (List String)
  | [] => []
  | (_, value) :: rest => keyLists value ++ fieldKeyLists rest

def itemKeyLists : List Value → List (List String)
  | [] => []
  | item :: rest => keyLists item ++ itemKeyLists rest

end

/-- Every key of an object can stand as a segment of its own. -/
def HasPlainKeys (tree : Value) : Prop := ∀ keys ∈ tree.keyLists, ∀ key ∈ keys, Path.IsPlain key

/-- No object has a key twice. The fields of an object are a map, so this holds of every tree that
is held in memory. -/
def HasDistinctKeys (tree : Value) : Prop := ∀ keys ∈ tree.keyLists, keys.Nodup

instance (tree : Value) : Decidable tree.HasPlainKeys := List.decidableBAll _ _

instance (tree : Value) : Decidable tree.HasDistinctKeys := List.decidableBAll _ _

variable {tree : Value} {e : String × Value}

theorem keyLists_subset_of_mem_fields {fields : List (String × Value)} (he : e ∈ fields) :
    e.2.keyLists ⊆ fieldKeyLists fields := by
  induction fields with
  | nil => simp at he
  | cons first rest ih =>
    rw [fieldKeyLists]
    rcases List.mem_cons.mp he with rfl | he
    · exact List.subset_append_left _ _
    · exact List.subset_append_of_subset_right _ (ih he)

theorem keyLists_subset_of_mem_items {items : List Value} {item : Value} (h : item ∈ items) :
    item.keyLists ⊆ itemKeyLists items := by
  induction items with
  | nil => simp at h
  | cons first rest ih =>
    rw [itemKeyLists]
    rcases List.mem_cons.mp h with rfl | h
    · exact List.subset_append_left _ _
    · exact List.subset_append_of_subset_right _ (ih h)

theorem keyLists_subset_of_mem_children (he : e ∈ tree.children) :
    e.2.keyLists ⊆ tree.keyLists := by
  cases tree with
  | obj fields => exact List.subset_cons_of_subset _ (keyLists_subset_of_mem_fields he)
  | arr items =>
    obtain ⟨i, -, hi⟩ := mem_children_arr he
    exact keyLists_subset_of_mem_items (List.mem_of_getElem? hi)
  | _ => simp [children] at he

theorem HasPlainKeys.inner (h : tree.HasPlainKeys) (he : e ∈ tree.children) :
    e.2.HasPlainKeys :=
  fun keys hkeys => h keys (keyLists_subset_of_mem_children he hkeys)

theorem HasDistinctKeys.inner (h : tree.HasDistinctKeys) (he : e ∈ tree.children) :
    e.2.HasDistinctKeys :=
  fun keys hkeys => h keys (keyLists_subset_of_mem_children he hkeys)

theorem IsIndexable.inner (h : tree.IsIndexable) (he : e ∈ tree.children) : e.2.IsIndexable := by
  cases tree with
  | obj fields =>
    rw [IsIndexable] at h
    exact h.of_mem he
  | arr items =>
    rw [IsIndexable] at h
    obtain ⟨i, -, hi⟩ := mem_children_arr he
    exact h.2.of_mem (List.mem_of_getElem? hi)
  | _ => simp [children] at he

theorem HasPlainKeys.isPlain_of_mem_children (h : tree.HasPlainKeys) (he : e ∈ tree.children) :
    Path.IsPlain e.1 := by
  cases tree with
  | obj fields => exact h _ (List.mem_cons_self ..) e.1 (List.mem_map_of_mem he)
  | arr items =>
    obtain ⟨i, hstep, -⟩ := mem_children_arr he
    exact hstep ▸ Path.isPlain_toString i
  | _ => simp [children] at he

/-- The steps to the children are all different. -/
theorem HasDistinctKeys.nodup_children (h : tree.HasDistinctKeys) :
    (tree.children.map (·.1)).Nodup := by
  cases tree with
  | obj fields => exact h _ (List.mem_cons_self ..)
  | arr items =>
    have hsteps : (arr items).children.map (·.1) = (items.zipIdx.map (·.2)).map toString := by
      rw [children, List.map_map, List.map_map]
      rfl
    rw [hsteps, List.zipIdx_map_snd]
    exact List.Nodup.map (fun _ _ => Path.toString_injective) List.nodup_range'
  | _ => exact List.nodup_nil

/-- The step to a child leads to it. -/
theorem child?_of_mem_children (hdistinct : tree.HasDistinctKeys) (hindexable : tree.IsIndexable)
    (he : e ∈ tree.children) : tree.child? e.1 = some e.2 := by
  cases tree with
  | obj fields => exact OrderedMap.get?_of_mem (m := ⟨fields⟩) hdistinct.nodup_children he
  | arr items =>
    obtain ⟨i, hstep, hi⟩ := mem_children_arr he
    rw [IsIndexable] at hindexable
    have hlt : i < Path.indexBound := by
      have := (List.getElem?_eq_some_iff.mp hi).1
      omega
    rw [hstep, child?_toString hlt, hi]
  | _ => simp [children] at he

/-! ## Paths of leaves -/

variable {place : Place}

theorem Holds.isPlain (h : tree.Holds place) (hplain : tree.HasPlainKeys) :
    ∀ s ∈ place.steps, Path.IsPlain s := by
  induction h with
  | root => simp
  | child hchild _ ih =>
    have hmem := List.mem_of_getElem? hchild
    rw [Place.below, List.forall_mem_cons]
    exact ⟨hplain.isPlain_of_mem_children hmem, ih (hplain.inner hmem)⟩

/-- The path that is made of the steps to a place leads there. -/
theorem Holds.resolve? (h : tree.Holds place) (hplain : tree.HasPlainKeys)
    (hdistinct : tree.HasDistinctKeys) (hindexable : tree.IsIndexable) :
    tree.resolve? (Path.ofSegments place.steps) = some place.node := by
  rw [Value.resolve?, Path.segments_ofSegments (h.isPlain hplain)]
  clear hplain
  induction h with
  | root => rfl
  | child hchild _ ih =>
    have hmem := List.mem_of_getElem? hchild
    rw [Place.below, List.foldlM_cons, child?_of_mem_children hdistinct hindexable hmem]
    exact ih (hdistinct.inner hmem) (hindexable.inner hmem)

/-- The steps to a bare node are the beginning of no others: there is nothing below it, and another
step leads to another child. -/
theorem Holds.eq_of_prefix {other : Place} (h : tree.Holds place) (hbare : place.node.IsBare)
    (hdistinct : tree.HasDistinctKeys) (hother : tree.Holds other)
    (hbegins : place.steps <+: other.steps) : place = other := by
  induction h generalizing other with
  | root tree =>
    cases hother with
    | root => rfl
    | child hchild _ =>
      rw [children_eq_nil_iff.mpr hbare] at hchild
      simp at hchild
  | @child tree child i step place hchild _ ih =>
    cases hother with
    | root => simp [Place.below] at hbegins
    | @child _ child' i' step' place' hchild' hother =>
      obtain ⟨rfl, hrest⟩ := List.cons_prefix_cons.mp hbegins
      have hlt : i < (tree.children.map (·.1)).length := by
        rw [List.length_map]
        exact (List.getElem?_eq_some_iff.mp hchild).1
      obtain rfl : i = i' := by
        refine (List.getElem?_inj hlt hdistinct.nodup_children).mp ?_
        rw [List.getElem?_map, List.getElem?_map, hchild, hchild']
        rfl
      rw [hchild, Option.some.injEq, Prod.mk.injEq] at hchild'
      obtain ⟨-, rfl⟩ := hchild'
      have hmem := List.mem_of_getElem? hchild
      rw [ih hbare (hdistinct.inner hmem) hother hrest]

/-- The places are those of the leaves below the root in the order of the document, and the paths
are theirs. -/
structure IsListing (tree : Value) (places : List Place) (paths : List String) : Prop where
  mem_iff : ∀ place, place ∈ places ↔
    tree.Holds place ∧ place.positions ≠ [] ∧ place.node.IsBare
  /-- Positions are compared like words. So no leaf comes twice. -/
  ascending : places.Pairwise fun a b => a.positions < b.positions
  paths_eq : paths = places.map fun place => Path.ofSegments place.steps
  nodup : paths.Nodup
  prefix_free : paths.Pairwise fun a b =>
    ¬Path.segments a <+: Path.segments b ∧ ¬Path.segments b <+: Path.segments a
  resolves : ∀ place ∈ places, tree.resolve? (Path.ofSegments place.steps) = some place.node

/-- The leaves of a tree with plain and distinct keys are listed in the order of the document, each
once, by paths that lead to them and to nothing else. -/
theorem exists_isListing_leaves (hplain : tree.HasPlainKeys) (hdistinct : tree.HasDistinctKeys)
    (hindexable : tree.IsIndexable) : ∃ places, tree.IsListing places tree.leaves := by
  have hpaths : tree.leaves = tree.leafPlaces.map fun place => Path.ofSegments place.steps := by
    rw [leaves_eq_map]
    refine List.map_congr_left fun place hplace => ?_
    exact Path.foldl_join_of_isPlain ((mem_leafPlaces_iff.mp hplace).1.isPlain hplain)
  have hascending : tree.leafPlaces.Pairwise fun a b => a.positions < b.positions :=
    tree.pairwise_bareNodes.filter _
  have hunique : ∀ a ∈ tree.leafPlaces, ∀ b ∈ tree.leafPlaces,
      Path.segments (Path.ofSegments a.steps) <+: Path.segments (Path.ofSegments b.steps) →
        a = b := by
    intro a ha b hb hbegins
    obtain ⟨ha, -, hbare⟩ := mem_leafPlaces_iff.mp ha
    obtain ⟨hb, -, -⟩ := mem_leafPlaces_iff.mp hb
    rw [Path.segments_ofSegments (ha.isPlain hplain),
      Path.segments_ofSegments (hb.isPlain hplain)] at hbegins
    exact ha.eq_of_prefix hbare hdistinct hb hbegins
  have hfree : tree.leaves.Pairwise fun a b =>
      ¬Path.segments a <+: Path.segments b ∧ ¬Path.segments b <+: Path.segments a := by
    rw [hpaths, List.pairwise_map]
    refine hascending.imp_of_mem fun {a b} ha hb hlt => ?_
    have hne : a ≠ b := fun heq => List.lt_irrefl _ (heq ▸ hlt)
    exact ⟨fun h => hne (hunique a ha b hb h), fun h => hne (hunique b hb a ha h).symm⟩
  refine ⟨tree.leafPlaces, ?_⟩
  constructor
  case mem_iff => exact fun place => mem_leafPlaces_iff
  case ascending => exact hascending
  case paths_eq => exact hpaths
  case nodup =>
    refine hfree.imp ?_
    rintro path _ hapart rfl
    exact hapart.1 (List.prefix_refl _)
  case prefix_free => exact hfree
  case resolves =>
    intro place hplace
    exact (mem_leafPlaces_iff.mp hplace).1.resolve? hplain hdistinct hindexable

/-- Keys that look like indices, empty containers, and lists in objects in lists. -/
theorem exists_isListing_leaves_of_mixed_tree :
    let tree : Value := .obj [
      ("rows", .arr [.obj [("1", .null), ("0", .arr [])], .str "x"]),
      ("0", .obj [("empty", .obj [])])]
    tree.HasPlainKeys ∧ tree.HasDistinctKeys ∧ tree.IsIndexable ∧
      (∃ places, tree.IsListing places tree.leaves) ∧
      tree.leaves = ["rows.0.1", "rows.0.0", "rows.1", "0.empty"] := by
  intro tree
  have hplain : tree.HasPlainKeys := by decide
  have hdistinct : tree.HasDistinctKeys := by decide
  have hindexable : tree.IsIndexable := by
    simp [tree, IsIndexable, ItemsIndexable, FieldsIndexable, Path.indexBound]
  exact ⟨hplain, hdistinct, hindexable, exists_isListing_leaves hplain hdistinct hindexable,
    by decide⟩

end Conform.Value
