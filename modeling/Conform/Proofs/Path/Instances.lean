import Conform.Proofs.Path.Resolution
import Conform.Schema.Expand
import Mathlib.Data.List.Forall2

/-!
# The instances of a pattern

A pattern is filled from left to right: every wildcard becomes the index of an item of the list that
the path so far leads to. The instances that expansion lists are exactly the fillings, each once,
in the lexicographic order of their indices.
-/

namespace Conform

theorem Value.lt_itemCount_iff {tree : Value} {path : String} {i : Nat} :
    i < tree.itemCount path ↔
      ∃ items, tree.resolve? path = some (.arr items) ∧ i < items.length := by
  unfold itemCount
  split
  · rename_i items h
    simp [h]
  · rename_i h
    simp only [Nat.not_lt_zero, false_iff, not_exists, not_and]
    exact fun items hitems => absurd hitems (h items)

namespace Path

/-- Behind the segments `front`, the pattern filled with the indices gives `parts`: each wildcard
has become the text of an index for which the list at the segments before it is long enough. -/
inductive Fills (tree : Value) :
    List String → List String → List Nat → List String → Prop where
  | done (front : List String) : Fills tree front [] [] front
  | keep {front : List String} {segment : String} {rest parts : List String} {indices : List Nat} :
      segment ≠ wildcard → Fills tree (front ++ [segment]) rest indices parts →
      Fills tree front (segment :: rest) indices parts
  | item {front rest parts : List String} {items : List Value} {i : Nat} {indices : List Nat} :
      tree.resolve? (ofSegments front) = some (.arr items) → i < items.length →
      Fills tree (front ++ [toString i]) rest indices parts →
      Fills tree front (wildcard :: rest) (i :: indices) parts

/-- The path is the declared one with its wildcards replaced by the indices. -/
def Produces (tree : Value) (declared : String) (indices : List Nat) (path : String) : Prop :=
  Fills tree [] (segments declared) indices (segments path)

/-- All fillings of a pattern with their indices. -/
def fillings (tree : Value) (front : List String) : List String → List (List Nat × List String)
  | [] => [([], front)]
  | segment :: rest =>
    if segment = wildcard then
      (List.range (tree.itemCount (ofSegments front))).flatMap fun i =>
        (fillings tree (front ++ [toString i]) rest).map fun (indices, parts) =>
          (i :: indices, parts)
    else fillings tree (front ++ [segment]) rest

theorem mem_fillings_iff {tree : Value} {front pattern parts : List String} {indices : List Nat} :
    (indices, parts) ∈ fillings tree front pattern ↔ Fills tree front pattern indices parts := by
  constructor
  · intro h
    induction pattern generalizing front indices with
    | nil =>
      simp only [fillings, List.mem_singleton, Prod.mk.injEq] at h
      obtain ⟨rfl, rfl⟩ := h
      exact .done _
    | cons segment rest ih =>
      rw [fillings] at h
      split at h
      · rename_i hs
        subst hs
        simp only [List.mem_flatMap, List.mem_range, List.mem_map, Prod.mk.injEq] at h
        obtain ⟨i, hi, ⟨others, _⟩, hmem, rfl, rfl⟩ := h
        obtain ⟨items, hitems, hlt⟩ := Value.lt_itemCount_iff.mp hi
        exact .item hitems hlt (ih hmem)
      · rename_i hs
        exact .keep hs (ih h)
  · intro h
    induction h with
    | done front => simp [fillings]
    | keep hs _ ih => rwa [fillings, if_neg hs]
    | @item front rest parts items i indices hitems hlt _ ih =>
      rw [fillings, if_pos rfl]
      have hi := Value.lt_itemCount_iff.mpr ⟨items, hitems, hlt⟩
      simp only [List.mem_flatMap, List.mem_range, List.mem_map, Prod.mk.injEq]
      exact ⟨i, hi, (indices, parts), ih, rfl, rfl⟩

/-! ## Shape of a filling -/

/-- A segment of a pattern may become the segment of a path: as it is, or a wildcard as an index. -/
def StandsFor (pattern segment : String) : Prop :=
  pattern ≠ wildcard ∧ pattern = segment ∨ pattern = wildcard ∧ ∃ i : Nat, segment = toString i

/-- A filling keeps what is in front and goes through the pattern segment by segment. -/
theorem Fills.exists_forall₂ {tree : Value} {front pattern parts : List String}
    {indices : List Nat} (h : Fills tree front pattern indices parts) :
    ∃ filled, parts = front ++ filled ∧ List.Forall₂ StandsFor pattern filled := by
  induction h with
  | done front => exact ⟨[], by simp, .nil⟩
  | @keep front segment rest parts indices hne _ ih =>
    obtain ⟨filled, rfl, hfilled⟩ := ih
    exact ⟨segment :: filled, by simp, .cons (.inl ⟨hne, rfl⟩) hfilled⟩
  | @item front rest parts items i indices _ _ _ ih =>
    obtain ⟨filled, rfl, hfilled⟩ := ih
    exact ⟨toString i :: filled, by simp, .cons (.inr ⟨rfl, i, rfl⟩) hfilled⟩

theorem Fills.isPrefix {tree : Value} {front pattern parts : List String} {indices : List Nat}
    (h : Fills tree front pattern indices parts) : front <+: parts := by
  obtain ⟨filled, rfl, -⟩ := h.exists_forall₂
  exact List.prefix_append front filled

theorem Produces.forall₂ {tree : Value} {declared path : String} {indices : List Nat}
    (h : Produces tree declared indices path) :
    List.Forall₂ StandsFor (segments declared) (segments path) := by
  obtain ⟨filled, hfilled, hstands⟩ := Fills.exists_forall₂ h
  rw [hfilled]
  exact hstands

theorem StandsFor.isPlain {pattern segment : String} (h : StandsFor pattern segment)
    (hp : IsPlain pattern) : IsPlain segment := by
  rcases h with ⟨-, rfl⟩ | ⟨-, i, rfl⟩
  · exact hp
  · exact isPlain_toString i

theorem StandsFor.ne_wildcard {pattern segment : String} (h : StandsFor pattern segment) :
    segment ≠ wildcard := by
  rcases h with ⟨hne, rfl⟩ | ⟨-, i, rfl⟩
  · exact hne
  · exact toString_ne_wildcard i

/-- What holds of all segments that can stand for those of a pattern holds of a whole path. -/
theorem forall_mem_of_standsFor {pattern parts : List String} {p : String → Prop}
    (h : List.Forall₂ StandsFor pattern parts)
    (hp : ∀ part ∈ pattern, ∀ segment, StandsFor part segment → p segment) :
    ∀ segment ∈ parts, p segment := by
  induction h with
  | nil => simp
  | cons hstands _ ih =>
    intro segment hmem
    rcases List.mem_cons.mp hmem with rfl | hmem
    · exact hp _ (List.mem_cons_self ..) _ hstands
    · exact ih (fun part hpart => hp part (List.mem_cons_of_mem _ hpart)) segment hmem

/-- The indices can be read off a filling. -/
theorem Fills.indices_unique {tree : Value} {front pattern parts : List String}
    {indices others : List Nat} (h : Fills tree front pattern indices parts)
    (h' : Fills tree front pattern others parts) : indices = others := by
  induction h generalizing others with
  | done front => cases h'; rfl
  | keep hs _ ih =>
    cases h' with
    | keep _ h' => exact ih h'
    | item => exact absurd rfl hs
  | @item front rest parts items i indices _ _ hrest ih =>
    cases h' with
    | keep hs _ => exact absurd rfl hs
    | @item _ _ _ _ j others _ _ hrest' =>
      have hi := hrest.isPrefix
      have hj := hrest'.isPrefix
      have heq : front ++ [toString i] = front ++ [toString j] :=
        (List.prefix_of_prefix_length_le hi hj (by simp)).eq_of_length (by simp)
      have hij : i = j := toString_injective (by simpa using heq)
      subst hij
      rw [ih hrest']

theorem pairwise_fillings (tree : Value) (front pattern : List String) :
    (fillings tree front pattern).Pairwise fun a b => a.1 < b.1 := by
  induction pattern generalizing front with
  | nil => simp [fillings]
  | cons segment rest ih =>
    rw [fillings]
    split
    · rw [List.pairwise_flatMap]
      constructor
      · intro i _
        rw [List.pairwise_map]
        exact (ih _).imp fun h => by simpa [List.cons_lt_cons_iff] using h
      · refine List.pairwise_lt_range.imp fun hij a ha b hb => ?_
        obtain ⟨x, -, rfl⟩ := List.mem_map.mp ha
        obtain ⟨y, -, rfl⟩ := List.mem_map.mp hb
        simp [List.cons_lt_cons_iff, hij]
    · exact ih _

/-! ## The instances of a declared path -/

theorem Fills.isPlain {tree : Value} {declared : String} (hd : IsDeclarable declared)
    {parts : List String} {indices : List Nat}
    (h : Fills tree [] (segments declared) indices parts) : ∀ s ∈ parts, IsPlain s := by
  obtain ⟨filled, rfl, hfilled⟩ := h.exists_forall₂
  exact forall_mem_of_standsFor hfilled fun part hpart _ hstands =>
    hstands.isPlain (isPlain_of_isDeclarable hd hpart)

theorem instancesFrom_ofSegments (tree : Value) {front pattern : List String}
    (hf : ∀ s ∈ front, IsPlain s) (hp : ∀ s ∈ pattern, IsPlain s) :
    instancesFrom tree (ofSegments front) pattern =
      (fillings tree front pattern).map fun filling => ofSegments filling.2 := by
  induction pattern generalizing front with
  | nil => simp [instancesFrom, fillings]
  | cons segment rest ih =>
    have hrest : ∀ s ∈ rest, IsPlain s := fun s hs => hp s (by simp [hs])
    rw [instancesFrom, fillings]
    split
    · have hitem : ∀ i : Nat, instancesFrom tree (join (ofSegments front) (toString i)) rest =
          (fillings tree (front ++ [toString i]) rest).map fun filling => ofSegments filling.2 := by
        intro i
        have hi := isPlain_toString i
        rw [join_ofSegments hf hi, ih (isPlain_concat hf hi) hrest]
      simp only [hitem, List.map_flatMap, List.map_map]
      rfl
    · have hs := hp segment (by simp)
      rw [join_ofSegments hf hs, ih (isPlain_concat hf hs) hrest]

theorem instances_eq (tree : Value) {declared : String} (hd : IsDeclarable declared) :
    instances tree declared =
      (fillings tree [] (segments declared)).map fun filling => ofSegments filling.2 :=
  @instancesFrom_ofSegments tree [] _ (by simp) fun _ => isPlain_of_isDeclarable hd

theorem mem_instances_iff {tree : Value} {declared path : String} (hd : IsDeclarable declared) :
    path ∈ instances tree declared ↔ ∃ indices, Produces tree declared indices path := by
  rw [instances_eq tree hd, List.mem_map]
  constructor
  · rintro ⟨⟨indices, parts⟩, hmem, rfl⟩
    have hfills := mem_fillings_iff.mp hmem
    exact ⟨indices, by rwa [Produces, segments_ofSegments (hfills.isPlain hd)]⟩
  · rintro ⟨indices, h⟩
    exact ⟨(indices, segments path), mem_fillings_iff.mpr h, ofSegments_segments path⟩

/-- The instances stand in the lexicographic order of their indices. -/
theorem pairwise_instances (tree : Value) {declared : String} (hd : IsDeclarable declared) :
    (instances tree declared).Pairwise fun path other =>
      ∃ indices others, Produces tree declared indices path ∧
        Produces tree declared others other ∧ indices < others := by
  rw [instances_eq tree hd, List.pairwise_map]
  refine (pairwise_fillings tree [] (segments declared)).imp_of_mem fun {a b} ha hb hlt => ?_
  have hfa := mem_fillings_iff.mp ha
  have hfb := mem_fillings_iff.mp hb
  refine ⟨a.1, b.1, ?_, ?_, hlt⟩
  · rwa [Produces, segments_ofSegments (hfa.isPlain hd)]
  · rwa [Produces, segments_ofSegments (hfb.isPlain hd)]

theorem nodup_instances (tree : Value) {declared : String} (hd : IsDeclarable declared) :
    (instances tree declared).Nodup := by
  refine (pairwise_instances tree hd).imp ?_
  rintro path other ⟨indices, others, h, h', hlt⟩ rfl
  rw [h.indices_unique h'] at hlt
  exact List.lt_irrefl others hlt

/-- An instance of a declared path can be declared itself and has no wildcard. -/
theorem Produces.isConcrete {tree : Value} {declared path : String} {indices : List Nat}
    (h : Produces tree declared indices path) : ¬IsPattern path := by
  intro hw
  exact forall_mem_of_standsFor h.forall₂ (fun _ _ _ hstands => hstands.ne_wildcard) wildcard hw rfl

theorem Produces.isDeclarable {tree : Value} {declared path : String} {indices : List Nat}
    (hd : IsDeclarable declared) (h : Produces tree declared indices path) :
    IsDeclarable path := by
  rw [← ofSegments_segments path]
  refine isDeclarable_ofSegments ?_ (Fills.isPlain hd h)
  intro hnil
  have hlength := h.forall₂.length_eq
  rw [hnil] at hlength
  exact hd.1 (segments_eq_nil_iff.mp (List.eq_nil_of_length_eq_zero hlength))

theorem fillings_of_not_mem (tree : Value) (front : List String) {pattern : List String}
    (h : wildcard ∉ pattern) : fillings tree front pattern = [([], front ++ pattern)] := by
  induction pattern generalizing front with
  | nil => simp [fillings]
  | cons segment rest ih =>
    simp only [List.mem_cons, not_or] at h
    rw [fillings, if_neg (Ne.symm h.1), ih _ h.2, List.append_assoc, List.singleton_append]

/-- A concrete path stands for itself. -/
theorem instances_of_not_isPattern (tree : Value) {declared : String} (hd : IsDeclarable declared)
    (h : ¬IsPattern declared) : instances tree declared = [declared] := by
  rw [instances_eq tree hd, fillings_of_not_mem tree [] h]
  simp

/-! ## Instances behind a concrete path -/

theorem foldl_join_segments {path : String} (h : ∀ s ∈ segments path, IsPlain s) :
    (segments path).foldl join "" = path := by
  rw [foldl_join_of_isPlain h, ofSegments_segments]

/-- Segments that are no wildcards are passed over. -/
theorem instancesFrom_append (tree : Value) (front : String) {before : List String}
    (h : wildcard ∉ before) (pattern : List String) :
    instancesFrom tree front (before ++ pattern) =
      instancesFrom tree (before.foldl join front) pattern := by
  induction before generalizing front with
  | nil => rfl
  | cons segment rest ih =>
    obtain ⟨hne, hrest⟩ := not_or.mp (mt List.mem_cons.mpr h)
    rw [List.cons_append, instancesFrom, if_neg (Ne.symm hne), ih _ hrest, List.foldl_cons]

/-- The instances of a path behind a concrete one begin with the concrete one. -/
theorem instances_join_eq (tree : Value) {base : String} (hbase : ∀ s ∈ segments base, IsPlain s)
    (hconcrete : ¬IsPattern base) (path : String) :
    instances tree (join base path) = instancesFrom tree base (segments path) := by
  rw [instances, segments_join, instancesFrom_append tree "" hconcrete, foldl_join_segments hbase]

end Path

end Conform
