import Conform.Proofs.Schema.Checks
import Conform.Proofs.Schema.Coverage
import Conform.Proofs.Schema.Expansion

/-!
# Validated data is known

The collector finds a value by resolving the path of a check; strict mode looks for a declaration
that agrees with the path of a leaf. The path of a check is an instance of a declared path, so both
mean the same leaves as long as indices are spelled as strict mode spells them.
-/

namespace Conform

/-- All paths in the blocks of a shape may be declared. -/
inductive Shape.IsDeclarable : Shape → Prop where
  | rules (chain : Chain) : IsDeclarable (.rules chain)
  | nested {nullable : Bool} {fields : Schema} : fields.HasDeclarableKeys →
      (∀ e ∈ fields.entries, IsDeclarable e.2) → IsDeclarable (.nested nullable fields)
  | each {fields : Schema} : fields.HasDeclarableKeys →
      (∀ e ∈ fields.entries, IsDeclarable e.2) → IsDeclarable (.each fields)

/-- All paths of a schema and of its blocks may be declared. -/
structure Schema.IsDeclarable (schema : Schema) : Prop where
  keys : schema.HasDeclarableKeys
  shapes : ∀ e ∈ schema.entries, e.2.IsDeclarable

namespace Schema

/-- A chain is run on the value at a path, and a leaf is that value or lies inside it: the steps
`front` lead to the value and the steps `back` go on to the leaf. -/
structure ValidatesLeaf (schema : Schema) (tree : Value) (path : String)
    (front back : List String) : Prop where
  checked : ∃ check ∈ schema.checks tree, check.field = path ∧
    ∃ chain, check.demand = .rules chain
  reached : ∃ value leaf, tree.Follows (Path.segments path) front value ∧
    value.Reaches back leaf ∧ leaf.IsBare

/-- Validated data is never called unknown: no leaf of a value that a chain is run on is
reported. -/
def SparesValidated (schema : Schema) (tree : Value) : Prop :=
  ∀ path front back, schema.ValidatesLeaf tree path front back →
    (front ++ back).foldl Path.join "" ∉ (schema.undeclared tree).fields.keys

end Schema

/-! ## Instances agree with their patterns -/

/-- What agrees with an instance of a pattern agrees with the pattern. -/
theorem Path.agree_of_standsFor {pattern filled : List String}
    (h : List.Forall₂ StandsFor pattern filled) {parts steps : List String}
    (ha : agree (filled ++ parts) steps = true) : agree (pattern ++ parts) steps = true := by
  induction h generalizing steps with
  | nil => exact ha
  | @cons p s pattern filled hstands _ ih =>
    cases steps with
    | nil => simp
    | cons step rest =>
      simp only [List.cons_append, agree_cons, Bool.and_eq_true, decide_eq_true_eq] at ha ⊢
      refine ⟨?_, ih ha.2⟩
      rcases hstands with ⟨-, rfl⟩ | ⟨hwild, -⟩
      · exact ha.1
      · exact .inl hwild

/-- An instance of a declared path is covered, and with a chain all that lies below it. -/
theorem Schema.Declares.covers {schema : Schema} {declared filled inner : List String} {owns : Bool}
    (h : schema.Declares declared owns) (hstands : List.Forall₂ Path.StandsFor declared filled)
    (hinner : inner = [] ∨ owns = true) : schema.Covers (filled ++ inner) := by
  refine covers_iff.mpr ⟨declared, owns, h, ?_, hinner.imp_left fun hnil => ?_⟩
  · have hagree := Path.agree_append_left filled [] inner
    rw [Path.agree_nil_left] at hagree
    simpa using Path.agree_of_standsFor hstands hagree
  · rw [hnil, List.append_nil]
    exact Nat.le_of_eq hstands.length_eq.symm

/-! ## Checks come from declarations -/

theorem Shape.TakesPlaceOf.declares {shape declared : Shape} (h : shape.TakesPlaceOf declared)
    {parts : List String} {owns : Bool} (hparts : shape.Declares parts owns) :
    declared.Declares parts owns := by
  rcases h with rfl | ⟨joined, chain, rfl, rfl⟩
  · exact hparts
  · cases hparts
    exact .chain chain

theorem Shape.TakesPlaceOf.isDeclarable {shape declared : Shape} (h : shape.TakesPlaceOf declared)
    (hd : declared.IsDeclarable) : shape.IsDeclarable := by
  rcases h with rfl | ⟨joined, chain, rfl, rfl⟩
  · exact hd
  · exact .rules joined

mutual

/-- The path of a chain check is that of the shape, followed by an instance of a path at which the
shape declares a chain. -/
theorem Shape.exists_declares_of_mem_checks {root : Value} {check : Check} {chain : Chain}
    (hdemand : check.demand = .rules chain) (scope : Value) (path : String) :
    (shape : Shape) → shape.IsDeclarable → check ∈ shape.checks root scope path →
      ∃ parts filled, shape.Declares parts true ∧ List.Forall₂ Path.StandsFor parts filled ∧
        Path.segments check.field = Path.segments path ++ filled
  | .rules declared, _, h => by
    rw [Shape.checks, List.mem_singleton] at h
    subst h
    exact ⟨[], [], .chain declared, .nil, by simp⟩
  | .nested nullable fields, .nested hkeys hshapes, h => by
    rw [Shape.checks, List.mem_cons] at h
    rcases h with rfl | h
    · simp at hdemand
    split at h
    · obtain ⟨e, he, parts, filled, hparts, hfilled, hfield⟩ :=
        Schema.exists_declares_of_mem_checksIn hdemand _ path fields ⟨hkeys, hshapes⟩ h
      exact ⟨_, filled, .field he hparts, hfilled, hfield⟩
    · simp at h
  | .each fields, .each hkeys hshapes, h => by
    rw [Shape.checks, List.mem_cons] at h
    rcases h with rfl | h
    · simp at hdemand
    split at h
    · obtain ⟨⟨item, i⟩, -, h⟩ := List.mem_flatMap.mp h
      obtain ⟨e, he, parts, filled, hparts, hfilled, hfield⟩ :=
        Schema.exists_declares_of_mem_checksIn hdemand item _ fields ⟨hkeys, hshapes⟩ h
      refine ⟨_, toString i :: filled, .item he hparts, .cons (.inr ⟨rfl, i, rfl⟩) hfilled, ?_⟩
      rw [hfield, Path.segments_join, Path.segments_of_isPlain (Path.isPlain_toString i),
        List.append_assoc, List.singleton_append]
    · simp at h
termination_by shape => (shape.depth, 0)

theorem Schema.exists_declares_of_mem_checksIn {root : Value} {check : Check} {chain : Chain}
    (hdemand : check.demand = .rules chain) (scope : Value) (path : String) (schema : Schema)
    (hd : schema.IsDeclarable) (h : check ∈ schema.checksIn root path scope) :
    ∃ e ∈ schema.entries, ∃ parts filled, e.2.Declares parts true ∧
      List.Forall₂ Path.StandsFor (Path.segments e.1 ++ parts) filled ∧
      Path.segments check.field = Path.segments path ++ filled := by
  rw [Schema.checksIn_eq] at h
  obtain ⟨expanded, hexpanded, h⟩ := List.mem_flatMap.mp h
  obtain ⟨declared, hdeclared, ⟨indices, hproduces⟩, hplace⟩ :=
    Schema.exists_producer hd.keys hexpanded
  have hshape := hplace.isDeclarable (hd.shapes declared hdeclared)
  -- the path is an instance of the declared one, and the shape declares no more than the first
  -- declaration that produces the path
  obtain ⟨parts, filled, hparts, hfilled, hfield⟩ :=
    Shape.exists_declares_of_mem_checks hdemand scope _ expanded.2 hshape h
  refine ⟨declared, hdeclared, parts, Path.segments expanded.1 ++ filled, hplace.declares hparts,
    List.rel_append hproduces.forall₂ hfilled, ?_⟩
  rw [hfield, Path.segments_join, List.append_assoc]
termination_by (Schema.depth schema, 1)
decreasing_by exact Schema.depth_lex_of_mem_expand hexpanded

end

/-! ## Declared paths are plain -/

theorem Shape.Declares.isPlain {shape : Shape} {parts : List String} {owns : Bool}
    (h : shape.Declares parts owns) (hd : shape.IsDeclarable) : ∀ s ∈ parts, Path.IsPlain s := by
  induction h with
  | chain => simp
  | object => simp
  | list => simp
  | @field nullable fields e parts owns he _ ih =>
    cases hd with
    | nested hkeys hshapes =>
      intro s hs
      rcases List.mem_append.mp hs with hs | hs
      · exact Path.isPlain_of_isDeclarable (hkeys e.1 (List.mem_map_of_mem he)) hs
      · exact ih (hshapes e he) s hs
  | @item fields e parts owns he _ ih =>
    cases hd with
    | each hkeys hshapes =>
      intro s hs
      rw [List.cons_append, List.mem_cons, List.mem_append] at hs
      rcases hs with rfl | hs | hs
      · decide
      · exact Path.isPlain_of_isDeclarable (hkeys e.1 (List.mem_map_of_mem he)) hs
      · exact ih (hshapes e he) s hs

namespace Schema

variable {schema : Schema} {tree : Value} {path : String} {front back : List String}

theorem Declares.isPlain {declared : List String} {owns : Bool} (h : schema.Declares declared owns)
    (hd : schema.IsDeclarable) : ∀ s ∈ declared, Path.IsPlain s := by
  obtain ⟨e, he, parts, hparts, rfl⟩ := h
  intro s hs
  rcases List.mem_append.mp hs with hs | hs
  · exact Path.isPlain_of_isDeclarable (hd.keys e.1 (List.mem_map_of_mem he)) hs
  · exact hparts.isPlain (hd.shapes e he) s hs

theorem Declares.ne_nil {declared : List String} {owns : Bool} (h : schema.Declares declared owns)
    (hd : schema.IsDeclarable) : declared ≠ [] := by
  obtain ⟨e, he, parts, -, rfl⟩ := h
  intro hnil
  have hkey := hd.keys e.1 (List.mem_map_of_mem he)
  exact hkey.1 (Path.segments_eq_nil_iff.mp (List.append_eq_nil_iff.mp hnil).1)

/-- The path of a chain check is an instance of a declared path, which is plain. -/
theorem ValidatesLeaf.exists_declares (h : schema.ValidatesLeaf tree path front back)
    (hd : schema.IsDeclarable) :
    ∃ declared, schema.Declares declared true ∧ declared ≠ [] ∧ (∀ s ∈ declared, Path.IsPlain s) ∧
      List.Forall₂ Path.StandsFor declared (Path.segments path) := by
  obtain ⟨check, hcheck, rfl, chain, hdemand⟩ := h.checked
  obtain ⟨e, he, parts, filled, hparts, hfilled, hfield⟩ :=
    exists_declares_of_mem_checksIn hdemand tree "" schema hd hcheck
  have hdeclares : schema.Declares (Path.segments e.1 ++ parts) true := ⟨e, he, parts, hparts, rfl⟩
  rw [Path.segments_empty, List.nil_append] at hfield
  exact ⟨_, hdeclares, hdeclares.ne_nil hd, hdeclares.isPlain hd, hfield ▸ hfilled⟩

theorem ValidatesLeaf.isPlain (h : schema.ValidatesLeaf tree path front back)
    (hd : schema.IsDeclarable) : ∀ s ∈ Path.segments path, Path.IsPlain s := by
  obtain ⟨declared, -, -, hplain, hstands⟩ := h.exists_declares hd
  exact Path.forall_mem_of_standsFor hstands fun part hpart _ hs => hs.isPlain (hplain part hpart)

theorem ValidatesLeaf.isLeafAt (h : schema.ValidatesLeaf tree path front back)
    (hd : schema.IsDeclarable) : tree.IsLeafAt (front ++ back) := by
  obtain ⟨declared, -, hne, -, hstands⟩ := h.exists_declares hd
  obtain ⟨value, leaf, hvalue, hleaf, hbare⟩ := h.reached
  refine ⟨?_, leaf, hvalue.reaches.trans hleaf, hbare⟩
  intro hnil
  have hlength := hstands.length_eq
  rw [← hvalue.length_eq, (List.append_eq_nil_iff.mp hnil).1] at hlength
  exact hne (List.eq_nil_of_length_eq_zero hlength)

/-- All that lies below the path of a chain check is covered. -/
theorem ValidatesLeaf.covers (h : schema.ValidatesLeaf tree path front back)
    (hd : schema.IsDeclarable) (inner : List String) :
    schema.Covers (Path.segments path ++ inner) := by
  obtain ⟨declared, hdeclares, -, -, hstands⟩ := h.exists_declares hd
  exact hdeclares.covers hstands (.inr rfl)

/-- The path of a check may spell an index with zeros in front, where strict mode does not. There it
is left to other declarations to cover the leaves; all other validated leaves are spared. -/
theorem sparesValidated_iff (schema : Schema) (tree : Value) (h : schema.IsDeclarable) :
    schema.SparesValidated tree ↔
      ∀ path front back, schema.ValidatesLeaf tree path front back →
        front ≠ Path.segments path → schema.Covers ((front ++ back).flatMap Path.segments) := by
  constructor
  · intro hspares path front back hleaf _
    by_contra hcovers
    exact hspares path front back hleaf
      ((mem_keys_undeclared_iff_of_isLeafAt (hleaf.isLeafAt h)).mpr hcovers)
  · intro hothers path front back hleaf hmem
    refine (mem_keys_undeclared_iff_of_isLeafAt (hleaf.isLeafAt h)).mp hmem ?_
    by_cases hspelled : front = Path.segments path
    · rw [hspelled, List.flatMap_append, Path.flatMap_segments_of_isPlain (hleaf.isPlain h)]
      exact hleaf.covers h _
    · exact hothers path front back hleaf hspelled

theorem checks_of_expand_eq {schema : Schema} {tree : Value} {path : String} {chain : Chain}
    (h : (schema.expand tree).entries = [(path, .rules chain)]) :
    schema.checks tree = [⟨path, tree, .rules chain⟩] := by
  simp [checks, checksIn_eq, h, Shape.checks]

theorem sparesValidated_of_wildcard :
    IsDeclarable ⟨[("rows.*", .rules { rules := [.integer] })]⟩ ∧
      SparesValidated ⟨[("rows.*", .rules { rules := [.integer] })]⟩
        (.obj [("rows", .arr [.num (.int 1)])]) := by
  have hd : IsDeclarable ⟨[("rows.*", .rules { rules := [.integer] })]⟩ :=
    ⟨by decide, by simpa using .rules _⟩
  refine ⟨hd, (sparesValidated_iff _ _ hd).mpr ?_⟩
  intro path front back hleaf hspelled
  obtain ⟨check, hcheck, rfl, -⟩ := hleaf.checked
  obtain ⟨value, leaf, hvalue, -⟩ := hleaf.reached
  rw [@checks_of_expand_eq _ _ "rows.0" _ rfl, List.mem_singleton] at hcheck
  subst hcheck
  have hsegments : Path.segments "rows.0" = ["rows", "0"] := by decide
  have hindex : Path.index? "0" = some 0 := by decide
  simp only [hsegments] at hvalue hspelled
  cases hvalue with
  | field hrows hitem =>
    obtain rfl := Option.some.inj hrows
    cases hitem with
    | item hi _ hend =>
      cases hend
      obtain rfl := Option.some.inj (hindex.symm.trans hi)
      exact absurd rfl hspelled

/-- A declared index with a zero in front is found by the collector and not by strict mode. -/
theorem not_sparesValidated_of_leading_zero :
    ¬SparesValidated ⟨[("rows.00", .rules { rules := [.integer] })]⟩
      (.obj [("rows", .arr [.num (.int 1)])]) := by
  intro h
  have hsegments : Path.segments "rows.00" = ["rows", "00"] := by decide
  have hfollows : Value.Follows (.obj [("rows", .arr [.num (.int 1)])]) (Path.segments "rows.00")
      ["rows", toString 0] (.num (.int 1)) := by
    rw [hsegments]
    exact .field rfl (.item (by decide) rfl (.here _))
  have hleaf : ValidatesLeaf ⟨[("rows.00", .rules { rules := [.integer] })]⟩
      (.obj [("rows", .arr [.num (.int 1)])]) "rows.00" ["rows", toString 0] [] := by
    refine ⟨?_, _, _, hfollows, .here _, trivial⟩
    rw [@checks_of_expand_eq _ _ "rows.00" _ rfl]
    exact ⟨_, List.mem_singleton_self _, rfl, _, rfl⟩
  refine h _ _ _ hleaf ((mem_keys_undeclared_iff_of_isLeafAt ?_).mpr ?_)
  · exact ⟨by simp, _, hfollows.reaches, trivial⟩
  · rw [covers_singleton_iff]
    decide

end Schema

end Conform
