import Conform.Proofs.Schema.Findings
import Conform.Proofs.Schema.Throughout
import Conform.Proofs.Schema.Validated

/-!
# Where findings come from

Whatever is found out about a tree goes back to a declaration. The field is an instance of the
declared path, also through blocks and where chains of several declarations meet, and the declared
shape can raise the objection: one of its rules does, or it is a block that finds no object or no
list.
-/

namespace Conform

/-- A shape declares another one at a path, seen from its own field: itself there, or one of those
in its block. -/
inductive Shape.DeclaresAt : Shape → List String → Shape → Prop where
  | self (shape : Shape) : DeclaresAt shape [] shape
  | field {nullable : Bool} {fields : Schema} {e : String × Shape} {parts : List String}
      {inner : Shape} : e ∈ fields.entries → DeclaresAt e.2 parts inner →
      DeclaresAt (.nested nullable fields) (Path.segments e.1 ++ parts) inner
  | item {fields : Schema} {e : String × Shape} {parts : List String} {inner : Shape} :
      e ∈ fields.entries → DeclaresAt e.2 parts inner →
      DeclaresAt (.each fields) (Path.wildcard :: Path.segments e.1 ++ parts) inner

/-- The schema declares the shape at the full path. -/
def Schema.DeclaresAt (schema : Schema) (path : List String) (inner : Shape) : Prop :=
  ∃ e ∈ schema.entries, ∃ parts, e.2.DeclaresAt parts inner ∧ path = Path.segments e.1 ++ parts

/-- The rule has the objection to a field of the tree. It is asked about what the field resolves to
in a part of the tree, or about an absent field where this is `null`. -/
def Rule.ObjectsTo (rule : Rule) (tree : Value) (field : String) (objection : Objection) : Prop :=
  ∃ path inner scope value?, field = Path.join path inner ∧ tree.HasAt path scope ∧
    (value? = scope.resolve? inner ∨ scope.resolve? inner = some .null ∧ value? = none) ∧
    rule.objection? field value? scope = some objection

/-- The shape by itself can raise the objection to a field of the tree. -/
inductive Shape.Raises (tree : Value) (field : String) (objection : Objection) : Shape → Prop where
  | rule {chain : Chain} {rule : Rule} :
      rule ∈ chain.rules → rule.ObjectsTo tree field objection →
      Raises tree field objection (.rules chain)
  | object (nullable : Bool) (fields : Schema) : objection = .ok notAnObject →
      Raises tree field objection (.nested nullable fields)
  | list (fields : Schema) : objection = .ok notAnArray →
      Raises tree field objection (.each fields)

/-! ## Objections -/

/-- In a tree whose items all have an index, a rule is asked about what the full path of the field
resolves to. -/
theorem Rule.ObjectsTo.objection?_resolve? {rule : Rule} {tree : Value} {field : String}
    {objection : Objection} (h : rule.ObjectsTo tree field objection) (htree : tree.IsIndexable) :
    ∃ scope, rule.objection? field (tree.resolve? field) scope = some objection ∨
      tree.resolve? field = some .null ∧ rule.objection? field none scope = some objection := by
  obtain ⟨path, inner, scope, value?, rfl, hscope, hvalue, hobjection⟩ := h
  have hfound : tree.resolve? (Path.join path inner) = scope.resolve? inner := by
    rw [Value.resolve?_join, hscope.resolve? htree, Option.bind_some]
  rw [hfound]
  rcases hvalue with rfl | ⟨hnull, rfl⟩
  · exact ⟨scope, .inl hobjection⟩
  · exact ⟨scope, .inr ⟨hnull, hobjection⟩⟩

/-- What a chain objects to a field in a part of the tree, one of its rules does. -/
theorem Chain.exists_objectsTo_of_mem_objections {chain : Chain} {tree scope : Value}
    {path inner : String} {objection : Objection} (hscope : tree.HasAt path scope)
    (h : objection ∈ chain.objections (Path.join path inner) (scope.resolve? inner) scope) :
    ∃ rule ∈ chain.rules, rule.ObjectsTo tree (Path.join path inner) objection := by
  obtain ⟨rule, hrule, hobjection⟩ := Chain.exists_rule_of_mem_objections h
  exact ⟨rule, hrule, path, inner, scope, _, rfl, hscope, chain.view_eq_or _, hobjection⟩

/-! ## Declared shapes -/

theorem Shape.DeclaresAt.declares {shape inner : Shape} {parts : List String}
    (h : shape.DeclaresAt parts inner) : shape.Declares parts inner.chain?.isSome := by
  induction h with
  | self shape =>
    cases shape with
    | rules chain => exact .chain chain
    | nested nullable fields => exact .object nullable fields
    | each fields => exact .list fields
  | field he _ ih => exact .field he ih
  | item he _ ih => exact .item he ih

theorem Schema.DeclaresAt.declares {schema : Schema} {path : List String} {inner : Shape}
    (h : schema.DeclaresAt path inner) : schema.Declares path inner.chain?.isSome := by
  obtain ⟨e, he, parts, hparts, hpath⟩ := h
  exact ⟨e, he, parts, hparts.declares, hpath⟩

/-- What holds throughout a shape holds of every shape that it declares. -/
theorem Shape.All.of_declaresAt {chains : Chain → Prop} {blocks : Schema → Prop}
    {shape inner : Shape} {parts : List String} (h : shape.All chains blocks)
    (hinner : shape.DeclaresAt parts inner) : inner.All chains blocks := by
  induction hinner with
  | self shape => exact h
  | field he _ ih =>
    cases h with
    | nested _ hshapes => exact ih (hshapes _ he)
  | item he _ ih =>
    cases h with
    | each _ hshapes => exact ih (hshapes _ he)

/-- What holds of all chains of a schema holds of every chain that it declares. -/
theorem Schema.All.of_declaresAt {chains : Chain → Prop} {blocks : Schema → Prop} {schema : Schema}
    {path : List String} {chain : Chain} (h : schema.All chains blocks)
    (hchain : schema.DeclaresAt path (.rules chain)) : chains chain := by
  obtain ⟨e, he, parts, hparts, -⟩ := hchain
  cases (h.shapes e he).of_declaresAt hparts with
  | rules hchains => exact hchains

/-! ## Expansion -/

theorem Shape.TakesPlaceOf.eq_of_block {shape declared : Shape} (h : shape.TakesPlaceOf declared)
    (hblock : shape.chain? = none) : shape = declared := by
  rcases h with rfl | ⟨joined, chain, rfl, rfl⟩
  · rfl
  · cases hblock

/-- A rule of chains that were joined comes from one of them. -/
theorem Shape.exists_mem_of_combined_rules {shapes : List Shape} {joined : Chain} {rule : Rule}
    (h : combined shapes = some (.rules joined)) (hrule : rule ∈ joined.rules) :
    ∃ chain, .rules chain ∈ shapes ∧ rule ∈ chain.rules := by
  cases shapes with
  | nil => cases h
  | cons shape rest =>
    cases shape with
    | rules first =>
      cases h
      obtain ⟨chain, hchain, hmem⟩ := List.mem_flatMap.mp hrule
      rcases List.mem_cons.mp hchain with rfl | hchain
      · exact ⟨chain, List.mem_cons_self .., hmem⟩
      · obtain ⟨shape, hshape, hsome⟩ := List.mem_filterMap.mp hchain
        cases shape with
        | rules other =>
          cases hsome
          exact ⟨chain, List.mem_cons_of_mem _ hshape, hmem⟩
        | nested | each => cases hsome
    | nested nullable fields => cases h
    | each fields => cases h

/-- What an expanded shape declares and can object comes from a declaration that produces its
path. -/
theorem Schema.exists_declaresAt_of_mem_expand {schema : Schema} (hd : schema.HasDeclarableKeys)
    {tree : Value} {e : String × Shape} (he : e ∈ (schema.expand tree).entries)
    {parts : List String} {inner : Shape} (hinner : e.2.DeclaresAt parts inner) {root : Value}
    {field : String} {objection : Objection} (hraises : inner.Raises root field objection) :
    ∃ declared ∈ schema.entries, Path.IsInstance tree declared.1 e.1 ∧
      ∃ origin, declared.2.DeclaresAt parts origin ∧ origin.Raises root field objection := by
  obtain ⟨path, shape⟩ := e
  cases shape with
  | rules joined =>
    -- a joined chain is none of the declared ones, but each of its rules is from one of them
    cases hinner
    cases hraises with
    | rule hrule hobjection =>
      obtain ⟨chain, hchain, hmem⟩ :=
        Shape.exists_mem_of_combined_rules (combined_producers hd he) hrule
      obtain ⟨declared, hdeclared, hinstance, hshape⟩ := exists_entry_of_mem_producers hchain
      exact ⟨declared, hdeclared, hinstance, .rules chain, hshape ▸ .self _, .rule hmem hobjection⟩
  | nested nullable fields =>
    obtain ⟨declared, hdeclared, hinstance, hplace⟩ := exists_producer hd he
    exact ⟨declared, hdeclared, hinstance, inner, hplace.eq_of_block rfl ▸ hinner, hraises⟩
  | each fields =>
    obtain ⟨declared, hdeclared, hinstance, hplace⟩ := exists_producer hd he
    exact ⟨declared, hdeclared, hinstance, inner, hplace.eq_of_block rfl ▸ hinner, hraises⟩

/-! ## Findings -/

-- The induction is that of the findings; `root` is the whole tree and `tree` the part at `path`.
mutual

/-- What is found out about a declared field concerns the field itself or, behind its path, an
instance of a path at which the shape declares what raises it. -/
theorem Shape.exists_declaresAt_of_mem_findings {root : Value} {finding : String × Objection}
    {path : String} {tree : Value} (hat : root.HasAt path tree) (field : String) :
    (shape : Shape) → shape.IsDeclarable → finding ∈ shape.findings path tree field →
      ∃ parts filled inner, shape.DeclaresAt parts inner ∧
        List.Forall₂ Path.StandsFor parts filled ∧
        Path.segments finding.1 = Path.segments (Path.join path field) ++ filled ∧
        inner.Raises root finding.1 finding.2
  | .rules chain, _, h => by
    rw [Shape.findings, Log.objectionsTo] at h
    obtain ⟨objection, hobjection, rfl⟩ := List.mem_map.mp h
    obtain ⟨rule, hrule, hraised⟩ := Chain.exists_objectsTo_of_mem_objections hat hobjection
    exact ⟨[], [], .rules chain, .self _, .nil, by simp, .rule hrule hraised⟩
  | .nested nullable fields, .nested hkeys hshapes, h => by
    have hself : finding = (Path.join path field, .ok notAnObject) →
        ∃ parts filled inner, (Shape.nested nullable fields).DeclaresAt parts inner ∧
          List.Forall₂ Path.StandsFor parts filled ∧
          Path.segments finding.1 = Path.segments (Path.join path field) ++ filled ∧
          inner.Raises root finding.1 finding.2 := by
      rintro rfl
      exact ⟨[], [], .nested nullable fields, .self _, .nil, by simp, .object nullable fields rfl⟩
    rw [Shape.findings] at h
    split at h
    · next hfound =>
      obtain ⟨declared, filled, inner, ⟨e, he, parts, hparts, rfl⟩, hfilled, hsegments, hraises⟩ :=
        Schema.exists_declaresAt_of_mem_findings (hat.field hfound) fields ⟨hkeys, hshapes⟩ h
      exact ⟨_, filled, inner, .field he hparts, hfilled, hsegments, hraises⟩
    all_goals
      apply hself
      cases nullable <;> simp_all
  | .each fields, .each hkeys hshapes, h => by
    rw [Shape.findings] at h
    split at h
    · next hfound =>
      obtain ⟨⟨item, i⟩, hitem, h⟩ := List.mem_flatMap.mp h
      have hitem := (hat.field hfound).item (List.mem_zipIdx_iff_getElem?.mp hitem)
      obtain ⟨declared, filled, inner, ⟨e, he, parts, hparts, rfl⟩, hfilled, hsegments, hraises⟩ :=
        Schema.exists_declaresAt_of_mem_findings hitem fields ⟨hkeys, hshapes⟩ h
      refine ⟨_, toString i :: filled, inner, .item he hparts,
        .cons (.inr ⟨rfl, i, rfl⟩) hfilled, ?_, hraises⟩
      rw [hsegments, Path.segments_join _ (toString i),
        Path.segments_of_isPlain (Path.isPlain_toString i), List.append_assoc,
        List.singleton_append]
    · rw [List.mem_singleton.mp h]
      exact ⟨[], [], .each fields, .self _, .nil, by simp, .list fields rfl⟩
termination_by shape => (shape.depth, 0)

theorem Schema.exists_declaresAt_of_mem_findings {root : Value} {finding : String × Objection}
    {path : String} {tree : Value} (hat : root.HasAt path tree) (schema : Schema)
    (hd : schema.IsDeclarable) (h : finding ∈ schema.findings path tree) :
    ∃ declared filled inner, schema.DeclaresAt declared inner ∧
      List.Forall₂ Path.StandsFor declared filled ∧
      Path.segments finding.1 = Path.segments path ++ filled ∧
      inner.Raises root finding.1 finding.2 := by
  rw [Schema.findings_eq] at h
  obtain ⟨expanded, hexpanded, h⟩ := List.mem_flatMap.mp h
  obtain ⟨producer, hproducer, -, hplace⟩ := Schema.exists_producer hd.keys hexpanded
  have hshape := hplace.isDeclarable (hd.shapes producer hproducer)
  obtain ⟨parts, filled, inner, hinner, hfilled, hsegments, hraises⟩ :=
    Shape.exists_declaresAt_of_mem_findings hat expanded.1 expanded.2 hshape h
  obtain ⟨declared, hdeclared, ⟨indices, hproduces⟩, origin, horigin, hraises⟩ :=
    Schema.exists_declaresAt_of_mem_expand hd.keys hexpanded hinner hraises
  refine ⟨_, Path.segments expanded.1 ++ filled, origin, ⟨declared, hdeclared, parts, horigin, rfl⟩,
    List.rel_append hproduces.forall₂ hfilled, ?_, hraises⟩
  rw [hsegments, Path.segments_join, List.append_assoc]
termination_by (Schema.depth schema, 1)
decreasing_by exact Schema.depth_lex_of_mem_expand hexpanded

end

/-- A finding about a whole tree goes back to a declaration of whose path its field is an
instance. -/
theorem Schema.exists_origin_of_mem_findings {schema : Schema} (hd : schema.IsDeclarable)
    {tree : Value} {field : String} {objection : Objection}
    (h : (field, objection) ∈ schema.findings "" tree) :
    ∃ declared inner, schema.DeclaresAt declared inner ∧
      List.Forall₂ Path.StandsFor declared (Path.segments field) ∧
      inner.Raises tree field objection := by
  obtain ⟨declared, filled, inner, hdeclared, hfilled, hsegments, hraises⟩ :=
    exists_declaresAt_of_mem_findings .whole schema hd h
  rw [Path.segments_empty, List.nil_append] at hsegments
  exact ⟨declared, inner, hdeclared, hsegments ▸ hfilled, hraises⟩

end Conform
