import Conform.Proofs.Path.Growth
import Conform.Proofs.Path.Spelling
import Conform.Proofs.Schema.Independence
import Conform.Proofs.Schema.Validated
import Mathlib

/-!
# Undeclared data has no influence

A tree may grow by a leaf that strict mode would call unknown. No chain is run on a value in which
the leaf lies, because the chain would own it, and no block and no pattern stands on the leaf
itself. So the collector finds in the larger tree what it finds in the smaller one.
-/

namespace Conform

/-! ## Coverage and expansion -/

theorem Schema.declares_singleton_iff {field : String} {shape : Shape} {path : List String}
    {owns : Bool} : Schema.Declares ⟨[(field, shape)]⟩ path owns ↔
      ∃ parts, shape.Declares parts owns ∧ path = Path.segments field ++ parts := by
  simp [Schema.Declares]

theorem Shape.exists_declares_nil (shape : Shape) : ∃ owns, shape.Declares [] owns := by
  cases shape with
  | rules chain => exact ⟨true, .chain chain⟩
  | nested nullable fields => exact ⟨false, .object nullable fields⟩
  | each fields => exact ⟨false, .list fields⟩

namespace Schema

/-- No declared index has a zero in front. -/
def HasPlainIndices (schema : Schema) : Prop :=
  ∀ path owns, schema.Declares path owns → ∀ s ∈ path, ¬Path.HasLeadingZero s

/-- The listed declarations decide whether declared indices are spelled plainly. -/
theorem hasPlainIndices_iff {schema : Schema} : schema.HasPlainIndices ↔
    ∀ d ∈ schema.declared, ∀ s ∈ d.segments, ¬Path.HasLeadingZero s := by
  constructor
  · exact fun h d hd => h d.segments d.ownsSubtree (mem_declared_iff.mp hd)
  · exact fun h path owns hpath => h ⟨path, owns⟩ (mem_declared_iff.mpr hpath)

/-- What makes a schema overlook a value that is added at the steps: rules do not look at the tree,
declared indices are spelled plainly, and no declaration covers the steps read as a path. -/
structure Overlooks (schema : Schema) (steps : List String) : Prop where
  declarable : schema.IsDeclarable
  ignoresTree : schema.IgnoresTree
  plain : ∀ path owns, schema.Declares path owns → ∀ s ∈ path, Path.IsSpelledPlainly s
  uncovered : ¬schema.Covers (steps.flatMap Path.segments)

variable {schema : Schema} {steps : List String}

theorem exists_declares_of_expand (hd : schema.IsDeclarable) {tree : Value} {path : List String}
    {owns : Bool} (h : (schema.expand tree).Declares path owns) :
    ∃ pattern filled parts, schema.Declares (pattern ++ parts) owns ∧
      List.Forall₂ Path.StandsFor pattern filled ∧ path = filled ++ parts := by
  obtain ⟨e, he, parts, hparts, rfl⟩ := h
  obtain ⟨declared, hdeclared, ⟨indices, hproduces⟩, hplace⟩ := exists_producer hd.keys he
  exact ⟨_, _, parts, ⟨declared, hdeclared, parts, hplace.declares hparts, rfl⟩,
    hproduces.forall₂, rfl⟩

theorem IsDeclarable.expand (hd : schema.IsDeclarable) (tree : Value) :
    (schema.expand tree).IsDeclarable where
  keys := hasDeclarableKeys_expand hd.keys tree
  shapes := by
    intro e he
    obtain ⟨declared, hdeclared, -, hplace⟩ := exists_producer hd.keys he
    exact hplace.isDeclarable (hd.shapes declared hdeclared)

theorem Overlooks.expand (h : schema.Overlooks steps) (tree : Value) :
    (schema.expand tree).Overlooks steps where
  declarable := h.declarable.expand tree
  ignoresTree := h.ignoresTree.expand tree
  plain := by
    intro path owns hpath
    obtain ⟨pattern, filled, parts, hdeclares, hfilled, rfl⟩ :=
      exists_declares_of_expand h.declarable hpath
    have hplain := h.plain _ _ hdeclares
    intro s hs
    rcases List.mem_append.mp hs with hs | hs
    · exact Path.forall_mem_of_standsFor hfilled (fun part hpart _ hstands =>
        hstands.isSpelledPlainly (hplain part (List.mem_append_left _ hpart))) s hs
    · exact hplain s (List.mem_append_right _ hs)
  uncovered := by
    intro hcovers
    obtain ⟨path, owns, hpath, hagree, hlength⟩ := covers_iff.mp hcovers
    obtain ⟨pattern, filled, parts, hdeclares, hfilled, rfl⟩ :=
      exists_declares_of_expand h.declarable hpath
    refine h.uncovered (covers_iff.mpr ⟨_, owns, hdeclares,
      Path.agree_of_standsFor hfilled hagree, ?_⟩)
    rwa [List.length_append, hfilled.length_eq, ← List.length_append]

theorem Overlooks.entry (h : schema.Overlooks steps) {e : String × Shape}
    (he : e ∈ schema.entries) : Overlooks ⟨[e]⟩ steps := by
  have hdeclares : ∀ path owns, Declares ⟨[e]⟩ path owns → schema.Declares path owns := by
    rintro path owns ⟨x, hx, hpath⟩
    obtain rfl := List.mem_singleton.mp hx
    exact ⟨x, he, hpath⟩
  have hkey := h.declarable.keys e.1 (List.mem_map_of_mem he)
  exact {
    declarable := ⟨by simpa [HasDeclarableKeys, OrderedMap.keys] using hkey,
      by simpa using h.declarable.shapes e he⟩
    ignoresTree := by simpa [IgnoresTree] using h.ignoresTree e he
    plain := fun path owns hpath => h.plain path owns (hdeclares path owns hpath)
    uncovered := by
      rintro ⟨path, owns, hpath, hcovers⟩
      exact h.uncovered ⟨path, owns, hdeclares path owns hpath, hcovers⟩ }

/-! ## One declared field -/

variable {field : String} {shape : Shape}

/-- The schema of a block overlooks what is added behind the path of the block. -/
theorem Overlooks.inner (h : Overlooks ⟨[(field, shape)]⟩ steps) {fields : Schema}
    {pattern filled rest : List String} (hfilled : List.Forall₂ Path.StandsFor pattern filled)
    (hinner : ∀ path owns, fields.Declares path owns → shape.Declares (pattern ++ path) owns)
    (hsteps : steps.flatMap Path.segments =
      Path.segments field ++ (filled ++ rest.flatMap Path.segments))
    (hd : fields.IsDeclarable) (hrules : fields.IgnoresTree) : fields.Overlooks rest where
  declarable := hd
  ignoresTree := hrules
  plain := by
    intro path owns hpath s hs
    refine h.plain _ owns (declares_singleton_iff.mpr ⟨_, hinner path owns hpath, rfl⟩) s ?_
    exact List.mem_append_right _ (List.mem_append_right _ hs)
  uncovered := by
    intro hcovers
    obtain ⟨path, owns, hpath, hagree, hlength⟩ := covers_iff.mp hcovers
    refine h.uncovered (covers_iff.mpr ⟨_, owns,
      declares_singleton_iff.mpr ⟨_, hinner path owns hpath, rfl⟩, ?_, ?_⟩)
    · rw [hsteps, Path.agree_append_left]
      exact Path.agree_of_standsFor hfilled (by rwa [Path.agree_append_left])
    · have hequal := hfilled.length_eq
      refine hlength.imp_left fun hle => ?_
      simp only [hsteps, List.length_append]
      omega

/-- Steps into a block lead to nothing that its fields cover. -/
theorem Overlooks.nested {nullable : Bool} {fields : Schema}
    (h : Overlooks ⟨[(field, .nested nullable fields)]⟩ steps) {rest : List String}
    (hsteps : steps.flatMap Path.segments = Path.segments field ++ rest.flatMap Path.segments) :
    Overlooks fields rest := by
  cases h.declarable.shapes _ (List.mem_singleton_self _) with
  | nested hkeys hshapes =>
    cases h.ignoresTree _ (List.mem_singleton_self _) with
    | nested hrules =>
      refine h.inner .nil ?_ hsteps ⟨hkeys, hshapes⟩ hrules
      rintro _ owns ⟨e, he, parts, hparts, rfl⟩
      exact .field he hparts

/-- The same of steps into an item of a list block. -/
theorem Overlooks.each {fields : Schema} (h : Overlooks ⟨[(field, .each fields)]⟩ steps) (i : Nat)
    {rest : List String} (hsteps : steps.flatMap Path.segments =
      Path.segments field ++ (toString i :: rest).flatMap Path.segments) :
    Overlooks fields rest := by
  cases h.declarable.shapes _ (List.mem_singleton_self _) with
  | each hkeys hshapes =>
    cases h.ignoresTree _ (List.mem_singleton_self _) with
    | each hrules =>
      refine h.inner (.cons (.inr ⟨rfl, i, rfl⟩) .nil) ?_ ?_ ⟨hkeys, hshapes⟩ hrules
      · rintro _ owns ⟨e, he, parts, hparts, rfl⟩
        exact .item he hparts
      · rw [hsteps, List.flatMap_cons, Path.segments_of_isPlain (Path.isPlain_toString i)]

/-- The declared field does not stand on the added value itself, so its value is the same in both
trees or has grown. -/
theorem Overlooks.resolve? (h : Overlooks ⟨[(field, shape)]⟩ steps) {tree tree' added : Value}
    (hbare : added.IsBare) (hgrows : Value.Grows added steps tree tree') :
    tree.resolve? field = tree'.resolve? field ∨
      ∃ rest node node', tree.resolve? field = some node ∧ tree'.resolve? field = some node' ∧
        Value.Grows added rest node node' ∧
        steps.flatMap Path.segments = Path.segments field ++ rest.flatMap Path.segments := by
  obtain ⟨owns, hself⟩ := shape.exists_declares_nil
  have hdeclares : Declares ⟨[(field, shape)]⟩ (Path.segments field) owns :=
    declares_singleton_iff.mpr ⟨[], hself, by simp⟩
  rcases hgrows.resolve? hbare field with heq | ⟨front, rest, node', rfl, hfollows, hnew, hdiffers⟩
  · exact .inl heq
  · obtain rfl := hfollows.eq_of_isSpelledPlainly (h.plain _ owns hdeclares)
    have hkey : Path.IsDeclarable field := h.declarable.keys field (by simp [OrderedMap.keys])
    have hsteps : (Path.segments field ++ rest).flatMap Path.segments =
        Path.segments field ++ rest.flatMap Path.segments := by
      rw [List.flatMap_append,
        Path.flatMap_segments_of_isPlain fun _ => Path.isPlain_of_isDeclarable hkey]
    generalize hold : tree.resolve? field = node? at hdiffers
    cases hdiffers with
    | added =>
      have hflat : (Path.segments field ++ []).flatMap Path.segments = Path.segments field := by
        simpa using hsteps
      refine absurd (covers_iff.mpr ⟨_, owns, hdeclares, ?_, .inl ?_⟩) h.uncovered
      · rw [hflat, Path.agree_self]
      · exact Nat.le_of_eq (congrArg List.length hflat)
    | grown hgrows => exact .inr ⟨rest, _, node', rfl, hnew, hgrows, hsteps⟩

/-- A chain owns what lies in its value, so nothing has been added there. -/
theorem Overlooks.resolve?_rules {chain : Chain} (h : Overlooks ⟨[(field, .rules chain)]⟩ steps)
    {tree tree' added : Value} (hbare : added.IsBare)
    (hgrows : Value.Grows added steps tree tree') : tree.resolve? field = tree'.resolve? field := by
  rcases h.resolve? hbare hgrows with heq | ⟨rest, node, node', -, -, -, hsteps⟩
  · exact heq
  · refine absurd (covers_iff.mpr ⟨_, true, declares_singleton_iff.mpr ⟨[], .chain chain, rfl⟩,
      ?_, .inr rfl⟩) h.uncovered
    rw [hsteps, Path.agree_append_left, Path.agree_nil_left]

end Schema

/-! ## The collector -/

section

variable {added : Value}

-- The induction is that of the findings. The steps are general: inside a block they are the rest of
-- the steps, and the fields of the block overlook those as the schema does the whole.
mutual

theorem Shape.findings_eq_of_grows (hbare : added.IsBare) (path : String) {tree tree' : Value}
    {steps : List String} (hgrows : Value.Grows added steps tree tree') (field : String) :
    (shape : Shape) → Schema.Overlooks ⟨[(field, shape)]⟩ steps →
      shape.findings path tree field = shape.findings path tree' field
  | .rules chain, h => by
    have hrules : (Shape.rules chain).IgnoresTree := h.ignoresTree _ (List.mem_singleton_self _)
    cases hrules with
    | rules hrules =>
      rw [Shape.findings, Shape.findings, h.resolve?_rules hbare hgrows,
        Chain.objections_eq_of_ignoresTree hrules _ _ tree tree']
  | .nested nullable fields, h => by
    rw [Shape.findings, Shape.findings]
    rcases h.resolve? hbare hgrows with heq | ⟨rest, node, node', hold, hnew, hinner, hsteps⟩
    · rw [heq]
    · have hfields := h.nested hsteps
      rw [hold, hnew]
      cases hinner with
      | key hkey => exact Schema.findings_eq_of_grows hbare _ (.key hkey) fields hfields
      | field hchild => exact Schema.findings_eq_of_grows hbare _ (.field hchild) fields hfields
      | item => rfl
  | .each fields, h => by
    rw [Shape.findings, Shape.findings]
    rcases h.resolve? hbare hgrows with heq | ⟨rest, node, node', hold, hnew, hinner, hsteps⟩
    · rw [heq]
    · rw [hold, hnew]
      cases hinner with
      | key => rfl
      | field => rfl
      | @item before after child child' rest hchild =>
        have hfields := h.each before.length hsteps
        -- only the item that has grown is looked at twice
        simp only [List.zipIdx_append, List.zipIdx_cons, List.flatMap_append,
          List.flatMap_cons, Schema.findings_eq_of_grows hbare _ hchild fields hfields]
termination_by shape => (shape.depth, 0)

theorem Schema.findings_eq_of_grows (hbare : added.IsBare) (path : String) {tree tree' : Value}
    {steps : List String} (hgrows : Value.Grows added steps tree tree') (schema : Schema)
    (h : schema.Overlooks steps) : schema.findings path tree = schema.findings path tree' := by
  rw [Schema.findings_eq, Schema.findings_eq,
    ← Schema.expand_congr (hgrows.itemCount hbare) schema]
  refine List.flatMap_congr fun e he => ?_
  exact Shape.findings_eq_of_grows hbare path hgrows e.1 e.2 ((h.expand tree).entry he)
termination_by (Schema.depth schema, 1)
decreasing_by exact Schema.depth_lex_of_mem_expand he

end

end

namespace Schema

/-- A value that is added under a new key of an object, and that strict mode would call unknown,
changes nothing in what is collected. -/
theorem collect_eq_of_undeclared {schema : Schema} {tree tree' added : Value} {steps : List String}
    (hd : schema.IsDeclarable) (hrules : schema.IgnoresTree) (hindices : schema.HasPlainIndices)
    (hbare : added.IsBare) (hgrows : Value.Grows added steps tree tree')
    (hunknown : steps.foldl Path.join "" ∈ (schema.undeclared tree').fields.keys) :
    schema.collect tree' = schema.collect tree := by
  have huncovered := (mem_keys_undeclared_iff.mp hunknown).2
  rw [Path.segments_foldl_join, Path.segments_empty, List.nil_append] at huncovered
  have hoverlooks : schema.Overlooks steps := {
    declarable := hd
    ignoresTree := hrules
    plain := fun path owns hpath s hs =>
      Path.isSpelledPlainly_of_not_hasLeadingZero (hindices path owns hpath s hs)
    uncovered := huncovered }
  rw [collect_eq_findings, collect_eq_findings,
    findings_eq_of_grows hbare "" hgrows schema hoverlooks]

theorem collect_eq_of_undeclared_of_item :
    ∃ (schema : Schema) (tree tree' : Value) (steps : List String),
      schema.IsDeclarable ∧ schema.IgnoresTree ∧ schema.HasPlainIndices ∧
      Value.Grows (.num (.int 1)) steps tree tree' ∧
      steps.foldl Path.join "" ∈ (schema.undeclared tree').fields.keys ∧
      schema.collect tree = .ok (.ofList [("items.0.name", ["This field must be a string."])]) ∧
      schema.collect tree' = schema.collect tree := by
  let fields : Schema := ⟨[("name", .rules { rules := [.string] })]⟩
  let schema : Schema := ⟨[("items", .each fields)]⟩
  let item : Value := .obj [("name", .null)]
  let item' : Value := .obj [("name", .null), ("size", .num (.int 1))]
  have hd : schema.IsDeclarable :=
    ⟨by decide, by simpa [schema] using .each (by decide) (by simpa [fields] using .rules _)⟩
  have hrules : schema.IgnoresTree := by
    have hstring : Rule.string.IgnoresTree := Rule.ignoresTree_ofPredicate _ _ _
    have hfields : (Shape.rules { rules := [.string] }).IgnoresTree :=
      .rules (by simpa using hstring)
    simpa [IgnoresTree, schema] using .each (by simpa [fields] using hfields)
  have hdeclared : schema.declared = [⟨["items"], false⟩, ⟨["items", "*", "name"], true⟩] := by
    simp [schema, fields, declared, Shape.declared]
    decide
  have hindices : schema.HasPlainIndices := by
    rw [hasPlainIndices_iff, hdeclared]
    decide
  have hbare : Value.IsBare (.num (.int 1)) := trivial
  have hgrows : Value.Grows (.num (.int 1)) ["items", "0", "size"]
      (.obj [("items", .arr [item])]) (.obj [("items", .arr [item'])]) :=
    @Value.Grows.field _ [] [] _ _ _ _ (@Value.Grows.item _ [] [] _ _ _
      (@Value.Grows.key _ [("name", .null)] [] _ (by decide)))
  have hunknown : ["items", "0", "size"].foldl Path.join "" ∈
      (schema.undeclared (.obj [("items", .arr [item'])])).fields.keys := by
    rw [mem_keys_undeclared_iff, ← exists_covers_iff, hdeclared]
    decide
  exact ⟨schema, _, _, _, hd, hrules, hindices, hgrows, hunknown, by cbv,
    collect_eq_of_undeclared hd hrules hindices hbare hgrows hunknown⟩

end Schema

end Conform
