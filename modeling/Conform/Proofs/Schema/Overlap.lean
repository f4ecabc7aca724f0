import Conform.Proofs.Schema.Build
import Conform.Proofs.Spec.Compilation
import Conform.Spec.Builtin

/-!
# Overlapping declarations

Several declarations may produce one path. When they are all given by specifications, the chain at
the path is that of a single specification: theirs, in order of declaration, with bars between them.
-/

namespace Conform

/-- Chains that meet are joined to the chain of their specifications, written one after another with
bars between them. -/
theorem Shape.exists_combined_eq_compile {registry : Registry} {specs : List String}
    {chains : List Chain} (hne : specs ≠ [])
    (h : List.Forall₂ (fun spec chain => registry.compile spec = .ok chain) specs chains) :
    ∃ chain, registry.compile ("|".intercalate specs) = .ok chain ∧
      combined (chains.map .rules) = some (.rules chain) := by
  cases h with
  | nil => exact absurd rfl hne
  | @cons spec chain specs chains hspec hspecs =>
    have hchains : (chains.map Shape.rules).filterMap chain? = chains := by
      simp [List.filterMap_map, Function.comp_def, chain?]
    refine ⟨_, Registry.compile_intercalate hspec hspecs, ?_⟩
    rw [← mergeAll_eq_combined, List.map_cons, OrderedMap.mergeAll, foldl_merge_rules, hchains]

namespace Schema

/-! ## Built schemas -/

/-- Declarations for new fields are added to a schema in their order. -/
theorem exists_entries_extendFrom {registry : Registry} {wrap : String → SpecError → SpecError}
    {fields : List (String × Declaration)} {start schema : Schema}
    (hdistinct : (fields.map (·.1)).Nodup) (hnew : ∀ field ∈ fields.map (·.1), field ∉ start.keys)
    (h : extendFrom registry wrap fields start = .ok schema) :
    ∃ more, schema.entries = start.entries ++ more ∧
      List.Forall₂ (fun d e => d.1 = e.1 ∧ d.2.shape registry wrap = .ok e.2) fields more := by
  induction fields generalizing start with
  | nil =>
    rw [extendFrom] at h
    cases h
    exact ⟨[], by simp, .nil⟩
  | cons first rest ih =>
    obtain ⟨field, declaration⟩ := first
    obtain ⟨shape, hshape, -, hrest⟩ := extendFrom_cons_eq_ok_iff.mp h
    rw [List.map_cons, List.nodup_cons] at hdistinct
    have hfield : field ∉ start.keys := hnew field (by simp)
    have hnext : ∀ other ∈ rest.map (·.1), other ∉ (start.insert field shape).keys := by
      intro other hother
      have hne : other ≠ field := fun heq => hdistinct.1 (heq ▸ hother)
      have hstart := hnew other (List.mem_cons_of_mem _ hother)
      rw [OrderedMap.insert, OrderedMap.keys_insertWith, if_neg hfield]
      simp [hstart, hne]
    obtain ⟨more, hentries, hmore⟩ := ih hdistinct.2 hnext hrest
    rw [OrderedMap.insert, OrderedMap.insertWith_of_not_mem _ _ hfield] at hentries
    exact ⟨(field, shape) :: more, by simpa using hentries, .cons ⟨rfl, hshape⟩ hmore⟩

/-- The shapes of specifications are their chains. -/
theorem exists_chains_of_spec {registry : Registry} {wrap : String → SpecError → SpecError}
    {specs : List String} {shapes : List Shape}
    (h : List.Forall₂ (fun spec shape => (Declaration.spec spec).shape registry wrap = .ok shape)
      specs shapes) :
    ∃ chains, shapes = chains.map .rules ∧
      List.Forall₂ (fun spec chain => registry.compile spec = .ok chain) specs chains := by
  induction h with
  | nil => exact ⟨[], rfl, .nil⟩
  | @cons spec shape _ _ hspec _ ih =>
    obtain ⟨chains, rfl, hchains⟩ := ih
    rw [Declaration.shape] at hspec
    cases hchain : registry.compile spec with
    | error error => rw [hchain] at hspec; cases hspec
    | ok chain =>
      rw [hchain] at hspec
      cases hspec
      exact ⟨chain :: chains, rfl, .cons hchain hchains⟩

/-- In a schema that is built from declarations, a path that specifications alone produce has the
chain of these specifications with bars between them. -/
theorem get?_expand_build {registry : Registry} {fields : List (String × Declaration)}
    {schema : Schema} (hdistinct : (fields.map (·.1)).Nodup)
    (h : build registry fields = .ok schema) {tree : Value} {path : String} {specs : List String}
    (hne : specs ≠ [])
    (hspecs : (fields.filter fun d => Path.IsInstance tree d.1 path).map (·.2) =
      specs.map .spec) :
    ∃ chain, registry.compile ("|".intercalate specs) = .ok chain ∧
      (schema.expand tree).get? path = some (.rules chain) := by
  obtain ⟨entries, hentries, hshapes⟩ := exists_entries_extendFrom hdistinct (by simp) h
  rw [OrderedMap.entries_empty, List.nil_append] at hentries
  have hfiltered : List.Forall₂ (fun d shape => Declaration.shape registry .inField d = .ok shape)
      ((fields.filter fun d => Path.IsInstance tree d.1 path).map (·.2))
      (schema.producers tree path) := by
    rw [producers, hentries, List.forall₂_map_left_iff, List.forall₂_map_right_iff]
    refine (List.rel_filter (fun d e hde => ?_) hshapes).imp fun _ _ hde => hde.2
    simp only [decide_eq_true_eq, hde.1]
  rw [hspecs, List.forall₂_map_left_iff] at hfiltered
  obtain ⟨chains, hproducers, hcompiled⟩ := exists_chains_of_spec hfiltered
  rw [get?_expand (isDeclarable_build h).keys, hproducers]
  exact Shape.exists_combined_eq_compile hne hcompiled

/-! ## Any schemas -/

/-- Where all declarations that produce a path are chains of specifications, the path has the chain
of these specifications with bars between them. This is so whatever else the schema declares, and
however often; `get?_expand_build` says the same of the declarations that a schema is built from. -/
theorem get?_expand_eq_compile {registry : Registry} {schema : Schema}
    (hkeys : schema.HasDeclarableKeys) {tree : Value} {path : String} {specs : List String}
    {chains : List Chain} (hne : specs ≠ [])
    (hcompiled : List.Forall₂ (fun spec chain => registry.compile spec = .ok chain) specs chains)
    (hproducers : schema.producers tree path = chains.map .rules) :
    ∃ chain, registry.compile ("|".intercalate specs) = .ok chain ∧
      (schema.expand tree).get? path = some (.rules chain) := by
  rw [get?_expand hkeys, hproducers]
  exact Shape.exists_combined_eq_compile hne hcompiled

/-- The pattern and the index meet in the first item. In the second the pattern is alone. -/
theorem get?_expand_eq_compile_of_index_and_pattern :
    ∃ (schema : Schema) (tree : Value) (first second chain : Chain),
      Schema.compile .builtin [("rows.*.id", "required|bail"), ("rows.0.id", "nullable|integer")] =
        .ok schema ∧
      build .builtin
        [("rows.*.id", .spec "required|bail"), ("rows.0.id", .spec "nullable|integer")] =
        .ok schema ∧
      schema.HasDeclarableKeys ∧
      schema.producers tree "rows.0.id" = [.rules first, .rules second] ∧
      Registry.builtin.compile "required|bail" = .ok first ∧
      Registry.builtin.compile "nullable|integer" = .ok second ∧
      Registry.builtin.compile "required|bail|nullable|integer" = .ok chain ∧
      (schema.expand tree).get? "rows.0.id" = some (.rules chain) ∧
      (schema.expand tree).get? "rows.1.id" = some (.rules first) := by
  let first : Chain := { rules := [.required], bail := true }
  let second : Chain := { rules := [.integer], nullable := true }
  let schema : Schema := ⟨[("rows.*.id", .rules first), ("rows.0.id", .rules second)]⟩
  let tree : Value := .obj [("rows", .arr [.null, .null])]
  have hfirst : Registry.builtin.compile "required|bail" = .ok first := rfl
  have hsecond : Registry.builtin.compile "nullable|integer" = .ok second := rfl
  have hkeys : schema.HasDeclarableKeys := by decide
  have hpattern : Path.IsInstance tree "rows.*.id" "rows.0.id" := by decide
  have hindex : Path.IsInstance tree "rows.0.id" "rows.0.id" := by decide
  have hproducers : schema.producers tree "rows.0.id" = [first, second].map .rules := by
    simp [producers, schema, hpattern, hindex]
  obtain ⟨chain, hchain, hget⟩ := get?_expand_eq_compile hkeys (by simp)
    (.cons hfirst (.cons hsecond .nil)) hproducers
  let fields : List (String × Declaration) :=
    [("rows.*.id", .spec "required|bail"), ("rows.0.id", .spec "nullable|integer")]
  have hbuild : build .builtin fields = .ok schema := rfl
  have halone : (fields.filter fun d => Path.IsInstance tree d.1 "rows.1.id").map (·.2) =
      ["required|bail"].map .spec := by
    have hpattern : Path.IsInstance tree "rows.*.id" "rows.1.id" := by decide
    have hindex : ¬Path.IsInstance tree "rows.0.id" "rows.1.id" := by decide
    simp [fields, hpattern, hindex]
  obtain ⟨alone, hcompile, hgetAlone⟩ :=
    get?_expand_build (by simp [fields]) hbuild (List.cons_ne_nil _ _) halone
  obtain rfl : first = alone := Except.ok.inj (hfirst.symm.trans hcompile)
  exact ⟨schema, tree, first, second, chain, rfl, hbuild, hkeys, hproducers, hfirst, hsecond,
    hchain, hget, hgetAlone⟩

end Schema

end Conform
