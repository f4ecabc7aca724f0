import Conform.Proofs.Schema.Faults
import Conform.Proofs.Validation
import Conform.Rule.Kind
import Conform.Rule.Presence
import Mathlib.Data.List.Pairwise
import Mathlib.Data.List.Perm.Basic
import Mathlib.Data.Set.List

/-!
# Reordered declarations

The order of declarations decides the order of reports, and where chains meet it decides the order
of their rules and so the rule at which a bail chain ends. It does not decide which fields fail: a
chain objects when one of its rules does, wherever that rule stands.
-/

namespace Conform

/-- If the two entries expand to the same path, both are chains. -/
def Schema.MeetInChains (tree : Value) (e other : String × Shape) : Prop :=
  ∀ path ∈ Path.instances tree e.1, path ∈ Path.instances tree other.1 →
    e.2.chain?.isSome = true ∧ other.2.chain?.isSome = true

/-- Wherever two entries of the schema expand to the same path, both are chains. -/
def Schema.OnlyChainsMeet (schema : Schema) (tree : Value) : Prop :=
  schema.entries.Pairwise (MeetInChains tree)

instance (tree : Value) (e other : String × Shape) : Decidable (Schema.MeetInChains tree e other) :=
  inferInstanceAs (Decidable (∀ path ∈ _, _))

instance (schema : Schema) (tree : Value) : Decidable (schema.OnlyChainsMeet tree) :=
  inferInstanceAs (Decidable (List.Pairwise _ _))

/-! ## Chains with the same rules -/

theorem Chain.objections_eq_nil_iff {chain : Chain} {field : String} {value? : Option Value}
    {scope : Value} :
    chain.objections field value? scope = [] ↔
      ∀ rule ∈ chain.rules, (chain.view value?).isSome = true ∨ rule.isImplicit = true →
        rule.objection? field (chain.view value?) scope = none := by
  rw [Chain.objections, ← Chain.view_eq_filter]
  cases chain.bail <;> simp [List.filterMap_eq_nil_iff]

/-- The same shape, or chains with the same modes and the same rules in any order. -/
inductive Shape.Reordered : Shape → Shape → Prop where
  | refl (shape : Shape) : Reordered shape shape
  | rules {first second : Chain} : first.rules.Perm second.rules → first.bail = second.bail →
      first.nullable = second.nullable → Reordered (.rules first) (.rules second)

/-- A field fails under a shape when something is found out about it. -/
def Shape.Fails (shape : Shape) (path : String) (tree : Value) (field name : String) : Prop :=
  ∃ objection, (name, objection) ∈ shape.findings path tree field

theorem Shape.fails_rules_iff {chain : Chain} {path : String} {tree : Value}
    {field name : String} :
    (Shape.rules chain).Fails path tree field name ↔ name = Path.join path field ∧
      chain.objections (Path.join path field) (tree.resolve? field) tree ≠ [] := by
  rw [Fails, Shape.findings, Log.objectionsTo]
  constructor
  · rintro ⟨objection, hmem⟩
    obtain ⟨_, hobjection, heq⟩ := List.mem_map.mp hmem
    obtain ⟨rfl, rfl⟩ := Prod.mk.inj heq
    exact ⟨rfl, List.ne_nil_of_mem hobjection⟩
  · rintro ⟨rfl, hne⟩
    obtain ⟨objection, hobjection⟩ := List.exists_mem_of_ne_nil _ hne
    exact ⟨objection, List.mem_map_of_mem hobjection⟩

theorem Shape.Reordered.fails_iff {shape other : Shape} (h : shape.Reordered other) (path : String)
    (tree : Value) (field name : String) :
    shape.Fails path tree field name ↔ other.Fails path tree field name := by
  cases h with
  | refl => rfl
  | @rules first second hrules _ hnullable =>
    have hview : first.view = second.view := by
      funext value?
      rw [Chain.view_eq_filter, Chain.view_eq_filter, hnullable]
    rw [fails_rules_iff, fails_rules_iff, ne_eq, ne_eq, Chain.objections_eq_nil_iff,
      Chain.objections_eq_nil_iff, hview]
    simp only [hrules.mem_iff]

/-- Chains that meet in another order have the same rules in another order, with the modes of
all. -/
theorem Shape.combined_rules_perm {chains others : List Chain} (h : chains.Perm others)
    {shape : Shape} (hshape : combined (chains.map .rules) = some shape) :
    ∃ other, combined (others.map .rules) = some other ∧ shape.Reordered other := by
  have hcombined : ∀ {chain : Chain} {rest : List Chain},
      combined ((chain :: rest).map .rules) = some (.rules ⟨(chain :: rest).flatMap (·.rules),
        (chain :: rest).any (·.bail), (chain :: rest).any (·.nullable)⟩) := by
    intro chain rest
    simp [combined, List.filterMap_map, Function.comp_def, chain?]
  cases chains with
  | nil => cases hshape
  | cons chain rest =>
    cases others with
    | nil => exact absurd h.symm.nil_eq (by simp)
    | cons chain' rest' =>
      rw [hcombined] at hshape
      cases hshape
      exact ⟨_, hcombined, .rules (h.flatMap_right _) h.any_eq h.any_eq⟩

namespace Schema

variable {schema other : Schema} {tree : Value}

instance : Std.Symm (MeetInChains tree) where
  symm _ _ h path hother hpath := (h path hpath hother).symm

theorem OnlyChainsMeet.of_perm (h : schema.OnlyChainsMeet tree)
    (hperm : schema.entries.Perm other.entries) : other.OnlyChainsMeet tree :=
  hperm.pairwise h (Std.Symm.symm _ _)

theorem mem_valuesAt_concrete_iff {path : String} {shape : Shape} :
    shape ∈ OrderedMap.valuesAt path (schema.concrete tree) ↔
      ∃ e ∈ schema.entries, path ∈ Path.instances tree e.1 ∧ e.2 = shape := by
  simp only [OrderedMap.valuesAt, concrete, List.mem_map, List.mem_filter, List.mem_flatMap,
    decide_eq_true_eq]
  constructor
  · rintro ⟨_, ⟨⟨e, he, _, hpath, rfl⟩, rfl⟩, rfl⟩
    exact ⟨e, he, hpath, rfl⟩
  · rintro ⟨e, he, hpath, rfl⟩
    exact ⟨(path, e.2), ⟨⟨e, he, path, hpath, rfl⟩, rfl⟩, rfl⟩

/-- A block that is declared for a path is all that is declared for it. -/
theorem OnlyChainsMeet.eq_of_block (h : schema.OnlyChainsMeet tree) {path : String}
    {block shape : Shape} (hblock : block.chain? = none)
    (hmem : block ∈ OrderedMap.valuesAt path (schema.concrete tree))
    (hshape : shape ∈ OrderedMap.valuesAt path (schema.concrete tree)) : shape = block := by
  obtain ⟨e, he, hpath, rfl⟩ := mem_valuesAt_concrete_iff.mp hmem
  obtain ⟨e', he', hpath', rfl⟩ := mem_valuesAt_concrete_iff.mp hshape
  by_contra hne
  have hmeet := h.forall he he' fun heq => hne (heq ▸ rfl)
  simpa [hblock] using (hmeet path hpath hpath').1

theorem get?_expand_eq_combined (schema : Schema) (tree : Value) (path : String) :
    (schema.expand tree).get? path =
      Shape.combined (OrderedMap.valuesAt path (schema.concrete tree)) := by
  rw [expand, OrderedMap.get?_insertAllWith, Shape.mergeAll_eq_combined]

/-- Reordered declarations expand to the same paths, with reordered shapes. -/
theorem OnlyChainsMeet.get?_expand_of_perm (h : schema.OnlyChainsMeet tree)
    (hperm : schema.entries.Perm other.entries) {path : String} {shape : Shape}
    (hshape : (schema.expand tree).get? path = some shape) :
    ∃ shape', (other.expand tree).get? path = some shape' ∧ shape.Reordered shape' := by
  rw [get?_expand_eq_combined] at hshape ⊢
  have hvalues : (OrderedMap.valuesAt path (schema.concrete tree)).Perm
      (OrderedMap.valuesAt path (other.concrete tree)) :=
    ((hperm.flatMap_right _).filter _).map _
  by_cases hblock : ∃ block ∈ OrderedMap.valuesAt path (schema.concrete tree), block.chain? = none
  · obtain ⟨block, hmem, hnone⟩ := hblock
    -- all that is declared for the path is this block, so there is nothing to reorder
    have hsame : ∀ other ∈ OrderedMap.valuesAt path (schema.concrete tree), other = block :=
      fun _ => h.eq_of_block hnone hmem
    have hall := List.eq_replicate_of_mem hsame
    rw [hall] at hvalues hshape
    rw [← List.replicate_perm.mp hvalues]
    exact ⟨shape, hshape, .refl shape⟩
  · have hchains : ∀ shape ∈ OrderedMap.valuesAt path (schema.concrete tree),
        shape ∈ Set.range Shape.rules := by
      intro shape hmem
      cases shape with
      | rules chain => exact ⟨chain, rfl⟩
      | nested | each => exact absurd ⟨_, hmem, rfl⟩ hblock
    have hothers : ∀ shape ∈ OrderedMap.valuesAt path (other.concrete tree),
        shape ∈ Set.range Shape.rules := fun shape hmem => hchains shape (hvalues.mem_iff.mpr hmem)
    obtain ⟨chains, hlist⟩ := (Set.range_list_map Shape.rules).symm.subset hchains
    obtain ⟨others, hlist'⟩ := (Set.range_list_map Shape.rules).symm.subset hothers
    rw [← hlist, ← hlist'] at hvalues
    rw [← hlist] at hshape
    rw [← hlist']
    have hinjective : Function.Injective Shape.rules := fun _ _ => Shape.rules.inj
    exact Shape.combined_rules_perm ((List.map_perm_map_iff hinjective).mp hvalues) hshape

/-! ## Fields that fail -/

/-- What fails under one order of the declarations fails under another. -/
theorem OnlyChainsMeet.exists_mem_findings_of_perm (h : schema.OnlyChainsMeet tree)
    (hperm : schema.entries.Perm other.entries) {path name : String}
    (hfails : ∃ objection, (name, objection) ∈ schema.findings path tree) :
    ∃ objection, (name, objection) ∈ other.findings path tree := by
  obtain ⟨objection, hmem⟩ := hfails
  rw [findings_eq] at hmem
  obtain ⟨e, he, hmem⟩ := List.mem_flatMap.mp hmem
  have hget := OrderedMap.get?_of_mem (distinct_expand schema tree) he
  obtain ⟨shape, hshape, hreordered⟩ := h.get?_expand_of_perm hperm hget
  obtain ⟨objection', hmem'⟩ := (hreordered.fails_iff path tree e.1 name).mp ⟨objection, hmem⟩
  rw [findings_eq]
  exact ⟨objection', List.mem_flatMap.mpr ⟨_, OrderedMap.mem_of_get? hshape, hmem'⟩⟩

/-- The fields of a report are those that something was found out about. -/
theorem mem_keys_collect_iff {log : Log}
    (h : schema.findings "" tree = log.map fun e => (e.1, .ok e.2)) {field : String} :
    field ∈ log.toReport.fields.keys ↔
      ∃ objection, (field, objection) ∈ schema.findings "" tree := by
  rw [Log.keys_toReport, Log.mem_fields_iff, h]
  constructor
  · rintro ⟨text, htext⟩
    exact ⟨.ok text, List.mem_map.mpr ⟨_, htext, rfl⟩⟩
  · rintro ⟨objection, hmem⟩
    obtain ⟨⟨_, text⟩, htext, heq⟩ := List.mem_map.mp hmem
    obtain ⟨rfl, rfl⟩ := Prod.mk.inj heq
    exact ⟨text, htext⟩

theorem covers_of_perm (hperm : schema.entries.Perm other.entries) {steps : List String}
    (h : schema.Covers steps) : other.Covers steps := by
  obtain ⟨path, owns, ⟨e, he, hdeclares⟩, hcovers⟩ := h
  exact ⟨path, owns, ⟨e, hperm.mem_iff.mp he, hdeclares⟩, hcovers⟩

theorem isEmpty_undeclared_of_perm (hperm : schema.entries.Perm other.entries)
    (h : (schema.undeclared tree).isEmpty = true) : (other.undeclared tree).isEmpty = true :=
  isEmpty_undeclared_iff.mpr fun steps hleaf =>
    covers_of_perm hperm (isEmpty_undeclared_iff.mp h steps hleaf)

theorem isEmpty_iff_of_keys {a b : Log}
    (h : ∀ field, field ∈ a.toReport.fields.keys ↔ field ∈ b.toReport.fields.keys) :
    a.toReport.isEmpty = true ↔ b.toReport.isEmpty = true := by
  have hempty : ∀ log : Log, log.toReport.isEmpty = true ↔
      ∀ field, field ∉ log.toReport.fields.keys := by
    intro log
    rw [isEmpty_iff_entries, ← List.eq_nil_iff_forall_not_mem, OrderedMap.keys,
      List.map_eq_nil_iff]
  simp only [hempty, h]

/-- The order of declarations decides the order of reports, and not which fields fail: where only
chains meet, the same fields fail under every order, and the same trees are accepted. -/
theorem sameFields_collect_of_perm (hperm : schema.entries.Perm other.entries)
    (hrules : schema.NeverFaults) (hmeet : schema.OnlyChainsMeet tree) :
    ∃ report report', schema.collect tree = .ok report ∧ other.collect tree = .ok report' ∧
      (∀ field, field ∈ report.fields.keys ↔ field ∈ report'.fields.keys) ∧
      ∀ options, validate schema options tree = .ok () ↔ validate other options tree = .ok () := by
  have hothers : other.NeverFaults :=
    ⟨trivial, fun e he => hrules.shapes e (hperm.mem_iff.mpr he)⟩
  obtain ⟨log, hlog, hfindings⟩ := hrules.exists_report tree
  obtain ⟨log', hlog', hfindings'⟩ := hothers.exists_report tree
  have hfields : ∀ field,
      field ∈ log.toReport.fields.keys ↔ field ∈ log'.toReport.fields.keys := by
    intro field
    rw [mem_keys_collect_iff hfindings, mem_keys_collect_iff hfindings']
    exact ⟨hmeet.exists_mem_findings_of_perm hperm,
      (hmeet.of_perm hperm).exists_mem_findings_of_perm hperm.symm⟩
  refine ⟨_, _, hlog, hlog', hfields, fun options => ?_⟩
  have hunknown : (schema.undeclared tree).isEmpty = true ↔
      (other.undeclared tree).isEmpty = true :=
    ⟨isEmpty_undeclared_of_perm hperm, isEmpty_undeclared_of_perm hperm.symm⟩
  rw [validate_eq_ok_iff_isEmpty, validate_eq_ok_iff_isEmpty, hlog, hlog', hunknown]
  simp only [Except.ok.injEq, exists_eq_left', isEmpty_iff_of_keys hfields]

theorem sameFields_collect_of_perm_of_bail :
    ∃ (schema other : Schema) (tree : Value), schema.entries.Perm other.entries ∧
      schema.NeverFaults ∧ schema.OnlyChainsMeet tree ∧
      schema.collect tree = .ok (.ofList [("rows.0.id", ["This field must be an integer."]),
        ("user", [notAnObject])]) ∧
      other.collect tree = .ok (.ofList [("rows.0.id", ["This field is required."]),
        ("user", [notAnObject])]) ∧
      ∃ report report', schema.collect tree = .ok report ∧ other.collect tree = .ok report' ∧
        (∀ field, field ∈ report.fields.keys ↔ field ∈ report'.fields.keys) ∧
        ∀ options, validate schema options tree = .ok () ↔
          validate other options tree = .ok () := by
  let pattern : String × Shape := ("rows.*.id", .rules { rules := [.integer, .string] })
  let index : String × Shape := ("rows.0.id", .rules { rules := [.required], bail := true })
  let block : String × Shape := ("user", .nested false ⟨[("name", .rules { rules := [.string] })]⟩)
  let tree : Value := .obj [("rows", .arr [.obj [("id", .null)]])]
  have hinteger : Rule.integer.NeverFaults := Rule.neverFaults_ofPredicate _ _ _
  have hstring : Rule.string.NeverFaults := Rule.neverFaults_ofPredicate _ _ _
  have hrequired : Rule.required.NeverFaults := (Rule.neverFaults_ofTest _ _ _).implicit
  have hrules : NeverFaults ⟨[pattern, block, index]⟩ := by
    refine ⟨trivial, ?_⟩
    simp only [List.forall_mem_cons, pattern, block, index]
    exact ⟨.rules (by simp [hinteger, hstring]),
      .nested trivial (by simpa using .rules (by simp [hstring])),
      .rules (by simp [hrequired]), by simp⟩
  have hmeet : OnlyChainsMeet ⟨[pattern, block, index]⟩ tree := by decide
  have hperm : [pattern, block, index].Perm [index, block, pattern] :=
    List.reverse_perm [index, block, pattern]
  exact ⟨⟨[pattern, block, index]⟩, ⟨[index, block, pattern]⟩, tree, hperm, hrules, hmeet,
    by cbv, by cbv, sameFields_collect_of_perm hperm hrules hmeet⟩

end Schema

end Conform
