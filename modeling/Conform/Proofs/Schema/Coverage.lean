import Conform.Proofs.Path.Nodes
import Conform.Proofs.Report.Log
import Conform.Rule.Kind
import Conform.Schema.Strict

/-!
# What strict mode lets through

Strict mode compares texts. It joins the steps to a leaf into a path and cuts that path into
segments again. Plain keys come back as they were, but a key with dots comes back as several
segments and an empty key as none: a declaration may cover the path of a leaf and not the leaf.
-/

namespace Conform

/-- The shape declares the path, seen from its own field. Chains own what lies below their path. -/
inductive Shape.Declares : Shape → List String → Bool → Prop where
  | chain (chain : Chain) : Declares (.rules chain) [] true
  | object (nullable : Bool) (fields : Schema) : Declares (.nested nullable fields) [] false
  | list (fields : Schema) : Declares (.each fields) [] false
  | field {nullable : Bool} {fields : Schema} {e : String × Shape} {parts : List String}
      {owns : Bool} : e ∈ fields.entries → Declares e.2 parts owns →
      Declares (.nested nullable fields) (Path.segments e.1 ++ parts) owns
  | item {fields : Schema} {e : String × Shape} {parts : List String} {owns : Bool} :
      e ∈ fields.entries → Declares e.2 parts owns →
      Declares (.each fields) (Path.wildcard :: Path.segments e.1 ++ parts) owns

namespace Schema

/-- The schema declares the full path, which is owned when a chain stands there. -/
def Declares (schema : Schema) (path : List String) (owns : Bool) : Prop :=
  ∃ e ∈ schema.entries, ∃ parts, e.2.Declares parts owns ∧ path = Path.segments e.1 ++ parts

/-- Some declared path agrees with the steps as far as both go. Steps that go further need a
chain. -/
def Covers (schema : Schema) (steps : List String) : Prop :=
  ∃ (path : List String) (owns : Bool), schema.Declares path owns ∧
    (∀ (i : Nat) (p s : String), path[i]? = some p → steps[i]? = some s →
      p = Path.wildcard ∨ p = s) ∧
    (steps.length ≤ path.length ∨ owns = true)

end Schema

/-! ## Declared paths and agreement -/

theorem Path.agree_iff {pattern concrete : List String} :
    agree pattern concrete = true ↔
      ∀ (i : Nat) (p s : String), pattern[i]? = some p → concrete[i]? = some s →
        p = wildcard ∨ p = s := by
  rw [agree, List.all_eq_true]
  constructor
  · intro h i p s hp hs
    have hmem : (p, s) ∈ pattern.zip concrete :=
      List.mem_of_getElem? (List.getElem?_zip_eq_some.mpr ⟨hp, hs⟩)
    simpa using h (p, s) hmem
  · rintro h ⟨p, s⟩ hmem
    obtain ⟨i, hi⟩ := List.mem_iff_getElem?.mp hmem
    obtain ⟨hp, hs⟩ := List.getElem?_zip_eq_some.mp hi
    simpa using h i p s hp hs

@[simp] theorem Path.agree_nil_left (concrete : List String) : agree [] concrete = true := rfl

@[simp] theorem Path.agree_nil_right (pattern : List String) : agree pattern [] = true := by
  simp [agree]

@[simp] theorem Path.agree_cons (p s : String) (pattern concrete : List String) :
    agree (p :: pattern) (s :: concrete) =
      (decide (p = wildcard ∨ p = s) && agree pattern concrete) := by
  simp [agree]

@[simp] theorem Path.agree_self (segments : List String) : agree segments segments = true := by
  induction segments with
  | nil => rfl
  | cons s rest ih => simp [ih]

theorem Path.agree_append {pattern concrete : List String}
    (h : pattern.length = concrete.length) (more rest : List String) :
    agree (pattern ++ more) (concrete ++ rest) = (agree pattern concrete && agree more rest) := by
  simp only [agree, List.zip_append h, List.all_append]

@[simp] theorem Path.agree_append_left (front pattern concrete : List String) :
    agree (front ++ pattern) (front ++ concrete) = agree pattern concrete := by
  rw [agree_append rfl, agree_self, Bool.true_and]

theorem Schema.covers_iff {schema : Schema} {steps : List String} :
    schema.Covers steps ↔ ∃ path owns, schema.Declares path owns ∧
      Path.agree path steps = true ∧ (steps.length ≤ path.length ∨ owns = true) := by
  simp only [Covers, Path.agree_iff]

/-- The listed declarations of a shape are the paths that it declares, behind its own path. -/
theorem Shape.mem_declared_iff {shape : Shape} {path : String} {d : Declared} :
    d ∈ shape.declared path ↔
      ∃ parts, shape.Declares parts d.ownsSubtree ∧ d.segments = Path.segments path ++ parts := by
  obtain ⟨segments, owns⟩ := d
  induction path, shape using Shape.declared.induct with
  | case1 path chain =>
    rw [declared, List.mem_singleton]
    constructor
    · rintro ⟨rfl, rfl⟩
      exact ⟨[], .chain chain, by simp⟩
    · rintro ⟨parts, hparts, hsegments⟩
      cases hparts
      simpa using hsegments
  | case2 path nullable fields ih =>
    rw [declared, List.mem_cons, List.mem_flatMap]
    constructor
    · rintro (heq | ⟨e, he, hmem⟩)
      · obtain ⟨rfl, rfl⟩ := Declared.mk.inj heq
        exact ⟨[], .object nullable fields, by simp⟩
      · obtain ⟨parts, hparts, hsegments⟩ := (ih e he).mp hmem
        refine ⟨Path.segments e.1 ++ parts, .field he hparts, ?_⟩
        simpa [List.append_assoc] using hsegments
    · rintro ⟨parts, hparts, hsegments⟩
      cases hparts with
      | object => exact .inl (by simpa using hsegments)
      | @field _ _ e parts _ he hparts =>
        refine .inr ⟨e, he, (ih e he).mpr ⟨parts, hparts, ?_⟩⟩
        simpa [List.append_assoc] using hsegments
  | case3 path fields ih =>
    rw [declared, List.mem_cons, List.mem_flatMap]
    constructor
    · rintro (heq | ⟨e, he, hmem⟩)
      · obtain ⟨rfl, rfl⟩ := Declared.mk.inj heq
        exact ⟨[], .list fields, by simp⟩
      · obtain ⟨parts, hparts, hsegments⟩ := (ih e he).mp hmem
        refine ⟨Path.wildcard :: Path.segments e.1 ++ parts, .item he hparts, ?_⟩
        simpa [Path.segments_wildcard] using hsegments
    · rintro ⟨parts, hparts, hsegments⟩
      cases hparts with
      | list => exact .inl (by simpa using hsegments)
      | @item _ e parts _ he hparts =>
        refine .inr ⟨e, he, (ih e he).mpr ⟨parts, hparts, ?_⟩⟩
        simpa [Path.segments_wildcard] using hsegments

namespace Schema

theorem mem_declared_iff {schema : Schema} {d : Declared} :
    d ∈ schema.declared ↔ schema.Declares d.segments d.ownsSubtree := by
  simp only [declared, List.mem_flatMap, Shape.mem_declared_iff, Declares]

/-- The test on listed declarations decides whether a path is covered. -/
theorem exists_covers_iff {schema : Schema} {steps : List String} :
    (∃ d ∈ schema.declared, d.Covers steps) ↔ schema.Covers steps := by
  constructor
  · rintro ⟨d, hd, hlength, hagree⟩
    refine ⟨d.segments, d.ownsSubtree, mem_declared_iff.mp hd, Path.agree_iff.mp hagree, ?_⟩
    rcases hlength with ⟨howns, -⟩ | hle
    · exact .inr howns
    · exact .inl hle
  · rintro ⟨path, owns, hdeclares, hagree, hlength⟩
    refine ⟨⟨path, owns⟩, mem_declared_iff.mpr hdeclares, ?_, Path.agree_iff.mpr hagree⟩
    by_cases hle : steps.length ≤ path.length
    · exact .inr hle
    · exact .inl ⟨hlength.resolve_left hle, by simp only; omega⟩

/-! ## The report -/

theorem undeclared_eq (schema : Schema) (tree : Value) :
    schema.undeclared tree = Log.toReport ((tree.leaves.filter fun leaf =>
      ¬∃ d ∈ schema.declared, d.Covers (Path.segments leaf)).map (·, unknownField)) := by
  have hadd : ∀ (leaves : List String) (log : Log),
      leaves.foldl (fun report leaf => report.add leaf unknownField) log.toReport =
        Log.toReport (log ++ leaves.map (·, unknownField)) := by
    intro leaves
    induction leaves with
    | nil => simp
    | cons leaf rest ih =>
      intro log
      rw [List.foldl_cons, Report.add, Log.extend_toReport, ih]
      simp [Log.ofField]
  exact hadd _ []

/-- What is reported are the paths of leaves that no declaration covers. -/
theorem mem_keys_undeclared_iff {schema : Schema} {tree : Value} {path : String} :
    path ∈ (schema.undeclared tree).fields.keys ↔
      path ∈ tree.leaves ∧ ¬schema.Covers (Path.segments path) := by
  rw [undeclared_eq, Log.keys_toReport, Log.mem_fields_iff]
  simp [exists_covers_iff]

/-- A leaf is reported unless the steps to it are covered with every key read as a path. -/
theorem mem_keys_undeclared_iff_of_isLeafAt {schema : Schema} {tree : Value} {steps : List String}
    (h : tree.IsLeafAt steps) :
    steps.foldl Path.join "" ∈ (schema.undeclared tree).fields.keys ↔
      ¬schema.Covers (steps.flatMap Path.segments) := by
  rw [mem_keys_undeclared_iff, Path.segments_foldl_join, Path.segments_empty, List.nil_append]
  exact and_iff_right (Value.mem_leaves_iff.mpr ⟨steps, h, rfl⟩)

/-! ## What gets through -/

theorem isEmpty_undeclared_iff {schema : Schema} {tree : Value} :
    (schema.undeclared tree).isEmpty = true ↔
      ∀ steps, tree.IsLeafAt steps → schema.Covers (steps.flatMap Path.segments) := by
  have hkeys : (schema.undeclared tree).isEmpty = true ↔
      ∀ path, path ∉ (schema.undeclared tree).fields.keys := by
    rw [Report.isEmpty, OrderedMap.isEmpty, List.isEmpty_iff, ← List.eq_nil_iff_forall_not_mem,
      OrderedMap.keys, List.map_eq_nil_iff]
  rw [hkeys]
  constructor
  · intro h steps hleaf
    by_contra hcovers
    exact h _ ((mem_keys_undeclared_iff_of_isLeafAt hleaf).mpr hcovers)
  · intro h path hpath
    obtain ⟨hmem, -⟩ := mem_keys_undeclared_iff.mp hpath
    obtain ⟨steps, hleaf, rfl⟩ := Value.mem_leaves_iff.mp hmem
    exact (mem_keys_undeclared_iff_of_isLeafAt hleaf).mp hpath (h steps hleaf)

/-- When nothing is reported, the leaves below plain keys are covered as they are. -/
theorem covers_of_isEmpty_undeclared {schema : Schema} {tree : Value} {steps : List String}
    (h : (schema.undeclared tree).isEmpty = true) (hleaf : tree.IsLeafAt steps)
    (hplain : ∀ s ∈ steps, Path.IsPlain s) : schema.Covers steps := by
  have hcovers := isEmpty_undeclared_iff.mp h steps hleaf
  rwa [Path.flatMap_segments_of_isPlain hplain] at hcovers

/-- Nothing undeclared gets through: when nothing is reported, every leaf is covered, with each key
taken whole. -/
def IsTight (schema : Schema) (tree : Value) : Prop :=
  (schema.undeclared tree).isEmpty = true → ∀ steps, tree.IsLeafAt steps → schema.Covers steps

/-- Strict mode keeps its promise when something is reported, because a leaf is not covered even
with its keys read as paths. Otherwise it does so just when the leaves below keys that are not plain
are covered as they are. -/
theorem isTight_iff (schema : Schema) (tree : Value) :
    schema.IsTight tree ↔
      (∃ steps, tree.IsLeafAt steps ∧ ¬schema.Covers (steps.flatMap Path.segments)) ∨
        ∀ steps, tree.IsLeafAt steps → (∃ s ∈ steps, ¬Path.IsPlain s) → schema.Covers steps := by
  constructor
  · intro h
    by_cases hempty : (schema.undeclared tree).isEmpty = true
    · exact .inr fun steps hleaf _ => h hempty steps hleaf
    · rw [isEmpty_undeclared_iff] at hempty
      obtain ⟨steps, hsteps⟩ := not_forall.mp hempty
      obtain ⟨hleaf, hcovers⟩ := Classical.not_imp.mp hsteps
      exact .inl ⟨steps, hleaf, hcovers⟩
  · rintro (⟨steps, hleaf, hcovers⟩ | hrough) hempty steps' hleaf'
    · exact absurd (isEmpty_undeclared_iff.mp hempty steps hleaf) hcovers
    · by_cases hplain : ∀ s ∈ steps', Path.IsPlain s
      · exact covers_of_isEmpty_undeclared hempty hleaf' hplain
      · exact hrough steps' hleaf' (by simpa using hplain)

/-- A single chain covers what its path agrees with. -/
theorem covers_singleton_iff {path : String} {chain : Chain} {steps : List String} :
    Covers ⟨[(path, .rules chain)]⟩ steps ↔ Path.agree (Path.segments path) steps = true := by
  rw [← exists_covers_iff]
  simp only [declared, Shape.declared, Declared.Covers, List.flatMap_cons, List.flatMap_nil,
    List.append_nil, List.mem_singleton, exists_eq_left, true_and, and_iff_right_iff_imp]
  omega

/-- A single chain lets a field through whose key agrees with its path when it is read as a path,
whether or not it does so as a key. -/
theorem not_isTight_singleton {path key : String} {chain : Chain} {value : Value}
    (hbare : value.IsBare)
    (hread : Path.agree (Path.segments path) (Path.segments key) = true)
    (hwhole : ¬Path.agree (Path.segments path) [key] = true) :
    ¬IsTight ⟨[(path, .rules chain)]⟩ (.obj [(key, value)]) := by
  intro h
  have hleaf : Value.IsLeafAt (.obj [(key, value)]) [key] :=
    ⟨List.cons_ne_nil _ _, value, .field (List.mem_singleton_self _) (.here value), hbare⟩
  refine hwhole (covers_singleton_iff.mp (h (isEmpty_undeclared_iff.mpr ?_) _ hleaf))
  rintro steps ⟨hne, leaf, hreach, -⟩
  cases hreach with
  | here => exact absurd rfl hne
  | field hmem hrest =>
    obtain ⟨rfl, rfl⟩ := Prod.mk.inj (List.mem_singleton.mp hmem)
    rw [hrest.eq_nil_of_isBare hbare, covers_singleton_iff]
    simpa using hread

/-- A key with a dot passes for two keys, and an empty key for none. -/
theorem not_isTight_of_rough_key :
    let schema : Schema := ⟨[("a.b", .rules { rules := [.integer] })]⟩
    ¬schema.IsTight (.obj [("a.b", .num (.int 1))]) ∧
      ¬schema.IsTight (.obj [("", .num (.int 1))]) := by
  constructor
  · exact not_isTight_singleton trivial (by decide) (by decide)
  · exact not_isTight_singleton trivial (by decide) (by decide)

end Schema

end Conform
