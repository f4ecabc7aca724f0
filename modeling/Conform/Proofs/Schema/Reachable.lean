import Conform.Proofs.Path.Cuts
import Conform.Proofs.Schema.Build
import Conform.Proofs.Schema.FirstError
import Conform.Proofs.Validation

/-!
# Schemas that a program can come by

A path is looked at when it is declared, and never again: expansion writes paths that it has made
itself, and the collector joins paths to fields without looking at them. Still all paths of all
schemas that a program can come by may be declared, and so may all fields of their reports.
-/

namespace Conform

namespace Schema

/-- No path occurs twice, and all of them may be declared. -/
structure IsKeyed (schema : Schema) : Prop where
  distinct : schema.Distinct
  declarable : schema.HasDeclarableKeys

/-- The paths of the schema, and those of every block in it, are distinct and may be declared. -/
abbrev IsWellFormed (schema : Schema) : Prop := schema.All (fun _ => True) IsKeyed

/-- The outcome of declaring a field in a schema, and the schema afterwards. -/
def declaring (schema : Schema) (path : String) (shape : Shape) : Except SpecError Unit × Schema :=
  ((declareInPlace path shape).run.run schema).run

/-- The schemas that a program can come by: it may start from nothing, declare fields, successfully
or not, have specifications compiled or a builder run, and expand a schema against any tree. Blocks
are declared with schemas that it came by before. -/
inductive Reachable : Schema → Prop where
  | new : Reachable ∅
  | declaring {schema : Schema} (path : String) {shape : Shape} : Reachable schema →
      (∀ fields, shape.block? = some fields → Reachable fields) →
      Reachable (schema.declaring path shape).2
  | declare {schema extended : Schema} {path : String} {shape : Shape} : Reachable schema →
      (∀ fields, shape.block? = some fields → Reachable fields) →
      schema.declare path shape = .ok extended → Reachable extended
  | compile {registry : Registry} {specs : List (String × String)} {schema : Schema} :
      Schema.compile registry specs = .ok schema → Reachable schema
  | build {registry : Registry} {fields : List (String × Declaration)} {schema : Schema} :
      (Builder.addAll registry fields {}).build = .ok schema → Reachable schema
  | expand {schema : Schema} (tree : Value) : Reachable schema → Reachable (schema.expand tree)

variable {schema : Schema}

/-! ## One step -/

theorem isKeyed_empty : IsKeyed ∅ := ⟨.empty, fun _ h => by simp at h⟩

theorem isKept_isKeyed : IsKept IsKeyed := fun schema path shape h hpath =>
  ⟨h.distinct.insertWith path shape, isKept_hasDeclarableKeys schema path shape h.declarable hpath⟩

/-- Declaring in place is declaring, and a refusal leaves the schema as it is. -/
theorem declaring_eq (schema : Schema) (path : String) (shape : Shape) :
    schema.declaring path shape =
      match schema.declare path shape with
      | .ok extended => (.ok (), extended)
      | .error error => (.error error, schema) := by
  by_cases h : Path.IsDeclarable path
  · simp [declaring, declareInPlace, declare, h]
    rfl
  · simp [declaring, declareInPlace, declare, h]

namespace IsWellFormed

theorem empty : IsWellFormed ∅ := ⟨isKeyed_empty, by simp⟩

theorem insert (h : schema.IsWellFormed) {path : String} {shape : Shape}
    (hpath : Path.IsDeclarable path)
    (hshape : ∀ fields, shape.block? = some fields → IsWellFormed fields) :
    IsWellFormed (OrderedMap.insert schema path shape) :=
  All.insert h (isKept_isKeyed schema path shape h.block hpath)
    (Shape.all_of_block? (fun _ _ => trivial) hshape)

theorem declare (h : schema.IsWellFormed) {extended : Schema} {path : String} {shape : Shape}
    (hshape : ∀ fields, shape.block? = some fields → IsWellFormed fields)
    (hextended : schema.declare path shape = .ok extended) : extended.IsWellFormed := by
  rw [Schema.declare] at hextended
  split at hextended <;> cases hextended
  exact h.insert ‹_› hshape

theorem declaring (h : schema.IsWellFormed) (path : String) {shape : Shape}
    (hshape : ∀ fields, shape.block? = some fields → IsWellFormed fields) :
    IsWellFormed (schema.declaring path shape).2 := by
  rw [declaring_eq]
  cases hdeclare : schema.declare path shape with
  | ok extended => exact h.declare hshape hdeclare
  | error error => exact h

theorem expand (h : schema.IsWellFormed) (tree : Value) : IsWellFormed (schema.expand tree) :=
  All.expand (fun _ _ _ _ => trivial)
    (fun tree h => ⟨distinct_expand schema tree, hasDeclarableKeys_expand h.declarable tree⟩) h tree

end IsWellFormed

/-! ## All steps -/

theorem isWellFormed_compile {registry : Registry} {specs : List (String × String)}
    (h : compile registry specs = .ok schema) : schema.IsWellFormed := by
  refine List.foldlM_preserves (fun schema (field, spec) next hschema hnext => ?_) .empty h
  simp only at hnext
  cases hchain : registry.compile spec with
  | error error => rw [hchain] at hnext; cases hnext
  | ok chain =>
    rw [hchain] at hnext
    have hblock : ∀ fields, (Shape.rules chain).block? = some fields → IsWellFormed fields :=
      fun _ hfields => by cases hfields
    exact hschema.declare hblock hnext

theorem Reachable.isWellFormed (h : schema.Reachable) : schema.IsWellFormed := by
  induction h with
  | new => exact .empty
  | declaring path _ _ ih hshape => exact ih.declaring path hshape
  | declare _ _ hextended ih hshape => exact ih.declare hshape hextended
  | compile h => exact isWellFormed_compile h
  | build h =>
    rw [Builder.build_addAll_empty] at h
    exact all_build isKeyed_empty isKept_isKeyed h
  | expand tree _ ih => exact ih.expand tree

/-! ## Reported fields -/

/-- Paths that may be declared give fields that may be declared, with indices for wildcards. -/
theorem IsDeclarable.of_mem_keys_collect (hd : schema.IsDeclarable) {tree : Value} {report : Report}
    (h : schema.collect tree = .ok report) {field : String} (hfield : field ∈ report.fields.keys) :
    Path.IsDeclarable field ∧ ¬Path.IsPattern field := by
  obtain ⟨declared, owns, hdeclares, hstands⟩ := exists_declares_of_mem_keys_collect hd h hfield
  have hplain : ∀ segment ∈ Path.segments field, Path.IsPlain segment :=
    Path.forall_mem_of_standsFor hstands fun part hpart _ hstands =>
      hstands.isPlain (hdeclares.isPlain hd part hpart)
  constructor
  · rw [← Path.ofSegments_segments field]
    refine Path.isDeclarable_ofSegments (fun hnil => ?_) hplain
    rw [hnil] at hstands
    exact hdeclares.ne_nil hd (List.forall₂_nil_right_iff.mp hstands)
  · intro hpattern
    exact Path.forall_mem_of_standsFor hstands (fun _ _ _ hstands => hstands.ne_wildcard)
      Path.wildcard hpattern rfl

/-! ## What all schemas keep to -/

/-- Paths are distinct and may be declared, at every level. Declaring a field whose path must not be
declared changes nothing. Any other path keeps its place with the new shape, or is added at the end.
All fields that the schema reports may be declared and are concrete. -/
structure KeepsPaths (schema : Schema) : Prop where
  everywhere : schema.IsWellFormed
  accepts_iff : ∀ path shape, (schema.declaring path shape).1 = .ok () ↔ Path.IsDeclarable path
  refused : ∀ path shape error next, schema.declaring path shape = (.error error, next) →
    error = .invalidPath path ∧ next = schema
  replaced : ∀ path shape next before old after,
    schema.entries = before ++ (path, old) :: after →
    schema.declaring path shape = (.ok (), next) → next.entries = before ++ (path, shape) :: after
  added : ∀ path shape next, path ∉ schema.keys →
    schema.declaring path shape = (.ok (), next) → next.entries = schema.entries ++ [(path, shape)]
  reported : ∀ tree report, schema.collect tree = .ok report → ∀ field ∈ report.fields.keys,
    Path.IsDeclarable field ∧ ¬Path.IsPattern field

theorem declaring_eq_ok_iff {path : String} {shape : Shape} {next : Schema} :
    schema.declaring path shape = (.ok (), next) ↔
      Path.IsDeclarable path ∧ next = schema.insert path shape := by
  rw [declaring_eq, declare]
  by_cases h : Path.IsDeclarable path <;> simp [h, eq_comm]

theorem declaring_eq_error_iff {path : String} {shape : Shape} {error : SpecError} {next : Schema} :
    schema.declaring path shape = (.error error, next) ↔
      ¬Path.IsDeclarable path ∧ error = .invalidPath path ∧ next = schema := by
  rw [declaring_eq, declare]
  by_cases h : Path.IsDeclarable path <;> simp [h, eq_comm]

theorem Reachable.keepsPaths (h : schema.Reachable) : schema.KeepsPaths where
  everywhere := h.isWellFormed
  accepts_iff path shape := by
    rw [declaring_eq, Schema.declare]
    by_cases hpath : Path.IsDeclarable path <;> simp [hpath]
  refused path shape error next hnext := (declaring_eq_error_iff.mp hnext).2
  replaced path shape next before old after hentries hnext := by
    obtain ⟨-, rfl⟩ := declaring_eq_ok_iff.mp hnext
    exact OrderedMap.entries_insert_of_distinct h.isWellFormed.block.distinct hentries shape
  added path shape next hnew hnext := by
    obtain ⟨-, rfl⟩ := declaring_eq_ok_iff.mp hnext
    rw [OrderedMap.insert, OrderedMap.insertWith_of_not_mem _ _ hnew]
  reported tree report hreport field hfield :=
    IsDeclarable.of_mem_keys_collect (h.isWellFormed.isDeclarable fun _ => IsKeyed.declarable)
      hreport hfield

theorem Reachable.keepsPaths_of_expansion :
    ∃ schema : Schema, schema.Reachable ∧ schema.KeepsPaths ∧
      schema.keys = ["rows.0", "rows.1"] := by
  have hitem : Reachable ((∅ : Schema).declaring "*.id" (.rules {})).2 :=
    .declaring _ .new fun _ hfields => by cases hfields
  have hrows : Reachable ((∅ : Schema).declaring "rows.*" (.each _)).2 :=
    .declaring _ .new fun _ hfields => by cases hfields; exact hitem
  have hexpanded := hrows.expand (.obj [("rows", .arr [.null, .null])])
  exact ⟨_, hexpanded, hexpanded.keepsPaths, rfl⟩

end Schema

end Conform
