import Conform.Proofs.Outcomes
import Conform.Proofs.Schema.Reachable

/-!
# Flat schemas

A schema without blocks can be compiled from a list of specifications, made by a builder that takes
them one after another, or made by compiling each of them and inserting its chain. The three agree:
they take the same lists and give the same schemas, and they refuse a list for the same reason. They
differ only in whether the error names the field in which it was found.
-/

namespace Conform.Schema

variable {registry : Registry}

/-! ## Inserting in turn -/

/-- Compiles each specification and inserts its chain, up to the first error. -/
def insertEach (registry : Registry) (specs : List (String × String)) :
    ExceptT SpecError (StateM Schema) Unit :=
  specs.forM fun (field, spec) => do
    let chain ← liftM (registry.compile spec)
    declareInPlace field (.rules chain)

/-- The schema when all chains have been inserted, or the error that ended the insertions. -/
def inserted (registry : Registry) (specs : List (String × String)) (start : Schema) :
    Except SpecError Schema :=
  match ((insertEach registry specs).run.run start).run with
  | (.ok (), schema) => .ok schema
  | (.error error, _) => .error error

/-- What one specification makes of a schema when its errors are left as they are. -/
def insertSpec (registry : Registry) (schema : Schema) (entry : String × String) :
    Except SpecError Schema := do
  let chain ← registry.compile entry.2
  schema.declare entry.1 (.rules chain)

theorem inserted_cons (entry : String × String) (rest : List (String × String)) (start : Schema) :
    inserted registry (entry :: rest) start =
      (insertSpec registry start entry).bind (inserted registry rest) := by
  obtain ⟨field, spec⟩ := entry
  unfold inserted insertEach insertSpec
  simp only [List.forM_eq_forM, List.forM_cons]
  cases registry.compile spec with
  | error error => rfl
  | ok chain =>
    by_cases hfield : Path.IsDeclarable field
    · simp only [declareInPlace, declare, hfield, if_true]
      rfl
    · simp only [declareInPlace, declare, hfield, if_false]
      rfl

theorem inserted_eq_foldlM (specs : List (String × String)) (start : Schema) :
    inserted registry specs start = specs.foldlM (insertSpec registry) start := by
  induction specs generalizing start with
  | nil => rfl
  | cons entry rest ih =>
    rw [inserted_cons, List.foldlM_cons, funext ih]
    rfl

/-- Specifications as declarations. -/
def declarations (specs : List (String × String)) : List (String × Declaration) :=
  specs.map fun entry => (entry.1, .spec entry.2)

/-- Declared specifications whose errors are left as they are, are inserted in turn. -/
theorem assemble_declarations (specs : List (String × String)) :
    assemble registry (declarations specs) = inserted registry specs ∅ := by
  rw [assemble, inserted_eq_foldlM]
  generalize (∅ : Schema) = start
  induction specs generalizing start with
  | nil => rfl
  | cons entry rest ih =>
    have hshape (wrap : String → SpecError → SpecError) :
        ((Declaration.spec entry.2).shape registry wrap).bind (declare start entry.1) =
          insertSpec registry start entry := by
      rw [Declaration.shape, insertSpec]
      cases registry.compile entry.2 <;> rfl
    rw [declarations, List.map_cons, extendFrom, hshape, List.foldlM_cons]
    cases insertSpec registry start entry with
    | error error => rfl
    | ok next => exact ih next

/-! ## Attribution -/

/-- Attributing an error to a field leaves its root. -/
theorem mapError_root_inField (field : String) (outcome : Except SpecError Schema) :
    (outcome.mapError (.inField field)).mapError SpecError.root =
      outcome.mapError SpecError.root := by
  cases outcome <;> rfl

-- A block is made alike whether or not its errors are attributed, and so is what holds it.
mutual

theorem mapError_root_shape : (declaration : Declaration) →
    (declaration.shape registry .inField).mapError SpecError.root =
      (declaration.shape registry fun _ error => error).mapError SpecError.root
  | .spec _ | .rules _ => rfl
  | .nested _ fields | .each fields => by
    rw [Declaration.shape, Declaration.shape, Except.mapError_map, Except.mapError_map,
      mapError_root_extendFrom fields ∅]

theorem mapError_root_extendFrom : (fields : List (String × Declaration)) → (start : Schema) →
    (extendFrom registry .inField fields start).mapError SpecError.root =
      (extendFrom registry (fun _ error => error) fields start).mapError SpecError.root
  | [], _ => rfl
  | (field, declaration) :: rest, start => by
    have hunchanged (outcome : Except SpecError Schema) :
        outcome.mapError (fun error => error) = outcome := by
      cases outcome <;> rfl
    have hmade : ((declaration.shape registry .inField).bind (declare start field)).mapError
          SpecError.root =
        ((declaration.shape registry fun _ error => error).bind (declare start field)).mapError
          SpecError.root := by
      rw [Except.mapError_bind, Except.mapError_bind, mapError_root_shape declaration]
    rw [extendFrom_cons, Except.mapError_bind, mapError_root_inField, hmade,
      funext (mapError_root_extendFrom rest), ← Except.mapError_bind, extendFrom_cons, hunchanged]

end

/-- Whatever is declared, attributing errors to fields leaves their roots. -/
theorem mapError_root_build (registry : Registry) (fields : List (String × Declaration)) :
    (build registry fields).mapError SpecError.root =
      (assemble registry fields).mapError SpecError.root :=
  mapError_root_extendFrom fields ∅

/-- An error in a specification names the field, and an invalid path does not. -/
theorem mapError_root_compile (registry : Registry) (specs : List (String × String)) :
    (compile registry specs).mapError SpecError.root =
      (inserted registry specs ∅).mapError SpecError.root := by
  rw [compile, inserted_eq_foldlM]
  refine List.mapError_foldlM_congr (fun schema entry => ?_) ∅ specs
  obtain ⟨field, spec⟩ := entry
  dsimp only [insertSpec]
  cases registry.compile spec <;> rfl

/-! ## Agreement -/

/-- Two ways to a schema succeed together, with the same schema, and fail for the same reason. -/
structure SameButForFields (first second : Except SpecError Schema) : Prop where
  ok_iff : ∀ schema, first = .ok schema ↔ second = .ok schema
  root_eq : ∀ error other, first = .error error → second = .error other → error.root = other.root

theorem sameButForFields_of_mapError {first second : Except SpecError Schema}
    (h : first.mapError SpecError.root = second.mapError SpecError.root) :
    SameButForFields first second := by
  cases first with
  | ok schema =>
    cases second with
    | ok other =>
      cases h
      exact ⟨fun _ => Iff.rfl, fun _ _ herror => by cases herror⟩
    | error other => cases h
  | error error =>
    cases second with
    | ok other => cases h
    | error other =>
      refine ⟨fun _ => by simp, fun _ _ herror hother => ?_⟩
      cases herror
      cases hother
      exact Except.error.inj h

/-- The three ways to the schema of a list of specifications. -/
structure RoutesAgree (registry : Registry) (specs : List (String × String)) : Prop where
  builder_compile : SameButForFields (Builder.addAll registry (declarations specs) {}).build
    (compile registry specs)
  inserted_compile : SameButForFields (inserted registry specs ∅) (compile registry specs)
  builder_inserted : SameButForFields (Builder.addAll registry (declarations specs) {}).build
    (inserted registry specs ∅)

/-- Fields may be invalid, or be declared again and again: whatever the list, each of the ways ends
with the same schema or for the same reason. -/
theorem routesAgree (registry : Registry) (specs : List (String × String)) :
    RoutesAgree registry specs := by
  have hbuild := mapError_root_build registry (declarations specs)
  have hcompile := mapError_root_compile registry specs
  rw [assemble_declarations, ← Builder.build_addAll_empty] at hbuild
  constructor
  case builder_compile => exact sameButForFields_of_mapError (hbuild.trans hcompile.symm)
  case inserted_compile => exact sameButForFields_of_mapError hcompile.symm
  case builder_inserted => exact sameButForFields_of_mapError hbuild

-- only the builder names the field of an invalid path
example :
    let specs := [("a", "bail"), ("a.", "bail")]
    (Builder.addAll ∅ (declarations specs) {}).build = .error (.inField "a." (.invalidPath "a.")) ∧
      inserted ∅ specs ∅ = .error (.invalidPath "a.") ∧
      compile ∅ specs = .error (.invalidPath "a.") := ⟨rfl, rfl, rfl⟩

end Conform.Schema
