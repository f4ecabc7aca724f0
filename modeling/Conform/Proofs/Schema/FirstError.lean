import Conform.Proofs.Spec.Attribution
import Conform.Schema.Builder

/-!
# The first error of a schema

A schema is refused with the first error that its declarations give, in the order in which they are
written and with the contents of a block before the block itself. The error names the fields that
lead to its declaration, from the outside in. A schema without errors holds what is declared, one
declaration inserted after another.
-/

namespace Conform

/-! ## Builders -/

namespace Builder

theorem declare_of_error {builder : Builder} {error : SpecError} (h : builder.error? = some error)
    (field : String) (made : Except SpecError Shape) : builder.declare field made = builder := by
  rw [declare, h]

theorem build_declare {builder : Builder} (h : builder.error? = none) (field : String)
    (made : Except SpecError Shape) :
    (builder.declare field made).build =
      (made.bind (Schema.declare builder.schema field)).mapError (.inField field) := by
  rw [declare, h]
  cases made.bind (Schema.declare builder.schema field) with
  | ok schema => simp [build, Except.mapError]
  | error error => rfl

-- A builder that has met an error stands for a build that has ended, so the two agree on outcomes
-- only: the declarations behind an error still pass through the builder.
mutual

theorem shape_eq (registry : Registry) : (declaration : Declaration) →
    shape registry declaration = declaration.shape registry .inField
  | .spec _ | .rules _ => rfl
  | .nested _ fields | .each fields => by
    rw [shape, Declaration.shape, build_addAll registry fields {}]
    rfl

theorem build_addAll (registry : Registry) : (fields : List (String × Declaration)) →
    (builder : Builder) → (addAll registry fields builder).build =
      builder.build.bind (Schema.extendFrom registry .inField fields)
  | [], builder => by
    rw [addAll]
    cases builder.build <;> rfl
  | (field, declaration) :: rest, builder => by
    rw [addAll, build_addAll registry rest, shape_eq registry declaration]
    cases h : builder.error? with
    | some error =>
      rw [declare_of_error h, build, h]
      rfl
    | none =>
      rw [build_declare h, build, h]
      exact (Schema.extendFrom_cons registry .inField field declaration rest builder.schema).symm

end

/-- A builder that starts afresh gives what is built from the list of its declarations. -/
theorem build_addAll_empty (registry : Registry) (fields : List (String × Declaration)) :
    (addAll registry fields {}).build = Schema.build registry fields :=
  build_addAll registry fields {}

end Builder

/-! ## The declarations in order -/

/-- A declaration with its field and the fields of the blocks around it, outermost first. -/
structure Visit where
  around : List String
  field : String
  declaration : Declaration

namespace Visit

/-- The same declaration with one more block around it. -/
def under (outer : String) (visit : Visit) : Visit := { visit with around := outer :: visit.around }

/-- What is wrong with the specification of a declaration. Only a specification is compiled. -/
def specError? (registry : Registry) (visit : Visit) : Option SpecError :=
  match visit.declaration with
  | .spec text =>
    match registry.compile text with
    | .ok _ => none
    | .error error => some error
  | _ => none

/-- What is wrong with a declaration apart from the declarations in it: its specification, or else
its path. -/
def complaint? (registry : Registry) (visit : Visit) : Option SpecError :=
  (visit.specError? registry).or
    (if Path.IsDeclarable visit.field then none else some (.invalidPath visit.field))

/-- An error in a declaration, with one layer for every block around it and one for its field. -/
def locate (visit : Visit) (cause : SpecError) : SpecError :=
  (visit.around ++ [visit.field]).foldr .inField cause

/-- The first complaint about declarations in their order. -/
def firstError? (registry : Registry) (visits : List Visit) : Option SpecError :=
  visits.findSome? fun visit => (visit.complaint? registry).map visit.locate

end Visit

mutual

/-- A declaration after those in it, in the order in which a builder comes to them. -/
def Declaration.visits (around : List String) (field : String) : Declaration → List Visit
  | .spec text => [⟨around, field, .spec text⟩]
  | .rules chain => [⟨around, field, .rules chain⟩]
  | .nested nullable fields =>
    Declaration.allVisits (around ++ [field]) fields ++ [⟨around, field, .nested nullable fields⟩]
  | .each fields =>
    Declaration.allVisits (around ++ [field]) fields ++ [⟨around, field, .each fields⟩]

/-- All declarations of a list with those in them. -/
def Declaration.allVisits (around : List String) : List (String × Declaration) → List Visit
  | [] => []
  | (field, declaration) :: rest =>
    declaration.visits around field ++ Declaration.allVisits around rest

end

mutual

/-- The shape of a declaration with which nothing is wrong. A specification that does not compile
counts as one without rules. -/
def Declaration.compiled (registry : Registry) : Declaration → Shape
  | .spec text => .rules ((registry.compile text).toOption.getD {})
  | .rules chain => .rules chain
  | .nested nullable fields => .nested nullable (Schema.insertAll registry fields ∅)
  | .each fields => .each (Schema.insertAll registry fields ∅)

/-- Inserts declarations one after another. -/
def Schema.insertAll (registry : Registry) : List (String × Declaration) → Schema → Schema
  | [], schema => schema
  | (field, declaration) :: rest, schema =>
    Schema.insertAll registry rest (schema.insert field (declaration.compiled registry))

end

/-! ## Complaints -/

namespace Visit

variable {registry : Registry} {visits others : List Visit}

theorem firstError?_append :
    firstError? registry (visits ++ others) =
      (firstError? registry visits).or (firstError? registry others) :=
  List.findSome?_append

theorem firstError?_map_under (outer : String) :
    firstError? registry (visits.map (under outer)) =
      (firstError? registry visits).map (.inField outer) := by
  rw [firstError?, firstError?, List.findSome?_map, List.map_findSome?]
  congr 1
  funext visit
  change (visit.complaint? registry).map (SpecError.inField outer ∘ visit.locate) = _
  exact (Option.map_map _ _ _).symm

/-- A path is looked at once what is declared for it has been made. -/
theorem declare_eq_firstError? {field : String} {declaration : Declaration}
    (h : (Visit.mk [] field declaration).specError? registry = none) (start : Schema)
    (shape : Shape) :
    (Schema.declare start field shape).mapError (.inField field) =
      (firstError? registry [⟨[], field, declaration⟩]).elim (.ok (start.insert field shape))
        .error := by
  rw [firstError?, List.findSome?_singleton, complaint?, h, Schema.declare]
  by_cases hfield : Path.IsDeclarable field <;> simp [hfield, locate, Except.mapError]

theorem complaint?_eq_none_iff {visit : Visit} :
    visit.complaint? registry = none ↔
      visit.specError? registry = none ∧ Path.IsDeclarable visit.field := by
  rw [complaint?]
  cases visit.specError? registry <;> simp

theorem firstError?_eq_none_iff :
    firstError? registry visits = none ↔
      ∀ visit ∈ visits, visit.specError? registry = none ∧ Path.IsDeclarable visit.field := by
  simp [firstError?, List.findSome?_eq_none_iff, complaint?_eq_none_iff]

/-- This is what is wrong with the visit, and nothing is wrong with those before it. -/
def IsFirstComplaint (registry : Registry) (visits : List Visit) (visit : Visit)
    (cause : SpecError) : Prop :=
  ∃ before after, visits = before ++ visit :: after ∧
    (∀ v ∈ before, v.complaint? registry = none) ∧ visit.complaint? registry = some cause

theorem firstError?_eq_some_iff {error : SpecError} :
    firstError? registry visits = some error ↔
      ∃ visit cause, IsFirstComplaint registry visits visit cause ∧ error = visit.locate cause := by
  rw [firstError?, List.findSome?_eq_some_iff]
  constructor
  · rintro ⟨before, visit, after, hvisits, herror, hbefore⟩
    obtain ⟨cause, hcause, rfl⟩ := Option.map_eq_some_iff.mp herror
    exact ⟨visit, cause, ⟨before, after, hvisits,
      fun v hv => Option.map_eq_none_iff.mp (hbefore v hv), hcause⟩, rfl⟩
  · rintro ⟨visit, cause, ⟨before, after, hvisits, hbefore, hcause⟩, rfl⟩
    exact ⟨before, visit, after, hvisits, by rw [hcause]; rfl,
      fun v hv => by rw [hbefore v hv]; rfl⟩

@[simp] theorem root_locate (visit : Visit) (cause : SpecError) :
    (visit.locate cause).root = cause.root := by
  rw [locate]
  induction visit.around ++ [visit.field] with
  | nil => rfl
  | cons outer rest ih => exact ih

theorem namesNoField_of_complaint? (h : registry.NamesNoField) {visit : Visit} {cause : SpecError}
    (hcause : visit.complaint? registry = some cause) : cause.NamesNoField := by
  rw [complaint?, Option.or_eq_some_iff] at hcause
  rcases hcause with hspec | ⟨-, hpath⟩
  · rw [specError?] at hspec
    split at hspec
    · split at hspec <;> cases hspec
      exact h.compile ‹_›
    · cases hspec
  · split at hpath <;> cases hpath
    rfl

end Visit

mutual

theorem Declaration.visits_cons (outer : String) (around : List String) (field : String) :
    (declaration : Declaration) → declaration.visits (outer :: around) field =
      (declaration.visits around field).map (Visit.under outer)
  | .spec _ | .rules _ => rfl
  | .nested _ fields | .each fields => by
    rw [visits, visits, List.map_append, List.cons_append,
      Declaration.allVisits_cons outer (around ++ [field]) fields]
    rfl

theorem Declaration.allVisits_cons (outer : String) (around : List String) :
    (fields : List (String × Declaration)) → Declaration.allVisits (outer :: around) fields =
      (Declaration.allVisits around fields).map (Visit.under outer)
  | [] => rfl
  | (field, declaration) :: rest => by
    rw [allVisits, allVisits, List.map_append,
      Declaration.visits_cons outer around field declaration,
      Declaration.allVisits_cons outer around rest]

end

-- By the recursion of the build. What is wrong in a block is wrong in its field, so its errors get
-- one layer more; the path of the block itself is looked at only when nothing is wrong in it.
mutual

theorem Declaration.declare_shape (registry : Registry) (field : String) (start : Schema) :
    (declaration : Declaration) →
      ((declaration.shape registry .inField).bind (Schema.declare start field)).mapError
          (.inField field) =
        (Visit.firstError? registry (declaration.visits [] field)).elim
          (.ok (start.insert field (declaration.compiled registry))) .error
  | .spec text => by
    rw [Declaration.shape, Declaration.compiled, Declaration.visits]
    cases h : registry.compile text with
    | ok chain =>
      exact Visit.declare_eq_firstError? (by simp [Visit.specError?, h]) start (.rules chain)
    | error error => simp [Visit.firstError?, Visit.complaint?, Visit.specError?, h, Visit.locate,
        Except.map, Except.bind, Except.mapError]
  | .rules chain => by
    rw [Declaration.shape, Declaration.compiled, Declaration.visits]
    exact Visit.declare_eq_firstError? rfl start (.rules chain)
  | .nested _ fields | .each fields => by
    rw [Declaration.shape, Declaration.compiled, Declaration.visits, List.nil_append,
      Declaration.allVisits_cons, Visit.firstError?_append, Visit.firstError?_map_under,
      Schema.extendFrom_eq registry fields]
    cases Visit.firstError? registry (Declaration.allVisits [] fields) with
    | none => exact Visit.declare_eq_firstError? rfl start _
    | some error => rfl

theorem Schema.extendFrom_eq (registry : Registry) : (fields : List (String × Declaration)) →
    (start : Schema) → Schema.extendFrom registry .inField fields start =
      (Visit.firstError? registry (Declaration.allVisits [] fields)).elim
        (.ok (Schema.insertAll registry fields start)) .error
  | [], start => rfl
  | (field, declaration) :: rest, start => by
    rw [Schema.extendFrom_cons, Declaration.declare_shape registry field start declaration,
      Declaration.allVisits, Visit.firstError?_append, Schema.insertAll]
    cases Visit.firstError? registry (declaration.visits [] field) with
    | none => exact Schema.extendFrom_eq registry rest _
    | some error => rfl

end

/-! ## Builds -/

namespace Schema

/-- A build of schemas from declarations. It succeeds just when every specification compiles and
every path may be declared, at any depth, and then inserts the declarations one after another.
Otherwise it gives the first error in the order of the visits, with a layer for each field that
leads to it. The error at the bottom is what is wrong, if constructors name no fields by themselves,
and in any case what is wrong without the fields that a constructor names. -/
structure IsBuild (build : Registry → List (String × Declaration) → Except SpecError Schema) :
    Prop where
  ok_iff : ∀ registry fields schema, build registry fields = .ok schema ↔
    (∀ visit ∈ Declaration.allVisits [] fields,
      visit.specError? registry = none ∧ Path.IsDeclarable visit.field) ∧
    schema = insertAll registry fields ∅
  error_iff : ∀ registry fields error, build registry fields = .error error ↔
    ∃ visit cause, Visit.IsFirstComplaint registry (Declaration.allVisits [] fields) visit cause ∧
      error = visit.locate cause
  root : ∀ registry fields error, build registry fields = .error error →
    ∃ visit cause, Visit.IsFirstComplaint registry (Declaration.allVisits [] fields) visit cause ∧
      error = visit.locate cause ∧ error.root = cause.root ∧
      (registry.NamesNoField → error.root = cause)

theorem isBuild_build : IsBuild build where
  ok_iff registry fields schema := by
    rw [build, extendFrom_eq, ← Visit.firstError?_eq_none_iff]
    cases Visit.firstError? registry (Declaration.allVisits [] fields) <;> simp [eq_comm]
  error_iff registry fields error := by
    rw [build, extendFrom_eq, ← Visit.firstError?_eq_some_iff]
    cases Visit.firstError? registry (Declaration.allVisits [] fields) <;> simp
  root registry fields error herror := by
    have hfirst : Visit.firstError? registry (Declaration.allVisits [] fields) = some error := by
      rw [build, extendFrom_eq] at herror
      cases hsome : Visit.firstError? registry (Declaration.allVisits [] fields) <;>
        rw [hsome] at herror <;> cases herror
      rfl
    obtain ⟨visit, cause, hvisit, rfl⟩ := Visit.firstError?_eq_some_iff.mp hfirst
    refine ⟨visit, cause, hvisit, rfl, visit.root_locate cause, fun hregistry => ?_⟩
    obtain ⟨-, -, -, -, hcause⟩ := hvisit
    rw [Visit.root_locate]
    exact Visit.namesNoField_of_complaint? hregistry hcause

/-- The contents of a block come before its path. -/
example : build ∅ [("user.", .nested false [("age", .spec "years")]), ("", .rules {})] =
    .error (.inField "user." (.inField "age" (.unknownRule "years"))) := rfl

end Schema

/-- A builder keeps the first error only, and runs the builders of blocks whether or not there has
been one. Still it builds what its declarations say. -/
theorem Builder.isBuild_addAll :
    Schema.IsBuild fun registry fields => (addAll registry fields {}).build := by
  simp only [build_addAll_empty]
  exact Schema.isBuild_build

/-- The error at the bottom of a failed build is all that is wrong with the declaration. -/
def Builder.RootsAtCause (registry : Registry) (fields : List (String × Declaration)) : Prop :=
  ∀ error, (addAll registry fields {}).build = .error error →
    ∃ visit cause, Visit.IsFirstComplaint registry (Declaration.allVisits [] fields) visit cause ∧
      error = visit.locate cause ∧ error.root = cause

/-- A constructor may name a field by itself. The error at the bottom is without that field too. -/
theorem Builder.not_rootsAtCause_of_constructor_naming_field :
    ¬RootsAtCause
      (Registry.register ∅ "street" fun _ => .error (.inField "line1" (.unknownRule "nope")))
      [("home", .spec "street")] := by
  intro h
  let registry := Registry.register ∅ "street" fun _ =>
    .error (.inField "line1" (.unknownRule "nope"))
  have hbuild : (addAll registry [("home", .spec "street")] {}).build =
      .error (.inField "home" (.inField "line1" (.unknownRule "nope"))) := rfl
  obtain ⟨visit, cause, hfirst, hlocate, hroot⟩ := h _ hbuild
  have hvisit : visit = ⟨[], "home", .spec "street"⟩ := by
    obtain ⟨before, after, hvisits, -⟩ := hfirst
    have hmem : visit ∈ [Visit.mk [] "home" (.spec "street")] := by
      rw [show [Visit.mk [] "home" (.spec "street")] = before ++ visit :: after from hvisits]
      simp
    exact List.mem_singleton.mp hmem
  -- the cause is what the constructor says, with its field, and the root has no field
  rw [← hroot, hvisit] at hlocate
  cases hlocate

end Conform
