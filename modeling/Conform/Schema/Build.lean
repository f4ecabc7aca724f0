import Conform.Schema.Basic
import Conform.Spec.Registry
/-!
# Building schemas

Schemas are built from declarations: specifications to be compiled against a registry, chains that
are given as they are, and blocks of declarations. The first error, in the order in which
declarations are written and with the contents of a block before the block itself, refuses the whole
schema.
-/

namespace Conform

/-- What is to be declared for a field. -/
inductive Declaration where
  | spec (text : String)
  | rules (chain : Chain)
  | nested (nullable : Bool) (fields : List (String × Declaration))
  | each (fields : List (String × Declaration))

mutual

/-- The shape of a declaration. `wrap` tells what becomes of an error in a field. -/
def Declaration.shape (registry : Registry) (wrap : String → SpecError → SpecError) :
    Declaration → Except SpecError Shape
  | .spec text => (registry.compile text).map .rules
  | .rules chain => .ok (.rules chain)
  | .nested nullable fields => (Schema.extendFrom registry wrap fields ∅).map (.nested nullable)
  | .each fields => (Schema.extendFrom registry wrap fields ∅).map .each

/-- Declares fields one after another in a schema. -/
def Schema.extendFrom (registry : Registry) (wrap : String → SpecError → SpecError) :
    List (String × Declaration) → Schema → Except SpecError Schema
  | [], schema => .ok schema
  | (field, declaration) :: rest, schema =>
    match (declaration.shape registry wrap).bind (Schema.declare schema field) with
    | .ok extended => Schema.extendFrom registry wrap rest extended
    | .error error => .error (wrap field error)

end

/-- One declaration is added at a time. Errors are attributed to its field. -/
theorem Schema.extendFrom_cons (registry : Registry) (wrap : String → SpecError → SpecError)
    (field : String) (declaration : Declaration) (rest : List (String × Declaration))
    (schema : Schema) :
    extendFrom registry wrap ((field, declaration) :: rest) schema =
      (((declaration.shape registry wrap).bind (declare schema field)).mapError (wrap field)).bind
        (extendFrom registry wrap rest) := by
  rw [extendFrom]
  cases (declaration.shape registry wrap).bind (declare schema field) <;> rfl

namespace Schema

/-- The schema of a list of declarations. An error is attributed to its field and to the fields of
the blocks around it. -/
def build (registry : Registry) (fields : List (String × Declaration)) : Except SpecError Schema :=
  extendFrom registry .inField fields ∅

/-- The schema of a list of declarations, with errors as they arise. -/
def assemble (registry : Registry) (fields : List (String × Declaration)) :
    Except SpecError Schema :=
  extendFrom registry (fun _ error => error) fields ∅

/-- The schema of a list of specifications. An error in a specification is attributed to its field;
an invalid path speaks for itself. -/
def compile (registry : Registry) (specs : List (String × String)) : Except SpecError Schema :=
  specs.foldlM (fun schema (field, spec) => do
    let chain ← (registry.compile spec).mapError (.inField field)
    declare schema field (.rules chain)) ∅

end Schema

end Conform
