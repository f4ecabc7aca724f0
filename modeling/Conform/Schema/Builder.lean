import Conform.Schema.Build
/-!
# Builders

A builder takes one declaration after another. It keeps the first error, attributed to its field,
and lets all later declarations pass. A block has a builder of its own, which is run whether or not
there has been an error before; only what it gives is looked at or not. The outcome is that of
building the schema from the list of declarations at once.
-/

namespace Conform

/-- A schema under construction, with the first error that was met. -/
structure Builder where
  schema : Schema := ∅
  error? : Option SpecError := none

namespace Builder

/-- Declares what was made for a field, or keeps the error. -/
def declare (builder : Builder) (field : String) (made : Except SpecError Shape) : Builder :=
  match builder.error? with
  | some _ => builder
  | none =>
    match made.bind (Schema.declare builder.schema field) with
    | .ok schema => { builder with schema }
    | .error error => { builder with error? := some (error.inField field) }

/-- The schema, unless there was an error. -/
def build (builder : Builder) : Except SpecError Schema :=
  match builder.error? with
  | some error => .error error
  | none => .ok builder.schema

mutual

/-- What is made of a declaration. A block is built by a builder of its own. -/
def shape (registry : Registry) : Declaration → Except SpecError Shape
  | .spec text => (registry.compile text).map .rules
  | .rules chain => .ok (.rules chain)
  | .nested nullable fields => (addAll registry fields {}).build.map (.nested nullable)
  | .each fields => (addAll registry fields {}).build.map .each

/-- Takes declarations one after another. -/
def addAll (registry : Registry) : List (String × Declaration) → Builder → Builder
  | [], builder => builder
  | (field, declaration) :: rest, builder =>
    addAll registry rest (builder.declare field (shape registry declaration))

end

end Builder

end Conform
