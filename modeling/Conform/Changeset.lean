import Conform.Text.Template
import Conform.Validation
/-!
# Changesets

A changeset is a validator with errors of its own kind, which it can turn into a report. It is used
like a schema. Its messages may be templates with placeholders such as `%{count}`.
-/

namespace Conform

/-- A validator with its own kind of errors. No errors make an empty report. -/
structure Changeset where
  Errors : Type
  run : Value → Errors
  report : Errors → Report

/-- A changeset decides for itself what is unknown, so the options have no effect. -/
instance : Requirements Changeset :=
  ⟨fun changeset _ tree => .ok (changeset.report (changeset.run tree))⟩

/-- Fills the placeholders of a template. A placeholder that no parameter has the name of is left as
it is. -/
def interpolate (template : String) (params : List (String × String)) : String :=
  Template.fill "%\x7b" (fun key => params.lookup key) template

end Conform
