/-!
# Errors in a schema

A schema that is declared wrongly is refused as a whole. A `SpecError` tells why, and in which of
the declared fields.
-/

namespace Conform

inductive SpecError where
  | emptySpec
  | malformedToken (token reason : String)
  | unknownRule (name : String)
  | invalidArgument (rule reason : String)
  | invalidPath (path : String)
  | inField (field : String) (source : SpecError)
deriving DecidableEq, Repr

namespace SpecError

def message : SpecError → String
  | emptySpec => "rule specification is empty"
  | malformedToken token reason => "malformed rule token `" ++ token ++ "`: " ++ reason
  | unknownRule name => "unknown rule `" ++ name ++ "`"
  | invalidArgument rule reason => "invalid arguments for rule `" ++ rule ++ "`: " ++ reason
  | invalidPath path => "invalid field path `" ++ path ++ "`"
  | inField field source => "field `" ++ field ++ "`: " ++ source.message

/-- The error itself, without the fields in which it occurred. -/
def root : SpecError → SpecError
  | inField _ source => source.root
  | error => error

@[simp] theorem root_inField (field : String) (source : SpecError) :
    (inField field source).root = source.root := rfl

@[simp] theorem root_root (error : SpecError) : error.root.root = error.root := by
  induction error with
  | inField _ _ ih => exact ih
  | _ => rfl

end SpecError

end Conform
