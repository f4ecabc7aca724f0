import Conform.Rule.Basic
/-!
# Kinds of values

Rules on what kind of value a field holds.
-/

namespace Conform.Rule

/-- A rule on the kind of a value. -/
def ofKind (name expected : String) (accepts : Value → Bool) : Rule :=
  ofPredicate name (.typeMismatch name expected) accepts

def string : Rule := ofKind "string" "a string" fun
  | .str _ => true
  | _ => false

def numeric : Rule := ofKind "numeric" "a number" fun
  | .num _ => true
  | _ => false

/-- A whole number, in whichever way it is held. -/
def integer : Rule := ofKind "integer" "an integer" fun
  | .num n => n.isWhole
  | _ => false

def array : Rule := ofKind "array" "an array" fun
  | .arr _ => true
  | _ => false

def map : Rule := ofKind "map" "an object" fun
  | .obj _ => true
  | _ => false

end Conform.Rule
