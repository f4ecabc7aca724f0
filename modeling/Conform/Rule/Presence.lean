import Conform.Rule.Basic
import Conform.Text.Blank
/-!
# Presence

Rules on whether a field is there and holds something. Null, blank texts, empty lists and empty
objects hold nothing; numbers and truth values always do.
-/

namespace Conform

def Value.isEmpty : Value → Bool
  | .null => true
  | .str text => Text.isBlank text
  | .arr items => items.isEmpty
  | .obj fields => fields.isEmpty
  | .bool _ | .num _ => false

/-- Whether a field is present and holds something. -/
def Value.isFilled (value? : Option Value) : Bool := value?.any fun value => !value.isEmpty

namespace Rule

def required : Rule :=
  (ofTest "required" .required fun value? _ => Value.isFilled value?).implicit

/-- The field is required when any of the other fields of the same tree is filled. -/
def requiredWith (others : List String) : Rule :=
  let listed := " / ".intercalate others
  let failure : Failure :=
    ⟨"required_with", "This field is required when " ++ listed ++ " is present.",
      [("values", listed)]⟩
  (ofTest "required_with" failure fun value? tree =>
    !(others.any fun other => Value.isFilled (tree.resolve? other)) ||
      Value.isFilled value?).implicit

/-- The field exists, whatever its value. -/
def present : Rule :=
  (ofTest "present" ⟨"present", "This field must be present.", []⟩ fun value? _ =>
    value?.isSome).implicit

/-- The field holds something if it exists. -/
def filled : Rule :=
  ofPredicate "filled" ⟨"filled", "This field must not be empty.", []⟩ fun value => !value.isEmpty

end Rule

end Conform
