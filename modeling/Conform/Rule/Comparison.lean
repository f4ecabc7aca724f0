import Conform.Rule.Basic
/-!
# Comparisons

Rules that compare a field with another field of the same tree.
-/

namespace Conform

/-- Whether two fields hold equal values, or are both absent. -/
def Value.sameField : Option Value → Option Value → Bool
  | none, none => true
  | some a, some b => a.same b
  | _, _ => false

namespace Rule

def same (other : String) : Rule :=
  ofTest "same" ⟨"same", "This field must match " ++ other ++ ".", [("other", other)]⟩
    fun value? tree => Value.sameField value? (tree.resolve? other)

def different (other : String) : Rule :=
  ofTest "different"
    ⟨"different", "This field must differ from " ++ other ++ ".", [("other", other)]⟩
    fun value? tree => !Value.sameField value? (tree.resolve? other)

end Rule

end Conform
