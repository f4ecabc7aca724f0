import Conform.Rule.Basic
/-!
# Membership

Rules that look a scalar up in a list of texts. Null, lists and objects have no text and are in no
list.
-/

namespace Conform.Rule

/-- Whether the text of a scalar is one of the texts. -/
def isListed (value : Value) (texts : List String) : Bool := value.scalarText?.any texts.contains

def inList (allowed : List String) : Rule :=
  let listed := ", ".intercalate allowed
  ofPredicate "in_list"
    ⟨"in_list", "This field must be one of: " ++ listed ++ ".", [("values", listed)]⟩
    fun value => isListed value allowed

def notIn (denied : List String) : Rule :=
  let listed := ", ".intercalate denied
  ofPredicate "not_in"
    ⟨"not_in", "This field must not be one of: " ++ listed ++ ".", [("values", listed)]⟩
    fun value => !isListed value denied

end Conform.Rule
