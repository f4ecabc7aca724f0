import Conform.Rule.Basic
/-!
# Flags

Rules on values that say yes or no.
-/

namespace Conform.Rule

/-- Whether a value is the flag itself, the number that stands for it, or one of the words. -/
def isFlag (flag : Bool) (words : List String) : Value → Bool
  | .bool b => b == flag
  | .num n => n.signed64? == some (if flag then 1 else 0)
  | .str text => words.contains text
  | _ => false

def boolean : Rule :=
  ofPredicate "boolean" ⟨"boolean", "This field must be true or false.", []⟩ fun value =>
    isFlag true ["1"] value || isFlag false ["0"] value

def accepted : Rule :=
  (ofTest "accepted" ⟨"accepted", "This field must be accepted.", []⟩ fun value? _ =>
    value?.any (isFlag true ["1", "true", "yes", "on"])).implicit

def declined : Rule :=
  (ofTest "declined" ⟨"declined", "This field must be declined.", []⟩ fun value? _ =>
    value?.any (isFlag false ["0", "false", "no", "off"])).implicit

end Conform.Rule
