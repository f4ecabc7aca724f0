import Conform.Rule.Comparison
import Conform.Rule.Flag
import Conform.Rule.Format
import Conform.Rule.Kind
import Conform.Rule.Membership
import Conform.Rule.Presence
import Conform.Rule.Size
import Conform.Spec.Registry
/-!
# The built-in rules

The registry of the rules that every specification may name. Each constructor reads the arguments
that its rule needs and refuses all others.
-/

namespace Conform

namespace Arguments

/-- For rules without arguments. -/
def none (rule : String) (made : Rule) : Constructor := fun args =>
  if args = [] then .ok made else .error (.invalidArgument rule "takes no arguments")

def number (rule : String) (argument : Argument) : Except SpecError Binary64 :=
  match argument.number? with
  | some x => .ok x
  | Option.none => .error (.invalidArgument rule ("`" ++ argument.raw ++ "` is not a number"))

/-- For rules with one number. -/
def oneNumber (rule : String) (make : Binary64 → Rule) : Constructor
  | [arg] => (number rule arg).map make
  | args =>
    .error (.invalidArgument rule ("expected 1 numeric argument, got " ++ toString args.length))

/-- For rules with a lower and an upper bound, which must not be reversed. -/
def twoNumbers (rule : String) (make : Binary64 → Binary64 → Rule) : Constructor
  | [low, high] => do
    let low ← number rule low
    let high ← number rule high
    if low.le high then return make low high
    else
      throw (.invalidArgument rule
        ("lower bound " ++ Rule.sizeText low ++ " exceeds upper bound " ++ Rule.sizeText high))
  | args =>
    .error (.invalidArgument rule ("expected 2 numeric arguments, got " ++ toString args.length))

/-- The reason for refusing anything but one argument that is not empty. -/
def oneTextExpected : String := "expected exactly 1 non-empty argument"

/-- For rules with one text that is not empty. -/
def oneText (rule : String) (make : String → Except SpecError Rule) : Constructor
  | [arg] =>
    if arg.raw = "" then .error (.invalidArgument rule oneTextExpected) else make arg.raw
  | _ => .error (.invalidArgument rule oneTextExpected)

/-- For rules with a list of texts. -/
def someTexts (rule : String) (make : List String → Rule) : Constructor
  | [] => .error (.invalidArgument rule "expected at least 1 argument")
  | args => .ok (make (args.map Argument.raw))

end Arguments

namespace Registry

open Arguments

/-- The names of the built-in rules and their constructors. Why a pattern is refused is told in the
words of `Regex.SyntaxError.message`, which are this library's own. -/
def builtinRules : List (String × Constructor) :=
  [("required", Arguments.none "required" .required),
    ("required_with", someTexts "required_with" .requiredWith),
    ("present", Arguments.none "present" .present),
    ("filled", Arguments.none "filled" .filled),
    ("string", Arguments.none "string" .string),
    ("numeric", Arguments.none "numeric" .numeric),
    ("integer", Arguments.none "integer" .integer),
    ("array", Arguments.none "array" .array),
    ("map", Arguments.none "map" .map),
    ("min", oneNumber "min" .min),
    ("max", oneNumber "max" .max),
    ("between", twoNumbers "between" .between),
    ("size", oneNumber "size" .size),
    ("in_list", someTexts "in_list" .inList),
    ("not_in", someTexts "not_in" .notIn),
    ("email", Arguments.none "email" .email),
    ("regex", oneText "regex" fun source =>
      (Rule.regex source).mapError fun error => .invalidArgument "regex" error.message),
    ("boolean", Arguments.none "boolean" .boolean),
    ("accepted", Arguments.none "accepted" .accepted),
    ("declined", Arguments.none "declined" .declined),
    ("same", oneText "same" fun other => .ok (.same other)),
    ("different", oneText "different" fun other => .ok (.different other))]

/-- The registry of the built-in rules. The name `in` is another name of `in_list`. All reasons for
refusing arguments are worded as fixed for these rules, except those for refusing a pattern (see
`Regex.SyntaxError.message`). -/
def builtin : Registry := (ofList builtinRules).registerAlias "in" "in_list"

end Registry

end Conform
