import Conform.Path.Basic
import Conform.Rule.Failure
import Conform.Text.Quoted
/-!
# Rules

A rule has a name and a test of a field: its path, its value if it has one, and the tree in which
the field stands. An implicit rule is applied to absent fields too. A rule may have a message of its
own, a template that replaces the message of its failures.
-/

namespace Conform

/-- The test that a rule makes of a path, the value there, and the surrounding tree. -/
abbrev Test := String → Option Value → Value → Except Rejection Unit

structure Rule where
  name : String
  test : Test
  isImplicit : Bool := false
  message? : Option String := none

namespace Rule

/-- A rule that looks at the value only and accepts an absent one. -/
def ofValue (name : String) (check : Value → Except Failure Unit) : Rule where
  name
  test _ value? _ :=
    match value? with
    | none => .ok ()
    | some value => (check value).mapError .invalid

/-- A rule for values that fails with one fixed failure. -/
def ofPredicate (name : String) (failure : Failure) (accepts : Value → Bool) : Rule :=
  ofValue name fun value => if accepts value then .ok () else .error failure

/-- A rule that looks at the value, absent or not, and at the tree, and fails with one fixed
failure. -/
def ofTest (name : String) (failure : Failure) (accepts : Option Value → Value → Bool) : Rule where
  name
  test _ value? tree := if accepts value? tree then .ok () else .error (.invalid failure)

/-- The same rule, applied to absent fields too. -/
def implicit (rule : Rule) : Rule := { rule with isImplicit := true }

def withMessage (rule : Rule) (template : String) : Rule := { rule with message? := some template }

/-- Applies the rule. A failure gets the rule's own message, if there is one; a fault is passed on
as it is. -/
def apply (rule : Rule) : Test := fun path value? tree =>
  match rule.test path value? tree, rule.message? with
  | .error (.invalid failure), some template =>
    .error (.invalid (failure.withMessage (failure.render template path)))
  | result, _ => result

/-- Describes a rule for people. What it tests is not shown. -/
def description (rule : Rule) : String :=
  let message :=
    match rule.message? with
    | some template => "Some(" ++ Text.quoted template ++ ")"
    | none => "None"
  "Rule \x7b name: " ++ Text.quoted rule.name ++ ", implicit: " ++ toString rule.isImplicit ++
    ", message: " ++ message ++ ", check: \"<function>\" \x7d"

end Rule

end Conform
