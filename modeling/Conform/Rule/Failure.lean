import Conform.Text.Template
/-!
# Failures

A rule that does not accept a value says so by a `Failure`. A rule that could not do its work at all
reports a fault instead.
-/

namespace Conform

/-- Why a value was not accepted: a code for programs, a message for people, and the named texts
that the message was made from. -/
structure Failure where
  code : String
  message : String
  params : List (String × String) := []
deriving DecidableEq, Repr

namespace Failure

def withParam (failure : Failure) (key value : String) : Failure :=
  { failure with params := failure.params ++ [(key, value)] }

def withMessage (failure : Failure) (message : String) : Failure := { failure with message }

/-- The value of the first parameter with this name. -/
def param? (failure : Failure) (key : String) : Option String := failure.params.lookup key

/-- Fills a message template: `field` stands for the path of the field, `code` for the code, and any
other key for the parameter of that name. -/
def render (failure : Failure) (template field : String) : String :=
  Template.fill "\x7b"
    (fun key =>
      if key = "field" then some field
      else if key = "code" then some failure.code
      else failure.param? key)
    template

def text (failure : Failure) : String := failure.code ++ ": " ++ failure.message

def required : Failure := ⟨"required", "This field is required.", []⟩

def typeMismatch (code expected : String) : Failure :=
  ⟨code, "This field must be " ++ expected ++ ".", [("expected", expected)]⟩

def invalidFormat (code message : String) : Failure := ⟨code, message, []⟩

def custom (message : String) : Failure := ⟨"custom", message, []⟩

end Failure

/-- What a rule answers when it does not accept: the value is invalid, or the rule could not be
applied. -/
inductive Rejection where
  | invalid (failure : Failure)
  | fault (cause : String)
deriving DecidableEq, Repr

def Rejection.text : Rejection → String
  | invalid failure => failure.text
  | fault cause => "rule could not complete: " ++ cause

end Conform
