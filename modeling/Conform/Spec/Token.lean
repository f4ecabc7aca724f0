import Conform.Spec.Error
import Conform.Text.Pieces
import Conform.Value.Basic
/-!
# Rule specifications

A specification such as `required|min:3|in_list:a,b` is a list of tokens with bars between them. A
token is a name and, after a colon, arguments with commas between them. Nothing is escaped, so an
argument holds neither a bar nor a comma.
-/

namespace Conform

/-- An argument as it was written. -/
structure Argument where
  raw : String
deriving DecidableEq, Repr

/-- What an argument denotes. -/
inductive Argument.Reading where
  | int (n : Int)
  | real (x : Binary64)
  | text
deriving DecidableEq, Repr

namespace Argument

/-- A whole number of the signed 64-bit range is read as such; any other numeral of a finite number
is rounded; everything else is text. -/
def reading (argument : Argument) : Reading :=
  match (Numeral.integer? argument.raw.toList).filter (Number.IsSigned64 ·) with
  | some n => .int n
  | none =>
    match (Numeral.decimal? argument.raw.toList).filter (Binary64.IsFinite ·) with
    | some x => .real x
    | none => .text

def number? (argument : Argument) : Option Binary64 :=
  match argument.reading with
  | .int n => some (.ofInt n)
  | .real x => some x
  | .text => none

def int? (argument : Argument) : Option Int :=
  match argument.reading with
  | .int n => some n
  | _ => none

def text? (argument : Argument) : Option String :=
  match argument.reading with
  | .text => some argument.raw
  | _ => none

end Argument

/-- A rule name with its arguments. -/
structure Token where
  name : String
  args : List Argument := []
deriving DecidableEq, Repr

namespace Token

/-- Names begin with an ASCII letter or an underscore and go on with ASCII letters, digits and
underscores. -/
def IsName (name : String) : Prop :=
  match name.toList with
  | [] => False
  | c :: rest => (c.isAlpha ∨ c = '_') ∧ rest.all fun d => d.isAlphanum || d == '_'

instance (name : String) : Decidable (IsName name) := by
  unfold IsName
  split <;> infer_instance

/-- Reads one token. -/
def parse (text : String) : Except SpecError Token :=
  match Text.cut ':' text with
  | (name, args?) =>
    if name = "" then .error (.malformedToken text "missing rule name")
    else if IsName name then
      .ok ⟨name, (args?.map fun args => (Text.pieces ',' args).map Argument.mk).getD []⟩
    else .error (.malformedToken text "rule names must match [a-zA-Z_][a-zA-Z0-9_]*")

/-- Reads a specification. The error is that of its first malformed token. -/
def parseSpec (spec : String) : Except SpecError (List Token) :=
  if spec = "" then .error .emptySpec else (Text.pieces '|' spec).mapM parse

/-- The text of a token. -/
def render (token : Token) : String :=
  if token.args = [] then token.name
  else token.name ++ ":" ++ ",".intercalate (token.args.map Argument.raw)

/-- The text of a specification. -/
def renderSpec (tokens : List Token) : String := "|".intercalate (tokens.map render)

end Token

end Conform
