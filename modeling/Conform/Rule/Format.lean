import Conform.Regex.Parser
import Conform.Regex.Search
import Conform.Rule.Basic
/-!
# Formats

Rules on what a text looks like: email addresses, and texts in which a pattern is found.
-/

namespace Conform

/-- Whether a value is a text in which a pattern is found. -/
def Value.isMatchedBy (value : Value) (pattern : Regex.Pattern) : Bool :=
  match value with
  | .str text => pattern.isFoundIn text
  | _ => false

namespace EmailAddress

open Regex

/-- The characters of the part before the at sign. -/
def localChars : CharSet :=
  .union .asciiAlnum (.ofList (".!#$%&'*+/=?^_`\x7b|\x7d~-".toList.map CharSet.single))

/-- The characters within a label. -/
def labelChars : CharSet := .union .asciiAlnum (.single '-')

/-- A label of a domain: at most 63 letters, digits and hyphens, with no hyphen at the ends. -/
def label : Pattern :=
  .seq (.chars .asciiAlnum)
    (.optional (.seq (.rep (.chars labelChars) 0 (some 61)) (.chars .asciiAlnum)))

/-- Labels with dots between them. -/
def domain : Pattern := .seq label (.star (.seq (.char '.') label))

/-- The whole text is an email address. -/
def pattern : Pattern :=
  .sequence [.assertion .textStart, .plus (.chars localChars), .char '@', domain,
    .assertion .textEnd]

end EmailAddress

namespace Rule

/-- The value is a text that has the form of an email address. -/
def email : Rule :=
  ofPredicate "email" (.invalidFormat "email" "This field must be a valid email address.")
    fun value => value.isMatchedBy EmailAddress.pattern

/-- The value is a text in which the pattern is found. The failure quotes the pattern as it was
written. -/
def matching (source : String) (pattern : Regex.Pattern) : Rule :=
  ofPredicate "regex"
    ((Failure.invalidFormat "regex" "This field format is invalid.").withParam "pattern" source)
    fun value => value.isMatchedBy pattern

/-- The rule of a pattern that is still to be read. -/
def regex (source : String) : Except Regex.SyntaxError Rule :=
  (Regex.Pattern.parse source).map (matching source)

end Rule

end Conform
