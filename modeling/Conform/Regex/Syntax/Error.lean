/-!
# Errors of patterns

Why a text is not a pattern.
-/

namespace Conform.Regex

inductive SyntaxError where
  | unexpectedEnd
  | unclosedGroup
  | unopenedGroup
  | unclosedClass
  | nothingToRepeat
  | invalidCount
  | lookAround
  | backreference
  | unknownEscape (c : Char)
  | invalidCodePoint
  | unknownProperty (name : String)
  | invalidRange
  | assertionInClass
  | unknownFlag (c : Char)
  | repeatedFlag (c : Char)
  | danglingNegation
  | invalidGroupName
  | repeatedGroupName (name : String)
  | beyondAscii
  | tooDeep
  | tooLarge
deriving DecidableEq, Repr

/-- The reason that is given for refusing a pattern. The wording is this library's own: it is not
that of any other engine that reads such patterns. What is meant to agree with other engines is
which patterns are refused. -/
def SyntaxError.message : SyntaxError → String
  | unexpectedEnd => "the pattern ends too early"
  | unclosedGroup => "a group is not closed"
  | unopenedGroup => "a group is closed that was not opened"
  | unclosedClass => "a character class is not closed"
  | nothingToRepeat => "there is nothing to repeat"
  | invalidCount => "a repetition count is malformed"
  | lookAround => "look-around is not supported"
  | backreference => "backreferences are not supported"
  | unknownEscape c => "unknown escape `\\" ++ String.singleton c ++ "`"
  | invalidCodePoint => "an escape gives no character"
  | unknownProperty name => "unknown character property `" ++ name ++ "`"
  | invalidRange => "a character range is malformed"
  | assertionInClass => "an assertion stands in a character class"
  | unknownFlag c => "unknown flag `" ++ String.singleton c ++ "`"
  | repeatedFlag c => "flag `" ++ String.singleton c ++ "` is repeated"
  | danglingNegation => "flags end with a negation"
  | invalidGroupName => "a group name is malformed"
  | repeatedGroupName name => "group name `" ++ name ++ "` is repeated"
  | beyondAscii => "a set goes beyond ASCII while Unicode is off"
  | tooDeep => "the pattern is nested too deeply"
  | tooLarge => "the pattern takes up too much room"

end Conform.Regex
