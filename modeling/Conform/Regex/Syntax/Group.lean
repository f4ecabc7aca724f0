import Conform.Regex.Syntax.Flags
import Conform.Unicode.Recent
/-!
# Groups

A parenthesis opens a group, which may have a name or flags of its own, or it holds flags for the
rest of the group around it.
-/

namespace Conform.Regex

/-- What an opening parenthesis begins. -/
inductive Opening where
  /-- Flags for what follows in the same group. -/
  | directive (flags : Flags)
  /-- A group that is read with these flags; `names` are those of the groups so far. Whether it
  captures what it matches has no bearing on what is found. -/
  | group (captures : Bool) (flags : Flags) (names : List String)
deriving DecidableEq, Repr

/-- Whether a character can stand in the name of a group, at its front or later on. -/
def isNameChar (front : Bool) (c : Char) : Bool :=
  c == '_' || Unicode.isAlphabetic c ||
    (!front && (c == '.' || c == '[' || c == ']' ||
      Unicode.Category.numbers.contains (Unicode.recentCategory c)))

/-- Reads the name of a group up to its closing angle. -/
def groupName (seen : List Char) : Reader String
  | [] => .error .unexpectedEnd
  | c :: text =>
    if c = '>' then
      if seen = [] then .error .invalidGroupName
      else .ok (.one (String.ofList seen.reverse) c text)
    else if isNameChar (seen = []) c then (groupName (c :: seen) text).map (·.behind c)
    else .error .invalidGroupName

/-- What a look-around begins with, after its parenthesis. -/
def lookAroundMarks : List (List Char) := [['?', '='], ['?', '!'], ['?', '<', '='], ['?', '<', '!']]

/-- Takes what stands before the name of a group. -/
def nameMark? (text : List Char) : Option (Found Unit text) :=
  Found.exactly? ['?', 'P', '<'] text <|> Found.exactly? ['?', '<'] text

namespace Flags

/-- Reads the name of a group, which no other group may have. -/
def namedGroup (flags : Flags) (names : List String) : Reader Opening := fun text => do
  let name ← groupName [] text
  if name.value ∈ names then throw (.repeatedGroupName name.value)
  return name.map fun name => .group true flags (name :: names)

/-- Reads flags and what they are for. -/
def flagged (flags : Flags) (names : List String) : Reader Opening := fun text => do
  let found ← flags.read [] text
  match found.value with
  | (flags, _, .colon) => return found.map fun _ => .group false flags names
  | (_, [], .parenthesis) => throw .nothingToRepeat
  | (flags, _, .parenthesis) => return found.map fun _ => .directive flags

/-- Reads what follows an opening parenthesis. -/
def opening (flags : Flags) (names : List String) : Reader Opening := fun text =>
  let start := flags.skipped text
  if lookAroundMarks.any fun mark => (Found.exactly? mark start.rest).isSome then
    .error .lookAround
  else
    match nameMark? start.rest, Found.exactly? ['?'] start.rest with
    | some mark, _ =>
      (flags.namedGroup names mark.rest).map fun found => start.andThen (mark.andThen found)
    | none, some mark =>
      (flags.flagged names mark.rest).map fun found => start.andThen (mark.andThen found)
    | none, none => .ok (start.map fun _ => .group true flags names)

end Flags

end Conform.Regex
