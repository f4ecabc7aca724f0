import Conform.Regex.Syntax.Flags
import Conform.Unicode.Name
/-!
# Named sets in patterns

A set of characters can be named after a category, a script or a property, or after a property and
the value that it has for the characters.
-/

namespace Conform.Regex

/-- The set of a category, or of one of three further classes. -/
def categorySet? (name : String) : Option CharSet :=
  match Unicode.loose name with
  | "any" => some .all
  | "assigned" => some (.compl (.category [.unassigned]))
  | "ascii" => some .ascii
  | _ => (Unicode.Category.named? name).map .category

def scriptSet? (name : String) : Option CharSet := (Unicode.Script.named? name).map .script

/-- The set with a name: of a property, of a category or of a script. Three names of categories are
also names of properties that are not sets. -/
def propertySet? (name : String) : Option CharSet :=
  let property? :=
    if Unicode.loose name ∈ ["cf", "sc", "lc"] then none
    else (Unicode.Property.named? name).map CharSet.property
  property? <|> categorySet? name <|> scriptSet? name

/-- The set of the characters for which a property has a value. The characters of an earlier version
have the age of a later one too. -/
def valueSet? (property value : String) : Option CharSet :=
  let part? (kind : Unicode.Break) := (kind.named? value).map (.breakPart kind)
  match Unicode.loose property with
  | "gc" | "generalcategory" => categorySet? value
  | "sc" | "script" => scriptSet? value
  | "scx" | "scriptextensions" => (Unicode.Script.named? value).map .scriptUse
  | "age" => (Unicode.Age.named? value).map .since
  | "gcb" | "graphemeclusterbreak" => part? .grapheme
  | "wb" | "wordbreak" => part? .word
  | "sb" | "sentencebreak" => part? .sentence
  | _ => none

/-- Splits a text around the first occurrence of `mark`. -/
def splitAround? (mark : List Char) : List Char → Option (List Char × List Char)
  | [] => none
  | c :: text =>
    if mark.isPrefixOf (c :: text) then some ([], (c :: text).drop mark.length)
    else (splitAround? mark text).map fun parts => (c :: parts.1, parts.2)

/-- The set that a text between braces names: a name, or a property and a value with `=`, `:` or
`!=` between them. -/
def namedSet? (name : List Char) : Option CharSet :=
  let split (mark : List Char) :=
    (splitAround? mark name).map fun parts => (String.ofList parts.1, String.ofList parts.2)
  match split ['!', '='], split [':'], split ['='] with
  | some (property, value), _, _ => (valueSet? property value).map .compl
  | none, some (property, value), _ | none, none, some (property, value) => valueSet? property value
  | none, none, none => propertySet? (String.ofList name)

namespace Flags

/-- Reads a name: one character, or a text in braces. -/
def setName (flags : Flags) : Reader (List Char) := fun text =>
  match flags.next? text with
  | none => .error .unexpectedEnd
  | some first =>
    if first.value = '\x7b' then
      (flags.braced (· != '\x7d') .unexpectedEnd first.rest).map first.andThen
    else if first.value = '\\' then .error (.unknownProperty "\\")
    else .ok (first.map fun c => [c])

/-- Reads a named set. -/
def namedSet (flags : Flags) (negated : Bool) : Reader CharSet := fun text => do
  let name ← flags.setName text
  match namedSet? name.value with
  | some set =>
    if !flags.unicode then throw .beyondAscii
    let set ← flags.negate negated (flags.fold set)
    return name.map fun _ => set
  | none => throw (.unknownProperty (String.ofList name.value))

end Flags

end Conform.Regex
