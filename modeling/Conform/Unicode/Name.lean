import Conform.Unicode.Age
import Conform.Unicode.Break
import Conform.Unicode.Property
import Conform.Unicode.Script
/-!
# Names of character properties

The names of categories, scripts, properties and the like are matched loosely: case, blanks, hyphens
and underscores are ignored, and so is a leading `is`.
-/

namespace Conform.Unicode

/-- The form in which names are compared. Characters outside ASCII are ignored too. The name `isc`
is no spelling of `c`. -/
def loose (name : String) : String :=
  let clean (text : List Char) :=
    (text.filter fun c => c.val < 128 ∧ c ≠ ' ' ∧ c ≠ '-' ∧ c ≠ '_').map Char.toLower
  match name.toList with
  | i :: s :: rest =>
    if i.toLower = 'i' ∧ s.toLower = 's' then
      if clean rest = ['c'] then "isc" else String.ofList (clean rest)
    else String.ofList (clean (i :: s :: rest))
  | short => String.ofList (clean short)

/-- The names of groups of categories and further names of single ones. -/
def Category.groupNames : List (List String × List Category) :=
  [(["L", "Letter"], letters),
    (["LC", "Cased_Letter"], casedLetters),
    (["M", "Mark", "Combining_Mark"], marks),
    (["N", "Number"], numbers),
    (["P", "Punctuation", "punct"], punctuation),
    (["S", "Symbol"], symbols),
    (["Z", "Separator"], separators),
    (["C", "Other"], others),
    (["cntrl"], [control]),
    (["digit"], [decimalNumber])]

/-- The categories that a name stands for. Characters are never surrogates, so that the name of
that category stands for nothing. -/
def Category.named? (name : String) : Option (List Category) :=
  match names.find? fun entry => loose entry.2.1 = loose name ∨ loose entry.2.2 = loose name with
  | some (category, _) => if category = surrogate then none else some [category]
  | none => (groupNames.find? fun entry => entry.1.any fun n => loose n = loose name).map Prod.snd

/-- The code of the script with a name. -/
def Script.named? (name : String) : Option String :=
  match names.find? fun entry => loose entry.1 = loose name ∨ loose entry.2 = loose name with
  | some (code, _) => some code
  | none => (otherCodes.find? fun entry => loose entry.1 = loose name).map Prod.snd

/-- The property with a name. White space has a third name. -/
def Property.named? (name : String) : Option Property :=
  if loose name = "space" then some .whiteSpace
  else
    (names.find? fun entry => loose entry.2.1 = loose name ∨ loose entry.2.2 = loose name).map
      Prod.fst

/-- The place of the version with a name: its number, or the number without points after a `V`. -/
def Age.named? (name : String) : Option Nat :=
  versions.findIdx? fun (_, number) =>
    loose name = number ∨ loose name = String.ofList ('v' :: number.toList.filter (· ≠ '.'))

/-- The code of the part with a name. -/
def Break.named? (kind : Break) (name : String) : Option String :=
  (kind.names.find? fun entry => loose entry.1 = loose name ∨ loose entry.2 = loose name).map
    Prod.fst

end Conform.Unicode
