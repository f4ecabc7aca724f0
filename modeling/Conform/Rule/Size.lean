import Conform.Rule.Basic
/-!
# Sizes

Rules that measure a value: a number by itself, a text by its characters, a list by its items and an
object by its keys. Sizes are compared as 64-bit binary numbers. Null and truth values have no size
and are not accepted.
-/

namespace Conform

/-- The size of a value and the unit that messages name after it. -/
def Value.measure? : Value → Option (Binary64 × String)
  | .num n => some (n.toBinary64, "")
  | .str text => some (.ofNat text.length, " characters")
  | .arr items => some (.ofNat items.length, " items")
  | .obj fields => some (.ofNat fields.length, " keys")
  | .null | .bool _ => none

namespace Rule

/-- The text of a size in messages. -/
def sizeText (size : Binary64) : String := Layout.message.write size

/-- A rule on the size of a value. Its failures name the bounds in words, with the unit after them,
and list the bounds and the actual size. -/
def ofSize (name words : String) (bounds : List (String × Binary64)) (accepts : Binary64 → Bool) :
    Rule :=
  ofValue name fun value =>
    match value.measure? with
    | none => .error ⟨name, "This field must be a number, string, array or object.", []⟩
    | some (size, unit) =>
      if accepts size then .ok ()
      else
        .error ⟨name, "This field must be " ++ words ++ unit ++ ".",
          bounds.map (fun b => (b.1, sizeText b.2)) ++ [("actual", sizeText size)]⟩

def min (least : Binary64) : Rule :=
  ofSize "min" ("at least " ++ sizeText least) [("min", least)] fun size => least.le size

def max (greatest : Binary64) : Rule :=
  ofSize "max" ("at most " ++ sizeText greatest) [("max", greatest)] fun size => size.le greatest

def between (least greatest : Binary64) : Rule :=
  ofSize "between" ("between " ++ sizeText least ++ " and " ++ sizeText greatest)
    [("min", least), ("max", greatest)] fun size => least.le size && size.le greatest

def size (exact : Binary64) : Rule :=
  ofSize "size" ("exactly " ++ sizeText exact) [("size", exact)] fun size => size.same exact

end Rule

end Conform
