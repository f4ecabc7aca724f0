import Conform.Number.Decimal
import Conform.Number.Numeral
/-!
# Data trees

The trees that are validated: null, truth values, numbers, texts, lists, and objects whose fields
keep the order in which they were written.
-/

namespace Conform

/-- A number is a whole number or a binary one. The two are never equal, whatever they denote. -/
inductive Number where
  | int (n : Int)
  | real (x : Binary64)
deriving DecidableEq, Repr

namespace Number

/-- The signed 64-bit range, from `-2 ^ 63` up to `2 ^ 63 - 1`. -/
def IsSigned64 (n : Int) : Prop := -9223372036854775808 ≤ n ∧ n ≤ 9223372036854775807

instance (n : Int) : Decidable (IsSigned64 n) := inferInstanceAs (Decidable (_ ∧ _))

/-- Whole numbers are held exactly when they fit the signed or the unsigned 64-bit range, which goes
up to `2 ^ 64 - 1`. -/
def IsHeld (n : Int) : Prop := IsSigned64 n ∨ 0 ≤ n ∧ n ≤ 18446744073709551615

instance (n : Int) : Decidable (IsHeld n) := inferInstanceAs (Decidable (_ ∨ _))

/-- Reads a numeral. It is a whole number if it has neither point nor power of ten, is held exactly
and is not a negative zero; otherwise it is rounded. -/
def ofNumeral? (text : String) : Option Number :=
  match Numeral.integer? text.toList with
  | some n =>
    if IsHeld n ∧ ¬(n = 0 ∧ text.toList.head? = some '-') then some (int n)
    else (Numeral.decimal? text.toList).map real
  | none => (Numeral.decimal? text.toList).map real

def toBinary64 : Number → Binary64
  | int n => .ofInt n
  | real x => x

/-- The whole number, if it is held as one and fits the signed 64-bit range. -/
def signed64? : Number → Option Int
  | int n => if IsSigned64 n then some n else none
  | real _ => none

def isWhole : Number → Bool
  | int _ => true
  | real x => x.isWhole

def same : Number → Number → Bool
  | int a, int b => a == b
  | real a, real b => a.same b
  | _, _ => false

/-- The text of a number in JSON. -/
def toText : Number → String
  | int n => toString n
  | real x => Layout.json.write x

end Number

inductive Value where
  | null
  | bool (b : Bool)
  | num (n : Number)
  | str (text : String)
  | arr (items : List Value)
  | obj (fields : List (String × Value))
deriving Inhabited

namespace Value

mutual

/-- Equality of trees: the order of an object's fields does not matter. -/
def same : Value → Value → Bool
  | null, null => true
  | bool a, bool b => a == b
  | num a, num b => a.same b
  | str a, str b => a == b
  | arr xs, arr ys => sameItems xs ys
  | obj fs, obj gs => fs.length == gs.length && sameFields fs gs
  | _, _ => false

def sameItems : List Value → List Value → Bool
  | [], [] => true
  | x :: xs, y :: ys => same x y && sameItems xs ys
  | _, _ => false

/-- Whether each of the fields has an equal value in the other object. -/
def sameFields : List (String × Value) → List (String × Value) → Bool
  | [], _ => true
  | (key, x) :: rest, gs =>
    (match gs.lookup key with
      | some y => same x y
      | none => false) && sameFields rest gs

end

def isNull : Value → Bool
  | null => true
  | _ => false

/-- The text of a scalar: a text itself, a number or truth value as JSON spells it. -/
def scalarText? : Value → Option String
  | str text => some text
  | num n => some n.toText
  | bool b => some (if b then "true" else "false")
  | _ => none

end Value

end Conform
