import Conform.Number.Binary64
/-!
# Numerals

Decimal numerals as they are read: runs of ASCII digits, signed integers, and decimals with an
optional fraction and an optional power of ten.
-/

namespace Conform.Numeral

/-- The value of a run of ASCII digits. The empty run has none. -/
def natural? (text : List Char) : Option Nat :=
  if text ≠ [] ∧ text.all Char.isDigit then some (Nat.ofDigitChars 10 text 0) else none

/-- Takes one leading sign off; the flag tells whether it was a minus. -/
def sign : List Char → Bool × List Char
  | '-' :: rest => (true, rest)
  | '+' :: rest => (false, rest)
  | text => (false, text)

/-- The value of a run of digits with at most one sign in front. -/
def integer? (text : List Char) : Option Int :=
  let (negative, digits) := sign text
  (natural? digits).map fun n => if negative then -n else n

/-- The number nearest to a decimal numeral: digits with at most one point among or beside them, at
most one sign in front and at most one power of ten behind. -/
def decimal? (text : List Char) : Option Binary64 :=
  let (negative, unsigned) := sign text
  let (mantissa, power) := unsigned.span fun c => c ≠ 'e' ∧ c ≠ 'E'
  let (whole, point) := mantissa.span (· ≠ '.')
  let fraction := point.drop 1
  let exponent? := if power = [] then some 0 else integer? (power.drop 1)
  match natural? (whole ++ fraction), exponent? with
  | some digits, some exponent =>
    some (Binary64.ofDecimal negative digits (exponent - fraction.length))
  | _, _ => none

/-- The decimal text of a natural number is read back to it. -/
theorem natural?_toDigits (n : Nat) : natural? (Nat.toDigits 10 n) = some n := by
  have digits : (Nat.toDigits 10 n).all Char.isDigit = true :=
    List.all_eq_true.mpr fun _ h => Nat.isDigit_of_mem_toDigits (by decide) (by decide) h
  simp [natural?, digits, Nat.toDigits_ne_nil, Nat.ofDigitChars_ten_toDigits]

end Conform.Numeral
