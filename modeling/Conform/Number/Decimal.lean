import Conform.Number.Binary64
/-!
# The decimal text of a number

A finite number is written with the fewest decimal digits that read back to it, and of those with
the nearest. Which digits these are is decided by exact arithmetic on the interval of reals that
round to the number; how they are laid out is decided by a `Layout`.
-/

namespace Conform

/-- The number `digits · 10 ^ exponent`. -/
structure Decimal where
  digits : Nat
  exponent : Int
deriving DecidableEq, Repr

namespace Decimal

/-- Compares `digits · 10 ^ exponent` with `n · 2 ^ k`. -/
def compareBinary (d : Decimal) (n : Nat) (k : Int) : Ordering :=
  let (up, down) := Binary64.power 2 k
  let (tens, tenths) := Binary64.power 10 d.exponent
  compare (d.digits * tens * down) (n * up * tenths)

/-- Whether `d` rounds to `significand · 2 ^ exponent`: it lies between the midpoints to the two
neighbours, and may be a midpoint itself when the significand is even. Below a power of two the
neighbour is half as far away. -/
def ReadsBack (significand : Nat) (exponent : Int) (d : Decimal) : Bool :=
  let below := if significand = Binary64.significandBound / 2 ∧ -1074 < exponent then 1 else 2
  let low := d.compareBinary (4 * significand - below) (exponent - 2)
  let high := d.compareBinary (4 * significand + 2) (exponent - 2)
  let even := significand % 2 = 0
  (low = .gt ∨ even ∧ low = .eq) ∧ (high = .lt ∨ even ∧ high = .eq)

/-- The least `p` with `significand · 2 ^ exponent < 10 ^ p`. The binary logarithm gives it up to a
step or two, and exact comparison decides. -/
def leadingPower (significand : Nat) (exponent : Int) : Int :=
  let guess := (((significand.log2 : Int) + exponent) * 30103) / 100000
  let above (p : Int) : Bool := Decimal.compareBinary ⟨1, p⟩ significand exponent = .gt
  if above guess then guess else if above (guess + 1) then guess + 1 else guess + 2

/-- `digits · 10 ^ exponent` without the zeros at the end of its digits. -/
def stripZeros (digits : Nat) (exponent : Int) : Decimal :=
  if digits ≠ 0 ∧ digits % 10 = 0 then stripZeros (digits / 10) (exponent + 1)
  else ⟨digits, exponent⟩
termination_by digits
decreasing_by omega

/-- Which of two equally near decimals is taken. -/
inductive Tie where
  | even
  | up
deriving DecidableEq, Repr

/-- The two neighbours of `num / den` among the naturals, the nearer one first. -/
def neighbours (tie : Tie) (num den : Nat) : List Nat :=
  let lower := num / den
  let midpoint := (2 * lower + 1) * den
  if 2 * num < midpoint ∨ 2 * num = midpoint ∧ tie = .even ∧ lower % 2 = 0 then [lower, lower + 1]
  else [lower + 1, lower]

/-- The nearest multiple of `10 ^ place` that reads back to `significand · 2 ^ exponent`. -/
def onGrid? (tie : Tie) (significand : Nat) (exponent place : Int) : Option Decimal :=
  let (up, down) := Binary64.power 2 exponent
  let (tens, tenths) := Binary64.power 10 place
  let nearby := neighbours tie (significand * up * tenths) (down * tens)
  (nearby.map fun digits => ⟨digits, place⟩).find? (ReadsBack significand exponent)

/-- The fewest digits that read back to `significand · 2 ^ exponent`, which is not zero. Seventeen
always suffice; were it otherwise, the exact value would be given. -/
def shortest (tie : Tie) (significand : Nat) (exponent : Int) : Decimal :=
  let power := leadingPower significand exponent
  let candidate := (List.range 17).findSome? fun (n : Nat) =>
    onGrid? tie significand exponent (power - n - 1)
  let exact : Decimal :=
    ⟨significand * (Binary64.power 2 exponent).1 * (Binary64.power 5 exponent).2, min exponent 0⟩
  let d := candidate.getD exact
  stripZeros d.digits d.exponent

end Decimal

/-- How the digits of a number are laid out. -/
structure Layout where
  /-- Which of two equally near decimals is written. -/
  tie : Decimal.Tie
  /-- Whether a number whose leading digit has this power of ten is written without an exponent. -/
  plain : Int → Bool
  /-- Whether a whole number has `.0` after it. -/
  pointZero : Bool

namespace Layout

/-- Digits and exponent written without an exponent: the point stands after, inside or before the
digits. -/
def positional (layout : Layout) (digits : List Char) (exponent : Int) : List Char :=
  let whole : Int := digits.length + exponent
  if 0 ≤ exponent then
    digits ++ List.replicate exponent.toNat '0' ++ (if layout.pointZero then ['.', '0'] else [])
  else if 0 < whole then
    digits.take whole.toNat ++ '.' :: digits.drop whole.toNat
  else
    '0' :: '.' :: List.replicate (-whole).toNat '0' ++ digits

/-- Digits and exponent written with one digit before the point and a signed power of ten. -/
def scientific (digits : List Char) (exponent : Int) : List Char :=
  let power : Int := digits.length + exponent - 1
  let sign := if power < 0 then '-' else '+'
  let fraction := if digits.length ≤ 1 then [] else '.' :: digits.drop 1
  digits.take 1 ++ fraction ++ 'e' :: sign :: Nat.toDigits 10 power.natAbs

/-- The text of a number. -/
def write (layout : Layout) : Binary64 → String
  | .nan => "NaN"
  | .infinite negative => if negative then "-inf" else "inf"
  | .finite negative significand exponent =>
    let sign := if negative then ['-'] else []
    let body :=
      if significand = 0 then '0' :: (if layout.pointZero then ['.', '0'] else [])
      else
        let d := Decimal.shortest layout.tie significand exponent
        let digits := Nat.toDigits 10 d.digits
        if layout.plain (digits.length + d.exponent - 1) then layout.positional digits d.exponent
        else scientific digits d.exponent
    String.ofList (sign ++ body)

end Layout

/-- Numbers in messages are written without an exponent and without needless zeros. -/
def Layout.message : Layout where
  tie := .up
  plain _ := true
  pointZero := false

/-- Numbers in JSON text keep a fraction, and have an exponent below `1e-5` and from `1e16` on. -/
def Layout.json : Layout where
  tie := .even
  plain power := -5 ≤ power ∧ power < 16
  pointZero := true

end Conform
