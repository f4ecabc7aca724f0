/-!
# 64-bit binary floating-point numbers

A finite number is `± significand · 2 ^ exponent`, held exactly. Quotients, integers and decimals
are rounded to the nearest such number, a tie to the even significand; order and equality are those
of the rational numbers that are held.
-/

namespace Conform

/-- Numbers of the 64-bit binary format. A finite one is canonical when its significand is below
`2 ^ 53`, its exponent lies between `-1074` and `971`, and the significand has 53 bits unless the
exponent is `-1074`. -/
inductive Binary64 where
  | nan
  | infinite (negative : Bool)
  | finite (negative : Bool) (significand : Nat) (exponent : Int)
deriving DecidableEq, Repr, Inhabited

namespace Binary64

def zero (negative : Bool) : Binary64 := finite negative 0 (-1074)

def IsFinite : Binary64 → Prop
  | finite .. => True
  | _ => False

instance : DecidablePred IsFinite
  | finite .. => .isTrue trivial
  | nan => .isFalse id
  | infinite _ => .isFalse id

/-- Significands are below this, which is `2 ^ 53`. -/
def significandBound : Nat := 9007199254740992

/-- The power `base ^ exponent` as a quotient of two naturals. -/
def power (base : Nat) (exponent : Int) : Nat × Nat :=
  (Nat.pow base exponent.toNat, Nat.pow base (-exponent).toNat)

/-- The rational number `± significand · 2 ^ exponent`. -/
def ratio (negative : Bool) (significand : Nat) (exponent : Int) : Rat :=
  let (up, down) := power 2 exponent
  mkRat ((if negative then -1 else 1) * (significand * up)) down

/-- The rational number that a finite number denotes. -/
def toRat? : Binary64 → Option Rat
  | finite negative significand exponent => some (ratio negative significand exponent)
  | _ => none

/-! ## Rounding -/

/-- The integer nearest to `num / den`; a tie goes to the even one. -/
def nearest (num den : Nat) : Nat :=
  let quotient := num / den
  let remainder := num % den
  if 2 * remainder < den then quotient
  else if den < 2 * remainder then quotient + 1
  else quotient + quotient % 2

/-- The least exponent, not below `-1074`, for which the significand of `num / den` has at most 53
bits before rounding. -/
def exponentFor (num den : Nat) : Int :=
  let guess : Int := num.log2 - den.log2 - 52
  let (up, down) := power 2 (guess - 1)
  let exponent := if num * down < significandBound * (den * up) then guess - 1 else guess
  max exponent (-1074)

/-- The number nearest to `± num / den`; a tie goes to the even significand, and what is too large
for the format becomes infinite. -/
def ofQuotient (negative : Bool) (num den : Nat) : Binary64 :=
  if num = 0 then zero negative
  else
    let exponent := exponentFor num den
    let (up, down) := power 2 exponent
    let significand := nearest (num * down) (den * up)
    let (significand, exponent) :=
      if significand = significandBound then (significandBound / 2, exponent + 1)
      else (significand, exponent)
    if 971 < exponent then infinite negative else finite negative significand exponent

def ofInt (n : Int) : Binary64 := ofQuotient (n < 0) n.natAbs 1

def ofNat (n : Nat) : Binary64 := ofQuotient false n 1

/-- The number nearest to `± digits · 10 ^ exponent`. Beyond the powers of ten that the format
reaches, the answer is known without the power: infinite or zero. -/
def ofDecimal (negative : Bool) (digits : Nat) (exponent : Int) : Binary64 :=
  let magnitude := (Nat.toDigits 10 digits).length + exponent
  if digits = 0 ∨ magnitude < -400 then zero negative
  else if 400 < magnitude then infinite negative
  else
    let (up, down) := power 10 exponent
    ofQuotient negative (digits * up) down

/-! ## Order and equality -/

/-- Order of the numbers denoted, with the infinities at the ends. It never holds of `nan`. -/
def le : Binary64 → Binary64 → Bool
  | nan, _ | _, nan => false
  | infinite true, _ | _, infinite false => true
  | infinite false, _ | _, infinite true => false
  | finite negative significand exponent, finite negative' significand' exponent' =>
    ratio negative significand exponent ≤ ratio negative' significand' exponent'

/-- Equality of the numbers denoted: zero has no sign here, and `nan` equals nothing. -/
def same (a b : Binary64) : Bool := a.le b && b.le a

/-- Whether the number is a whole number. -/
def isWhole : Binary64 → Bool
  | finite _ significand exponent => significand % (power 2 exponent).2 = 0
  | _ => false

end Binary64

end Conform
