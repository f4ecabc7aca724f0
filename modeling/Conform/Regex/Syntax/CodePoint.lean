import Conform.Regex.Syntax.Flags
/-!
# Code points in patterns

A character can be given by the hexadecimal digits of its code point: a fixed number of them, or any
number between braces.
-/

namespace Conform.Regex

def isHexDigit (c : Char) : Bool :=
  c.isDigit || ('a' ≤ c && c ≤ 'f') || ('A' ≤ c && c ≤ 'F')

/-- The number that hexadecimal digits denote. -/
def hexValue (digits : List Char) : Nat :=
  let digit (c : Char) :=
    if c.isDigit then c.toNat - '0'.toNat else c.toLower.toNat - 'a'.toNat + 10
  digits.foldl (fun n c => 16 * n + digit c) 0

/-- The character with a code point, if there is one. -/
def scalar? (n : Nat) : Option Char := if n.isValidChar then some (Char.ofNat n) else none

namespace Flags

/-- Reads as many hexadecimal digits as given. -/
def hexDigits (flags : Flags) (count : Nat) : Reader (List Char) := fun text =>
  match count with
  | 0 => .ok (.here [] text)
  | count + 1 =>
    match flags.next? text with
    | none => .error .unexpectedEnd
    | some digit =>
      if isHexDigit digit.value then
        (flags.hexDigits count digit.rest).map fun others =>
          digit.andThen (others.map (digit.value :: ·))
      else .error .invalidCodePoint

/-- Reads the character with the code point that the digits give, `count` of them if they are not in
braces. Without Unicode, two digits give a byte, which is a character only in ASCII. -/
def codePoint (flags : Flags) (count : Nat) : Reader Char := fun text => do
  let start := flags.skipped text
  let digits ←
    match Found.exactly? ['\x7b'] start.rest with
    | some brace =>
      let digits ← flags.braced isHexDigit .invalidCodePoint brace.rest
      if digits.value = [] then throw .invalidCodePoint
      pure (start.andThen (brace.andThen digits))
    | none =>
      let digits ← flags.hexDigits count start.rest
      if !flags.unicode ∧ count = 2 ∧ 128 ≤ hexValue digits.value then throw .beyondAscii
      pure (start.andThen digits)
  match scalar? (hexValue digits.value) with
  | some c => return digits.map fun _ => c
  | none => throw .invalidCodePoint

end Flags

end Conform.Regex
