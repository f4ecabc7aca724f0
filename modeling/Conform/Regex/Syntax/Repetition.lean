import Conform.Regex.Pattern
import Conform.Regex.Syntax.Flags
/-!
# Repetitions

What stands behind a piece of a pattern to repeat it: `?`, `*`, `+` or a count in braces. One more
question mark asks for few rounds rather than many.
-/

namespace Conform.Regex

/-- How often a piece is repeated: `least` times and at most `extra?` times more. Whether few rounds
are asked for has no bearing on what is found. -/
structure Repetition where
  least : Nat
  extra? : Option Nat
  short : Bool
deriving DecidableEq, Repr

namespace Flags

/-- Takes blanks. -/
def blanks : (text : List Char) → Found Unit text
  | [] => .here () []
  | c :: text => if Text.isSpace c then (blanks text).behind c else .here () (c :: text)

/-- Reads a number of 32 bits. Blanks around it are taken too. -/
def number (flags : Flags) : Reader Nat := fun text =>
  let front := blanks text
  let digits := flags.takeWhile Char.isDigit front.rest
  let value := Nat.ofDigitChars 10 digits.value 0
  if digits.value = [] ∨ 4294967296 ≤ value then .error .invalidCount
  else .ok (front.andThen (digits.andThen ((blanks digits.rest).map fun _ => value)))

/-- Takes a question mark if there is one. The find is whether few rounds are asked for. -/
def preference (flags : Flags) (text : List Char) : Found Bool text :=
  match Found.exactly? ['?'] text with
  | some mark => mark.map fun _ => !flags.short
  | none => .here flags.short text

/-- Reads what a count ends with, a closing brace and perhaps a question mark. -/
def countEnd (flags : Flags) : Reader Bool := fun text =>
  match Found.exactly? ['\x7d'] text with
  | some close =>
    let start := flags.skipped close.rest
    .ok (close.andThen (start.andThen (flags.preference start.rest)))
  | none => .error .invalidCount

/-- Reads what follows the first number of a count: nothing, a comma, or a comma and the greatest
number. The find is that greatest number, if there is one. -/
def greatest? (flags : Flags) (least : Nat) : Reader (Option Nat) := fun text =>
  match Found.exactly? [','] text with
  | none => .ok (.here (some least) text)
  | some comma =>
    let start := flags.skipped comma.rest
    if start.rest.head? = some '\x7d' then .ok (comma.andThen (start.map fun _ => none))
    else (flags.number start.rest).map fun most => comma.andThen (start.andThen (most.map some))

/-- Reads a count after its opening brace. -/
def count (flags : Flags) : Reader Repetition := fun text => do
  let start := flags.skipped text
  let least ← flags.number start.rest
  let most? ← flags.greatest? least.value least.rest
  if most?.value.any (· < least.value) then throw .invalidCount
  let close ← flags.countEnd most?.rest
  let repetition := Repetition.mk least.value (most?.value.map (· - least.value))
  return start.andThen (least.andThen (most?.andThen (close.map repetition)))

/-- Reads the repetition that begins with `c`, if `c` begins one. -/
def repetition? (flags : Flags) (c : Char) (text : List Char) :
    Option (Except SyntaxError (Found Repetition text)) :=
  let preference := flags.preference text
  match c with
  | '?' => some (.ok (preference.map (Repetition.mk 0 (some 1))))
  | '*' => some (.ok (preference.map (Repetition.mk 0 none)))
  | '+' => some (.ok (preference.map (Repetition.mk 1 none)))
  | '\x7b' => some (flags.count text)
  | _ => none

end Flags

end Conform.Regex
