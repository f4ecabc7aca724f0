import Conform.Regex.CharSet
/-!
# Assertions

An assertion holds or fails between two characters, and at the ends of a text, where there is only
one or none. It takes up no character.
-/

namespace Conform.Regex

/-- Places relative to words. -/
inductive Boundary where
  | edge | interior | start | finish | startHalf | finishHalf
deriving DecidableEq, Repr

inductive Assertion where
  | textStart
  | textEnd
  /-- With `returns`, a carriage return, a line feed and the pair of both end a line; else only a
  line feed does. -/
  | lineStart (returns : Bool)
  | lineEnd (returns : Bool)
  /-- A place relative to the words that are made of the characters of a set. -/
  | word (letters : CharSet) (boundary : Boundary)
deriving DecidableEq, Repr

/-- Whether a place is one of these, given whether the characters around it belong to words. -/
def Boundary.holds (before after : Bool) : Boundary → Bool
  | edge => before != after
  | interior => before == after
  | start => !before && after
  | finish => before && !after
  | startHalf => !before
  | finishHalf => !after

/-- Whether an assertion holds between two characters. -/
def Assertion.holds (before after : Option Char) : Assertion → Bool
  | textStart => before.isNone
  | textEnd => after.isNone
  | lineStart returns =>
    before.isNone || before == some '\n' ||
      (returns && before == some '\r' && after != some '\n')
  | lineEnd returns =>
    after.isNone || (returns && after == some '\r') ||
      (after == some '\n' && !(returns && before == some '\r'))
  | word letters boundary =>
    boundary.holds (before.any letters.contains) (after.any letters.contains)

end Conform.Regex
