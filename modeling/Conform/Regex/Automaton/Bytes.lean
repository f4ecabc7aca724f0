import Conform.Unicode.Ranges
/-!
# Ranges of code points in UTF-8

An automaton reads bytes. The code points of a range have encodings of several lengths, and even
those of one length need not be what ranges of bytes in a row make; so a range is cut into smaller
ones for which that is so.
-/

namespace Conform.Regex

open Unicode (Range)

/-- The number of bytes of a code point in UTF-8. -/
def byteCount (n : Nat) : Nat :=
  if n < 0x80 then 1 else if n < 0x800 then 2 else if n < 0x10000 then 3 else 4

/-- The bytes of a code point in UTF-8. -/
def utf8 (n : Nat) : List Nat :=
  match byteCount n with
  | 1 => [n]
  | 2 => [0xC0 + n / 64, 0x80 + n % 64]
  | 3 => [0xE0 + n / 4096, 0x80 + n / 64 % 64, 0x80 + n % 64]
  | _ => [0xF0 + n / 262144, 0x80 + n / 4096 % 64, 0x80 + n / 64 % 64, 0x80 + n % 64]

/-- The last code points of each length but the greatest. -/
def lengthEnds : List Nat := [0x7F, 0x7FF, 0xFFFF]

/-- Where a range is cut among code points that differ above their last bits, of which there are
`size` values: before the end of the first block of that size, or behind the end of the last but
one. -/
def blockCut? (r : Range) (size : Nat) : Option Nat :=
  if r.first / size = r.last / size then none
  else if r.first % size ≠ 0 then some (r.first - r.first % size + size - 1)
  else if r.last % size ≠ size - 1 then some (r.last - r.last % size - 1)
  else none

/-- The last code point before the place where a range is cut. -/
def cut? (r : Range) : Option Nat :=
  match lengthEnds.find? fun bound => r.first ≤ bound ∧ bound < r.last with
  | some bound => some bound
  | none => if r.last < 0x80 then none else [64, 4096, 262144].findSome? (blockCut? r)

/-- The ranges of bytes, one after the other, that encode the code points of a range. -/
def byteSequences (r : Range) : List (List Range) :=
  match cut? r with
  | some n =>
    if _h : r.first ≤ n ∧ n < r.last then
      byteSequences ⟨r.first, n⟩ ++ byteSequences ⟨n + 1, r.last⟩
    else []
  | none => [((utf8 r.first).zip (utf8 r.last)).map fun (first, last) => ⟨first, last⟩]
termination_by r.last - r.first
decreasing_by all_goals omega

end Conform.Regex
