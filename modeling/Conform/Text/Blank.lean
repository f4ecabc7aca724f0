/-!
# White space

The characters with the Unicode property `White_Space`, and texts that hold nothing else.
-/

namespace Conform.Text

/-- Whether a character has the property `White_Space`. There are 25 of them. -/
def isSpace (c : Char) : Bool :=
  let n := c.toNat
  (0x09 ≤ n && n ≤ 0x0D) || n == 0x20 || n == 0x85 || n == 0xA0 || n == 0x1680 ||
    (0x2000 ≤ n && n ≤ 0x200A) || n == 0x2028 || n == 0x2029 || n == 0x202F || n == 0x205F ||
    n == 0x3000

/-- A text is blank when it is empty or holds white space only. -/
def isBlank (text : String) : Bool := text.toList.all isSpace

/-- White space in the sense of the core library is white space here. -/
theorem isSpace_of_isWhitespace {c : Char} (h : c.isWhitespace = true) : isSpace c = true := by
  simp only [Char.isWhitespace, Bool.or_eq_true, decide_eq_true_eq] at h
  rcases h with ((h | h) | h) | h <;> subst h <;> decide

end Conform.Text
