import Conform.Unicode.Recent
/-!
# Quoted texts

A text is quoted so that it shows on one line what it holds: quotation marks and backslashes get a
backslash in front, and characters that would not be seen are written as escapes.
-/

namespace Conform.Text

/-- The characters that have an escape of their own, and the letters of the escapes. -/
def shortEscapes : List (Char × Char) :=
  [('"', '"'), ('\\', '\\'), ('\t', 't'), ('\n', 'n'), ('\r', 'r'), ('\x00', '0')]

/-- Whether a character shows when it is written by itself. Blanks other than the space do not, and
neither do characters that extend the one before them or that may be ignored. -/
def isVisible (c : Char) : Bool :=
  let unseen := Unicode.Category.others ++ Unicode.Category.separators
  c == ' ' ||
    !(unseen.contains (Unicode.recentCategory c) || Unicode.extendsGrapheme c ||
      Unicode.Property.defaultIgnorableCodePoint.holds c)

/-- How a character is written between quotation marks. -/
def escaped (c : Char) : List Char :=
  match shortEscapes.lookup c with
  | some letter => ['\\', letter]
  | none =>
    if isVisible c then [c] else ['\\', 'u', '\x7b'] ++ Nat.toDigits 16 c.toNat ++ ['\x7d']

/-- A text between quotation marks. -/
def quoted (text : String) : String :=
  "\"" ++ String.ofList (text.toList.flatMap escaped) ++ "\""

end Conform.Text
