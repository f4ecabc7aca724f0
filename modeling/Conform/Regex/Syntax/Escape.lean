import Conform.Regex.Assertion
import Conform.Regex.Syntax.CodePoint
import Conform.Regex.Syntax.NamedSet
/-!
# Escapes

A backslash takes the special meaning from a character that has one, or gives a letter one: a
control character, a code point, a set of characters, or an assertion.
-/

namespace Conform.Regex

/-- What stands for one place in a pattern or in a class. -/
inductive Atom where
  | char (c : Char)
  | set (set : CharSet)
  | assertion (assertion : Assertion)

/-! ## Boundaries -/

/-- The names of the boundaries that can stand in braces. -/
def boundaryNames : List (String × Boundary) :=
  [("start", .start), ("end", .finish), ("start-half", .startHalf), ("end-half", .finishHalf)]

/-- Whether a character can stand in the name of a boundary. -/
def isBoundaryChar (c : Char) : Bool := c.isAlpha || c == '-'

namespace Flags

/-- Reads what may follow `\b`: the name of a boundary in braces. Braces that begin otherwise are
not part of the escape. -/
def boundary (flags : Flags) : Reader Boundary := fun text =>
  match Found.exactly? ['\x7b'] text with
  | none => .ok (.here .edge text)
  | some brace =>
    match flags.next? brace.rest with
    | none => .error .unexpectedEnd
    | some first =>
      if isBoundaryChar first.value then do
        let name ← flags.braced isBoundaryChar (.unknownEscape 'b') brace.rest
        match boundaryNames.lookup (String.ofList name.value) with
        | some boundary => return brace.andThen (name.map fun _ => boundary)
        | none => throw (.unknownEscape 'b')
      else .ok (.here .edge text)

end Flags

/-! ## Letters -/

/-- The characters that letters stand for. -/
def controlLetters : List (Char × Char) :=
  [('a', '\x07'), ('f', '\x0c'), ('t', '\t'), ('n', '\n'), ('r', '\r'), ('v', '\x0b')]

/-- Whether a backslash before a character lets it stand for itself. -/
def isEscapable (c : Char) : Bool :=
  c.val < 128 && !c.isAlphanum && c != '<' && c != '>'

namespace Flags

/-- The set of a class letter, and whether the letter is the one for the rest. -/
def letterSet? (flags : Flags) (letter : Char) : Option (CharSet × Bool) :=
  let digit := if flags.unicode then CharSet.digit else .asciiDigit
  let space := if flags.unicode then CharSet.space else .asciiSpace
  match letter with
  | 'd' => some (digit, false)
  | 'D' => some (digit, true)
  | 's' => some (space, false)
  | 'S' => some (space, true)
  | 'w' => some (flags.word, false)
  | 'W' => some (flags.word, true)
  | _ => none

/-- Reads what a letter after a backslash begins. -/
def letter (flags : Flags) (c : Char) : Reader Atom := fun text =>
  let word (boundary : Boundary) : Atom := .assertion (.word flags.word boundary)
  match c with
  | 'x' => (flags.codePoint 2 text).map (·.map .char)
  | 'u' => (flags.codePoint 4 text).map (·.map .char)
  | 'U' => (flags.codePoint 8 text).map (·.map .char)
  | 'p' => (flags.namedSet false text).map (·.map .set)
  | 'P' => (flags.namedSet true text).map (·.map .set)
  | 'A' => .ok (.here (.assertion .textStart) text)
  | 'z' => .ok (.here (.assertion .textEnd) text)
  | 'b' => (flags.boundary text).map (·.map word)
  | 'B' => .ok (.here (word .interior) text)
  | '<' => .ok (.here (word .start) text)
  | '>' => .ok (.here (word .finish) text)
  | c =>
    match flags.letterSet? c with
    | some (set, negated) => (flags.negate negated set).map fun set => .here (.set set) text
    | none => .error (.unknownEscape c)

/-- Reads an escape; `text` begins after the backslash. -/
def escape (flags : Flags) : Reader Atom
  | [] => .error .unexpectedEnd
  | c :: text =>
    if isEscapable c then .ok (.one (.char c) c text)
    else if c.isDigit then .error .backreference
    else
      match controlLetters.lookup c with
      | some control => .ok (.one (.char control) c text)
      | none => (flags.letter c text).map (·.behind c)

end Flags

end Conform.Regex
