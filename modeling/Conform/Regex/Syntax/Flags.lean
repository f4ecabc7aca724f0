import Conform.Regex.CharSet
import Conform.Regex.Syntax.Found
import Conform.Text.Blank
/-!
# Flags

Flags change how the text after them is read, up to the end of the group in which they stand.
-/

namespace Conform.Regex

structure Flags where
  /-- Case is ignored. -/
  ignoreCase : Bool := false
  /-- The start and end anchors look at lines. -/
  multiline : Bool := false
  /-- A dot stands for line ends too. -/
  dotAll : Bool := false
  /-- Blanks and comments in the pattern are skipped. -/
  spaced : Bool := false
  /-- Sets take in all characters and not only ASCII. -/
  unicode : Bool := true
  /-- A carriage return ends a line too. -/
  returns : Bool := false
  /-- Repetitions are short unless a question mark asks for long ones. -/
  short : Bool := false
deriving DecidableEq, Repr

namespace Flags

/-- Sets or clears the flag with a letter. -/
def set? (flags : Flags) (letter : Char) (on : Bool) : Option Flags :=
  match letter with
  | 'i' => some { flags with ignoreCase := on }
  | 'm' => some { flags with multiline := on }
  | 's' => some { flags with dotAll := on }
  | 'x' => some { flags with spaced := on }
  | 'u' => some { flags with unicode := on }
  | 'R' => some { flags with returns := on }
  | 'U' => some { flags with short := on }
  | _ => none

/-- What ends a list of flags: a colon, when a group follows, or a parenthesis. -/
inductive Close where
  | colon | parenthesis
deriving DecidableEq, Repr

/-- Reads letters up to the end of a list of flags. Those after a hyphen are cleared. `seen` has the
letters and the hyphen read so far, last first. -/
def read (flags : Flags) (seen : List Char) : Reader (Flags × List Char × Close)
  | [] => .error .unexpectedEnd
  | c :: text =>
    if c = ':' ∨ c = ')' then
      if seen.head? = some '-' then .error .danglingNegation
      else .ok (.one (flags, seen, if c = ':' then .colon else .parenthesis) c text)
    else if c ∈ seen then .error (.repeatedFlag c)
    else if c = '-' then (flags.read ('-' :: seen) text).map (·.behind c)
    else
      match flags.set? c ('-' ∉ seen) with
      | some flags => (flags.read (c :: seen) text).map (·.behind c)
      | none => .error (.unknownFlag c)

/-! ## Blanks and comments -/

/-- Drops blanks and comments from the front. A comment begins with `#` and ends with its line. -/
def dropBlanks (inComment : Bool) : List Char → List Char
  | [] => []
  | c :: text =>
    if inComment then dropBlanks (c ≠ '\n') text
    else if Text.isSpace c then dropBlanks false text
    else if c = '#' then dropBlanks true text
    else c :: text

theorem length_dropBlanks_le (inComment : Bool) (text : List Char) :
    (dropBlanks inComment text).length ≤ text.length := by
  fun_induction dropBlanks inComment text <;> grind

/-- Drops what the flags say is to be skipped. -/
def skip (flags : Flags) (text : List Char) : List Char :=
  if flags.spaced then dropBlanks false text else text

theorem length_skip_le (flags : Flags) (text : List Char) :
    (flags.skip text).length ≤ text.length := by
  unfold skip
  split
  · exact length_dropBlanks_le _ _
  · exact Nat.le_refl _

/-- Takes what is to be skipped. -/
def skipped (flags : Flags) (text : List Char) : Found Unit text :=
  ⟨(), flags.skip text, flags.length_skip_le text⟩

/-- Takes the next character that is not skipped. -/
def next? (flags : Flags) (text : List Char) : Option (Found Char text) :=
  match flags.skipped text with
  | ⟨_, [], _⟩ => none
  | ⟨_, c :: rest, le⟩ => some ⟨c, rest, Nat.le_of_succ_le le⟩

theorem length_lt_of_next? {flags : Flags} {text : List Char} {found : Found Char text}
    (h : flags.next? text = some found) : found.rest.length < text.length := by
  unfold next? at h
  split at h
  · simp at h
  · rename_i le _
    obtain rfl := Option.some.inj h
    exact le

/-- The character that decides whether a hyphen in a class makes a range. A comment is looked into:
the first character in it that is no blank decides. -/
def ahead? (flags : Flags) (text : List Char) : Option Char :=
  if flags.spaced then
    match text.dropWhile Text.isSpace with
    | '#' :: comment => (comment.dropWhile Text.isSpace).head?
    | text => text.head?
  else text.head?

/-- Takes characters as long as they belong to a class, and what is skipped after each. -/
def takeWhile (flags : Flags) (belongs : Char → Bool) : (text : List Char) → Found (List Char) text
  | [] => .here [] []
  | c :: rest =>
    if belongs c then
      let others := flags.takeWhile belongs (flags.skip rest)
      (((flags.skipped rest).andThen others).map (c :: ·)).behind c
    else .here [] (c :: rest)
termination_by text => text.length
decreasing_by exact Nat.lt_succ_of_le (flags.length_skip_le rest)

/-- Reads characters of a class up to a closing brace; `text` begins after the opening one. -/
def braced (flags : Flags) (belongs : Char → Bool) (otherwise : SyntaxError) :
    Reader (List Char) := fun text =>
  let start := flags.skipped text
  let content := flags.takeWhile belongs start.rest
  match Found.exactly? ['\x7d'] content.rest with
  | some close => .ok (start.andThen (content.andThen (close.map fun _ => content.value)))
  | none => .error otherwise

/-! ## Sets under flags -/

/-- Extends a set to what agrees with it, if case is ignored. -/
def fold (flags : Flags) (set : CharSet) : CharSet :=
  if flags.ignoreCase then set.fold flags.unicode else set

/-- Negates a set. Only with Unicode are there characters beyond ASCII to which this could lead. -/
def negate (flags : Flags) (negated : Bool) (set : CharSet) : Except SyntaxError CharSet :=
  if negated then if flags.unicode then .ok (.compl set) else .error .beyondAscii else .ok set

/-- The set of a character in a class. -/
def member (flags : Flags) (c : Char) : Except SyntaxError CharSet :=
  if flags.unicode ∨ c.val < 128 then .ok (.single c) else .error .beyondAscii

/-- The set of a character that stands for itself. -/
def literal (flags : Flags) (c : Char) : CharSet :=
  if flags.ignoreCase ∧ (flags.unicode ∨ c.val < 128) then .variants flags.unicode c else .single c

/-- The set of a dot. -/
def dot (flags : Flags) : Except SyntaxError CharSet :=
  if !flags.unicode then .error .beyondAscii
  else if flags.dotAll then .ok .all
  else if flags.returns then .ok (.compl (.union (.single '\r') (.single '\n')))
  else .ok (.compl (.single '\n'))

/-- The characters of words. -/
def word (flags : Flags) : CharSet := if flags.unicode then .word else .asciiWord

end Flags

end Conform.Regex
