import Conform.Regex.Syntax.Error
/-!
# Readers

A reader finds something at the front of a text and leaves a rest that is not longer than the text,
which is why reading ends.
-/

namespace Conform.Regex

/-- What was found at the front of `text`, and the rest of it. -/
structure Found (α : Type) (text : List Char) where
  value : α
  rest : List Char
  le : rest.length ≤ text.length

/-- Finds something of type `α` or tells why there is none. -/
abbrev Reader (α : Type) := (text : List Char) → Except SyntaxError (Found α text)

namespace Found

variable {α β : Type} {text : List Char}

/-- Takes nothing of the text. -/
def here (value : α) (text : List Char) : Found α text := ⟨value, text, Nat.le_refl _⟩

/-- Takes one character. -/
def one (value : α) (c : Char) (text : List Char) : Found α (c :: text) :=
  ⟨value, text, Nat.le_succ _⟩

def map (f : α → β) (found : Found α text) : Found β text := ⟨f found.value, found.rest, found.le⟩

/-- What was found in the rest, seen from the front. -/
def andThen (found : Found α text) (next : Found β found.rest) : Found β text :=
  ⟨next.value, next.rest, Nat.le_trans next.le found.le⟩

/-- What was found behind a character, seen from the front. -/
def behind (c : Char) (found : Found α text) : Found α (c :: text) :=
  (one () c text).andThen found

/-- Takes a given text off the front. -/
def exactly? : List Char → (text : List Char) → Option (Found Unit text)
  | [], text => some (here () text)
  | _ :: _, [] => none
  | m :: mark, c :: text => if m = c then (exactly? mark text).map (behind c) else none

end Found

end Conform.Regex
