import Conform.Regex.Pattern
/-!
# Search

A text is searched from left to right, one character at a time. The search keeps the places in the
pattern that have been reached by the matches that have begun so far. It begins a match at every
character, and it is over when one of them can end.
-/

namespace Conform.Regex

/-- Places in a pattern that matches have reached. -/
inductive Places where
  /-- No place. -/
  | none
  /-- Behind the character that a set of characters has taken up. -/
  | taken
  /-- Places in the two parts of a pattern. -/
  | parts (left right : Places)
  /-- Places inside a round of a repetition that has `least` and `extra?` left after the round, and
  places inside further rounds. -/
  | round (least : Nat) (extra? : Option Nat) (inside others : Places)
deriving DecidableEq, Repr

namespace Places

/-- Places in the two parts, if there are any. -/
def ofParts : Places → Places → Places
  | none, none => none
  | left, right => parts left right

/-- Whether a repetition that needs `m` rounds and allows `f?` more takes all numbers of rounds that
one with `l` and `e?` takes. -/
def covers (m : Nat) (f? : Option Nat) (l : Nat) (e? : Option Nat) : Bool :=
  m ≤ l &&
    match f?, e? with
    | .none, _ => true
    | some _, .none => false
    | some f, some e => l + e ≤ m + f

/-- Adds places inside a round, if there are any. Of two rounds that have reached the same places
the one is enough that covers the other. -/
def addRound (l : Nat) (e? : Option Nat) : Places → Places → Places
  | none, others => others
  | inside, round m f? x others =>
    if covers m f? l e? && x == inside then round m f? x others
    else if covers l e? m f? && x == inside then round l e? inside others
    else round l e? inside (round m f? x others)
  | inside, others => round l e? inside others

end Places

namespace Pattern

/-- Whether the pattern matches nothing between two characters. -/
def isNullable (before after : Option Char) : Pattern → Bool
  | empty => true
  | chars _ => false
  | assertion a => a.holds before after
  | seq p q => p.isNullable before after && q.isNullable before after
  | alt p q => p.isNullable before after || q.isNullable before after
  | rep p least _ => least == 0 || p.isNullable before after

/-- What is left of a repetition when it has just gone through one round that took up a character.
If the round may be empty, the rounds that are still needed can be taken as empty ones. -/
def nextRounds (nullable : Bool) : Nat → Option Nat → Option (Nat × Option Nat)
  | 0, none => some (0, none)
  | 0, some 0 => none
  | 0, some (extra + 1) => some (0, some extra)
  | least + 1, extra? =>
    if nullable then some (0, extra?.map (least + ·)) else some (least, extra?)

/-- What is left of a repetition when a match goes on to a round of it, if there is such a match. -/
def onward? (before : Option Char) (c : Char) (p : Pattern) (least : Nat) (extra? : Option Nat)
    (entered : Bool) : Option (Nat × Option Nat) :=
  if entered then nextRounds (p.isNullable before (some c)) least extra? else none

/-- Whether a match that has reached one of the places can end between two characters. -/
def canEnd (before after : Option Char) : Pattern → Places → Bool
  | chars _, .taken => true
  | seq p q, .parts x y =>
    (p.canEnd before after x && q.isNullable before after) || q.canEnd before after y
  | alt p q, .parts x y => p.canEnd before after x || q.canEnd before after y
  | rep p least extra?, .round l _ x others =>
    (p.canEnd before after x && (l == 0 || p.isNullable before after)) ||
      (rep p least extra?).canEnd before after others
  | _, _ => false

/-- The places that a match reaches when it begins with `c`, after `before`. -/
def enter (before : Option Char) (c : Char) : Pattern → Places
  | empty => .none
  | chars set => if set.contains c then .taken else .none
  | assertion _ => .none
  | seq p q =>
    .ofParts (p.enter before c)
      (if p.isNullable before (some c) then q.enter before c else .none)
  | alt p q => .ofParts (p.enter before c) (q.enter before c)
  | rep p least extra? =>
    match nextRounds (p.isNullable before (some c)) least extra? with
    | none => .none
    | some (l, e) => .addRound l e (p.enter before c) .none

/-- The places that matches reach from `places` when they go on with `c`, after `before`, and those
that a match reaches that begins with `c`, if `entered`. A match that goes on to another round of a
repetition enters the repetition that is left. -/
def advance (before : Option Char) (c : Char) : Pattern → Places → Bool → Places
  | seq p q, .parts x y, entered =>
    .ofParts (p.advance before c x entered)
      (q.advance before c y
        (p.canEnd before (some c) x || (entered && p.isNullable before (some c))))
  | alt p q, .parts x y, entered =>
    .ofParts (p.advance before c x entered) (q.advance before c y entered)
  | rep p least extra?, .round l e x others, entered =>
    let first? := onward? before c p least extra? entered
    let ends := p.canEnd before (some c) x
    let again := onward? before c p l e ends = some (l, e)
    let rounds :=
      .addRound l e (p.advance before c x (first? = some (l, e) || again))
        ((rep p l e).advance before c others (ends && !again))
    match first? with
    | none => rounds
    | some (l', e') =>
      if (l', e') = (l, e) then rounds else .addRound l' e' (p.enter before c) rounds
  | p, _, entered => if entered then p.enter before c else .none

/-- Whether a match that has reached one of the places can end, from here on, or a match that begins
from here on can end. -/
def searchFrom (p : Pattern) (places : Places) (before : Option Char) : List Char → Bool
  | [] => p.canEnd before none places || p.isNullable before none
  | c :: text =>
    p.canEnd before (some c) places || p.isNullable before (some c) ||
      p.searchFrom (p.advance before c places true) (some c) text

/-- Whether the pattern matches a piece of the text. -/
def isFoundIn (p : Pattern) (text : String) : Bool := p.searchFrom .none none text.toList

end Pattern

end Conform.Regex
