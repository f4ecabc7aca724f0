import Conform.Regex.Assertion
/-!
# Patterns

A pattern is a regular expression with assertions. Whether it matches a piece of a text depends on
the characters on both sides of the piece too, since the assertions look at them; `Matches` says
when it does.
-/

namespace Conform.Regex

inductive Pattern where
  | empty
  | chars (set : CharSet)
  | assertion (assertion : Assertion)
  | seq (first second : Pattern)
  | alt (left right : Pattern)
  /-- The pattern `least` times and then at most `extra?` times more, or any number of times. -/
  | rep (pattern : Pattern) (least : Nat) (extra? : Option Nat)
deriving DecidableEq, Repr

namespace Pattern

/-- The pattern matches `text` where `before` and `after` are the characters around it. -/
inductive Matches : Pattern → Option Char → List Char → Option Char → Prop where
  | empty {before after} : Matches empty before [] after
  | chars {before after c} {set : CharSet} (inside : set.contains c = true) :
    Matches (chars set) before [c] after
  | assertion {before after} {a : Assertion} (holds : a.holds before after = true) :
    Matches (assertion a) before [] after
  | seq {before u v after p q} (first : Matches p before u (v.head?.or after))
    (second : Matches q (u.getLast?.or before) v after) : Matches (seq p q) before (u ++ v) after
  | left {before text after p q} (matched : Matches p before text after) :
    Matches (alt p q) before text after
  | right {before text after p q} (matched : Matches q before text after) :
    Matches (alt p q) before text after
  | done {before after p extra?} : Matches (rep p 0 extra?) before [] after
  | needed {before u v after p least extra?} (first : Matches p before u (v.head?.or after))
    (others : Matches (rep p least extra?) (u.getLast?.or before) v after) :
    Matches (rep p (least + 1) extra?) before (u ++ v) after
  | further {before u v after p extra} (first : Matches p before u (v.head?.or after))
    (others : Matches (rep p 0 (some extra)) (u.getLast?.or before) v after) :
    Matches (rep p 0 (some (extra + 1))) before (u ++ v) after
  | again {before u v after p} (first : Matches p before u (v.head?.or after))
    (others : Matches (rep p 0 none) (u.getLast?.or before) v after) :
    Matches (rep p 0 none) before (u ++ v) after

/-- The pattern matches a piece at the front of a text that stands after `before`. -/
def MatchesFront (p : Pattern) (before : Option Char) (text : List Char) : Prop :=
  ∃ piece rest, text = piece ++ rest ∧ p.Matches before piece rest.head?

/-- The pattern matches a piece of a text that stands after `before`. -/
def MatchesWithin (p : Pattern) (before : Option Char) (text : List Char) : Prop :=
  ∃ front rest, text = front ++ rest ∧ p.MatchesFront (front.getLast?.or before) rest

/-- The pattern matches a piece of a whole text. -/
def FoundIn (p : Pattern) (text : List Char) : Prop := p.MatchesWithin none text

/-! ## Composed patterns -/

def char (c : Char) : Pattern := chars (.single c)

/-- One pattern after the other; the empty one is left out. -/
def followedBy : Pattern → Pattern → Pattern
  | empty, q => q
  | p, empty => p
  | p, q => seq p q

def sequence (patterns : List Pattern) : Pattern := patterns.foldr followedBy empty

def optional (p : Pattern) : Pattern := rep p 0 (some 1)

def star (p : Pattern) : Pattern := rep p 0 none

def plus (p : Pattern) : Pattern := rep p 1 none

end Pattern

end Conform.Regex
