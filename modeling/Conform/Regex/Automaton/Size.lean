import Conform.Regex.Automaton.Form
import Conform.Regex.Automaton.Trie
/-!
# The size of the automaton of a pattern

A pattern makes two automata: one that reads a text forwards and also notes what groups capture, and
one that reads backwards. A pattern is refused if one of them takes up too much room.

Every piece of an automaton has a last state. If that state is a fork, linking it to what comes next
takes room of its own; a counting function answers whether it is.
-/

namespace Conform.Regex

namespace Tally

/-- Links the last state of a piece to what comes next. -/
def linkEnd (forks : Bool) : Count Unit := if forks then addForks 1 else return ()

/-! ## Repetitions -/

/-- Counts further copies of a piece after something that `forks` or not. -/
def addCopies (piece : Count Bool) : Nat → Bool → Count Bool
  | 0, forks => return forks
  | copies + 1, forks => do
    let next ← piece
    linkEnd forks
    addCopies piece copies next

/-- Counts as many copies of a piece one after the other. -/
def addExactly (piece : Count Bool) : Nat → Count Bool
  | 0 => do
    add 1 0
    return false
  | copies + 1 => do addCopies piece copies (← piece)

/-- Counts any number of rounds of a piece, of which `empty` says whether it can match nothing. -/
def addStar (piece : Count Bool) (empty : Bool) : Count Bool := do
  if empty then
    let forks ← piece
    add 3 0
    linkEnd forks
    addForks 4
    return false
  else
    add 1 0
    let forks ← piece
    linkEnd forks
    addForks 1
    return true

/-- Counts copies of a piece, the last of which can be repeated. -/
def addAtLeast (piece : Count Bool) (copies : Nat) (empty : Bool) : Count Bool :=
  match copies with
  | 0 => addStar piece empty
  | 1 => do
    let forks ← piece
    add 1 0
    linkEnd forks
    addForks 1
    return true
  | copies + 1 => do
    let front ← addExactly piece copies
    let forks ← piece
    add 1 0
    linkEnd front
    linkEnd forks
    addForks 1
    return true

/-- Counts copies of a piece each of which can be left out together with those behind it. -/
def addOptional (piece : Count Bool) : Nat → Bool → Count Bool
  | 0, forks => return forks
  | copies + 1, forks => do
    add 1 0
    let next ← piece
    linkEnd forks
    addForks 2
    addOptional piece copies next

/-- Counts a repetition of a piece. -/
def addRepetition (piece : Count Bool) (least : Nat) (most? : Option Nat) (empty : Bool) :
    Count Bool :=
  match least, most? with
  | least, none => addAtLeast piece least empty
  | 0, some 1 => do
    add 1 0
    let forks ← piece
    add 1 0
    addForks 2
    linkEnd forks
    return false
  | least, some most => do
    let front ← addExactly piece least
    if least = most then return front
    add 1 0
    let last ← addOptional piece (most - least) front
    linkEnd last
    return false

end Tally

namespace Form

open Tally

/-- The literals of branches, if all of them are literals. -/
def literals? (branches : List Form) : Option (List (List Char)) :=
  branches.mapM fun
    | literal text => some text
    | _ => none

mutual

/-- Counts the states of a form. -/
def count (backwards : Bool) : Form → Count Bool
  | empty | assertion _ => do
    add 1 0
    return false
  | literal text => do
    add (text.foldl (fun n c => n + byteCount c.toNat) 0) 0
    return false
  | set ranges => addSet backwards ranges
  | capture f =>
    if backwards then f.count backwards
    else do
      add 1 0
      let forks ← f.count backwards
      add 1 0
      linkEnd forks
      return false
  | repeated f least most? _ =>
    addRepetition (f.count backwards) least most? (f.minLength?.getD 0 = 0)
  | sequence parts => return (← countParts backwards parts none).getD false
  | choice branches => do
    match literals? branches with
    | some literals => addLiterals backwards literals
    | none => countBranches backwards branches 0
    return false

/-- Counts the states of parts one after the other, the last one first if they are read backwards.
`forks?` and the answer tell of the last state so far, if there is one. -/
def countParts (backwards : Bool) : List Form → Option Bool → Count (Option Bool)
  | [], forks? => return forks?
  | f :: fs, forks? => do
    let before ← if backwards then countParts backwards fs forks? else return forks?
    let forks ← f.count backwards
    linkEnd (before.getD false)
    if backwards then return some forks else countParts backwards fs (some forks)

/-- Counts the states of branches, of which the first `earlier` have been counted. With the second
one come the states around the branches. -/
def countBranches (backwards : Bool) : List Form → Nat → Count Unit
  | [], _ => return ()
  | f :: fs, earlier => do
    let forks ← f.count backwards
    if earlier = 1 then add 2 0
    addForks 1
    linkEnd forks
    countBranches backwards fs (earlier + 1)

end

mutual

/-- Whether a match can only begin at the start of a text; or backwards, only end at the end. -/
def isAnchored (backwards : Bool) : Form → Bool
  | assertion a => a = if backwards then .textEnd else .textStart
  | capture f => f.isAnchored backwards
  | repeated f least _ _ => 0 < least && f.isAnchored backwards
  | sequence parts => (anchoredParts backwards parts).1
  | choice branches => anchoredBranches backwards branches
  | _ => false

/-- Whether the first part that takes up characters, or one before it, is anchored; and whether
there is no such part. -/
def anchoredParts (backwards : Bool) : List Form → Bool × Bool
  | [] => (false, true)
  | f :: fs =>
    let passes := f.maxLength? = some 0
    let rest := anchoredParts backwards fs
    if backwards then (rest.1 || (rest.2 && f.isAnchored backwards), rest.2 && passes)
    else (f.isAnchored backwards || (passes && rest.1), passes && rest.2)

def anchoredBranches (backwards : Bool) : List Form → Bool
  | [] => true
  | f :: fs => f.isAnchored backwards && anchoredBranches backwards fs

end

/-- Counts the states of a whole automaton. Unless the form is anchored it begins with states that
pass over any bytes. -/
def countAll (backwards : Bool) (form : Form) : Count Unit := do
  let anchored := form.isAnchored backwards
  if anchored then add 1 0
  else
    add 3 8
    addForks 2
  if !backwards then add 1 0
  let forks ← form.count backwards
  add (if backwards then 1 else 2) 0
  linkEnd forks

/-- Whether there is room for the automata of a form. -/
def fits (form : Form) : Bool :=
  ((countAll false form).run {}).isSome && ((countAll true form).run {}).isSome

end Form

end Conform.Regex
