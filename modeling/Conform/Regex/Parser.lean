import Conform.Regex.Automaton.Size
import Conform.Regex.Syntax.Bracket
import Conform.Regex.Syntax.Group
import Conform.Regex.Syntax.Tree
/-!
# Patterns from text

The text of a pattern is read from left to right, group by group. What has been read of a group is
its closed branches and the pieces of the branch at hand; the last piece can still be repeated.
-/

namespace Conform.Regex

/-- A group as far as it has been read, the last branch and the last piece first. -/
structure Branches where
  closed : List Tree := []
  pieces : List Tree := []
  last? : Option Tree := none

namespace Branches

/-- The branch at hand. -/
def branch (group : Branches) : Tree := .ofParts (group.last?.toList ++ group.pieces).reverse

def add (group : Branches) (piece : Tree) : Branches :=
  { group with pieces := group.last?.toList ++ group.pieces, last? := some piece }

/-- Goes on after a change of flags, which cannot be repeated. -/
def change (group : Branches) : Branches :=
  { group with pieces := .empty :: (group.last?.toList ++ group.pieces), last? := none }

/-- Begins another branch. -/
def bar (group : Branches) : Branches := { closed := group.branch :: group.closed }

/-- Repeats the last piece. -/
def repeated (group : Branches) (repetition : Repetition) : Except SyntaxError Branches :=
  match group.last? with
  | some piece => .ok { group with last? := some (.repeated piece repetition) }
  | none => .error .nothingToRepeat

/-- The tree of the whole group. -/
def tree (group : Branches) : Tree := .ofBranches (group.branch :: group.closed).reverse

end Branches

namespace Flags

/-- The piece that an atom makes. -/
def atomPiece (flags : Flags) : Atom → Tree
  | .char c => .set (flags.literal c) 0
  | .set set => .set set 0
  | .assertion assertion => .assertion assertion

/-- Reads the piece that begins with `c`, which is neither a group nor a class. -/
def piece (flags : Flags) (c : Char) : Reader Tree := fun text =>
  match c with
  | '\\' => (flags.escape text).map (·.map flags.atomPiece)
  | '.' => flags.dot.map fun set => .here (.set set 0) text
  | '^' =>
    let start := if flags.multiline then Assertion.lineStart flags.returns else .textStart
    .ok (.here (.assertion start) text)
  | '$' =>
    let finish := if flags.multiline then Assertion.lineEnd flags.returns else .textEnd
    .ok (.here (.assertion finish) text)
  | c => .ok (.here (.set (flags.literal c) 0) text)

/-- Reads a group up to the parenthesis that closes it, or to the end of the text; the parenthesis
is not taken. The find includes the names of all groups so far. -/
def groupRest (flags : Flags) (names : List String) (group : Branches) (text : List Char) :
    Except SyntaxError (Found (Tree × List String) text) :=
  match found : flags.next? text with
  | none => .ok ((flags.skipped text).map fun _ => (group.tree, names))
  | some next =>
    have := length_lt_of_next? found
    match next.value with
    | ')' => .ok ((flags.skipped text).map fun _ => (group.tree, names))
    | '|' => (flags.groupRest names group.bar next.rest).map next.andThen
    | '(' => do
      let opening ← flags.opening names next.rest
      have := opening.le
      match opening.value with
      | .directive flags =>
        let others ← flags.groupRest names group.change opening.rest
        return next.andThen (opening.andThen others)
      | .group captures innerFlags names =>
        let inner ← innerFlags.groupRest names {} opening.rest
        have := inner.le
        match Found.exactly? [')'] inner.rest with
        | none => throw .unclosedGroup
        | some close =>
          have := close.le
          let group := group.add (.group captures inner.value.1)
          let others ← flags.groupRest inner.value.2 group close.rest
          return next.andThen (opening.andThen (inner.andThen (close.andThen others)))
    | '[' => do
      let set ← flags.bracketClass next.rest
      have := set.le
      let others ← flags.groupRest names (group.add (.set set.value.set set.value.depth)) set.rest
      return next.andThen (set.andThen others)
    | c =>
      match flags.repetition? c next.rest with
      | some repetition => do
        let repetition ← repetition
        have := repetition.le
        let group ← group.repeated repetition.value
        let others ← flags.groupRest names group repetition.rest
        return next.andThen (repetition.andThen others)
      | none => do
        let piece ← flags.piece c next.rest
        have := piece.le
        let others ← flags.groupRest names (group.add piece.value) piece.rest
        return next.andThen (piece.andThen others)
termination_by text.length

end Flags

/-- The tree of a text. -/
def Tree.parse (text : String) : Except SyntaxError Tree := do
  let found ← ({} : Flags).groupRest [] {} text.toList
  if found.rest = [] then return found.value.1 else throw .unopenedGroup

/-- The pattern that a text denotes. -/
def Pattern.parse (text : String) : Except SyntaxError Pattern := do
  let tree ← Tree.parse text
  if Tree.depthLimit < tree.depth then throw .tooDeep
  if !tree.form.fits then throw .tooLarge
  return tree.pattern

end Conform.Regex
