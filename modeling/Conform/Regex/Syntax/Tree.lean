import Conform.Regex.Pattern
import Conform.Regex.Syntax.Repetition
/-!
# Syntax trees

The tree of a pattern keeps how its text is put together: which groups there are, which of them
capture what they match, and how deeply all that is nested. The meaning of a tree is a pattern.
-/

namespace Conform.Regex

inductive Tree where
  /-- What matches nothing, such as a change of flags. -/
  | empty
  /-- A character of a set. The text of the set is nested, if the set is written in brackets. -/
  | set (set : CharSet) (depth : Nat)
  | assertion (assertion : Assertion)
  | group (captures : Bool) (content : Tree)
  | repeated (content : Tree) (repetition : Repetition)
  | sequence (parts : List Tree)
  | choice (branches : List Tree)

namespace Tree

/-- Parts one after the other. One part is no sequence. -/
def ofParts : List Tree → Tree
  | [] => empty
  | [part] => part
  | parts => sequence parts

/-- The branches of a choice. One branch is no choice. -/
def ofBranches : List Tree → Tree
  | [branch] => branch
  | branches => choice branches

/-! ## Comparison -/

mutual

/-- Whether two trees are the same. -/
def same : Tree → Tree → Bool
  | empty, empty => true
  | set s m, set t n => s = t && m = n
  | assertion a, assertion b => a = b
  | group captures t, group others u => captures = others && t.same u
  | repeated t r, repeated u s => r = s && t.same u
  | sequence ts, sequence us | choice ts, choice us => sameAll ts us
  | _, _ => false

def sameAll : List Tree → List Tree → Bool
  | [], [] => true
  | t :: ts, u :: us => t.same u && sameAll ts us
  | _, _ => false

end

mutual

theorem same_iff : (t u : Tree) → (t.same u = true ↔ t = u)
  | empty, u | set _ _, u | assertion _, u => by cases u <;> simp [same]
  | group _ t, u => by cases u <;> simp [same, same_iff t]
  | repeated t _, u => by cases u <;> simp [same, same_iff t, and_comm]
  | sequence ts, u | choice ts, u => by cases u <;> simp [same, sameAll_iff ts]

theorem sameAll_iff : (ts us : List Tree) → (sameAll ts us = true ↔ ts = us)
  | [], us => by cases us <;> simp [sameAll]
  | t :: ts, us => by cases us <;> simp [sameAll, same_iff t, sameAll_iff ts]

end

instance : DecidableEq Tree := fun t u => decidable_of_iff _ (same_iff t u)

/-! ## Depth -/

mutual

/-- How deeply a tree is nested. -/
def depth : Tree → Nat
  | empty | assertion _ => 0
  | set _ depth => depth
  | group _ content | repeated content _ => content.depth + 1
  | sequence parts => depthOfAll parts + 1
  | choice branches => depthOfAll branches + 1

/-- How deeply the deepest of some trees is nested. -/
def depthOfAll : List Tree → Nat
  | [] => 0
  | tree :: trees => max tree.depth (depthOfAll trees)

end

/-- How deeply the tree of a pattern may be nested. -/
def depthLimit : Nat := 250

/-! ## Meaning -/

mutual

/-- The pattern that a tree means. -/
def pattern : Tree → Pattern
  | empty => .empty
  | set s _ => .chars s
  | assertion a => .assertion a
  | group _ content => content.pattern
  | repeated content repetition => .rep content.pattern repetition.least repetition.extra?
  | sequence parts => patternOfParts parts
  | choice branches => patternOfBranches branches

/-- The pattern of parts one after the other. -/
def patternOfParts : List Tree → Pattern
  | [] => .empty
  | part :: parts => part.pattern.followedBy (patternOfParts parts)

/-- The pattern of the branches of a choice. -/
def patternOfBranches : List Tree → Pattern
  | [] => .empty
  | [branch] => branch.pattern
  | branch :: branches => .alt branch.pattern (patternOfBranches branches)

end

end Tree

end Conform.Regex
