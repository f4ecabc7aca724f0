import Conform.Regex.Automaton.Bytes
import Conform.Regex.Syntax.Tree
/-!
# Forms of patterns

The automaton of a pattern is made from a form of it that is simpler than its tree: what matches
nothing is left out, letters that follow each other are one literal, and a choice between letters is
a set. What all branches of a choice begin with is taken out of the choice.
-/

namespace Conform.Regex

open Unicode (Range)

inductive Form where
  | empty
  | literal (text : List Char)
  | set (ranges : List Range)
  | assertion (assertion : Assertion)
  | capture (content : Form)
  | repeated (content : Form) (least : Nat) (most? : Option Nat) (short : Bool)
  | sequence (parts : List Form)
  | choice (branches : List Form)

namespace Form

/-! ## Comparison -/

mutual

/-- Whether two forms are the same. Captures never are, as each belongs to a group of its own. -/
def same : Form → Form → Bool
  | empty, empty => true
  | literal s, literal t => s = t
  | set r, set s => r = s
  | assertion a, assertion b => a = b
  | repeated f least most? short, repeated g l m? s =>
    least = l && most? = m? && short = s && f.same g
  | sequence fs, sequence gs | choice fs, choice gs => sameAll fs gs
  | _, _ => false

def sameAll : List Form → List Form → Bool
  | [], [] => true
  | f :: fs, g :: gs => f.same g && sameAll fs gs
  | _, _ => false

end

/-! ## Lengths -/

mutual

/-- The least number of bytes of a match, if anything can match. -/
def minLength? : Form → Option Nat
  | empty | assertion _ => some 0
  | literal text => some (text.foldl (fun n c => n + byteCount c.toNat) 0)
  | set ranges => ranges.head?.map fun r => byteCount r.first
  | capture f => f.minLength?
  | repeated f least _ _ => f.minLength?.map (· * least)
  | sequence parts => minLengthOfParts? parts
  | choice branches => minLengthOfBranches? branches

def minLengthOfParts? : List Form → Option Nat
  | [] => some 0
  | f :: fs => do return (← f.minLength?) + (← minLengthOfParts? fs)

def minLengthOfBranches? : List Form → Option Nat
  | [] => none
  | [f] => f.minLength?
  | f :: fs => do return min (← f.minLength?) (← minLengthOfBranches? fs)

end

mutual

/-- The greatest number of bytes of a match, if there is one. -/
def maxLength? : Form → Option Nat
  | empty | assertion _ => some 0
  | literal text => some (text.foldl (fun n c => n + byteCount c.toNat) 0)
  | set ranges => ranges.getLast?.map fun r => byteCount r.last
  | capture f => f.maxLength?
  | repeated f _ most? _ => do return (← f.maxLength?) * (← most?)
  | sequence parts => maxLengthOfParts? parts
  | choice branches => maxLengthOfBranches? branches

def maxLengthOfParts? : List Form → Option Nat
  | [] => some 0
  | f :: fs => do return (← f.maxLength?) + (← maxLengthOfParts? fs)

def maxLengthOfBranches? : List Form → Option Nat
  | [] => none
  | [f] => f.maxLength?
  | f :: fs => do return max (← f.maxLength?) (← maxLengthOfBranches? fs)

end

mutual

/-- The number of forms inside a form, itself included. -/
def size : Form → Nat
  | capture f | repeated f _ _ _ => f.size + 1
  | sequence fs | choice fs => sizeOfAll fs + 1
  | _ => 1

def sizeOfAll : List Form → Nat
  | [] => 0
  | f :: fs => f.size + sizeOfAll fs

end

/-! ## Construction -/

/-- The form of a set. A set of one character is a literal. -/
def ofRanges : List Range → Form
  | [⟨first, last⟩] =>
    if first = last then literal [Char.ofNat first] else set [⟨first, last⟩]
  | ranges => set ranges

/-- The form of a repetition. What only matches nothing need not be repeated. -/
def ofRepetition (f : Form) (least : Nat) (most? : Option Nat) (short : Bool) : Form :=
  let empty? := f.maxLength? = some 0
  let least := if empty? then min least 1 else least
  let most? := if empty? then some (min (most?.getD 1) 1) else most?
  if most? = some 0 then empty
  else if least = 1 ∧ most? = some 1 then f
  else repeated f least most? short

/-- Joins literals that follow each other. -/
def joinLiterals : List Form → List Form
  | [] => []
  | literal s :: fs =>
    match joinLiterals fs with
    | literal t :: gs => literal (s ++ t) :: gs
    | gs => literal s :: gs
  | f :: fs => f :: joinLiterals fs

/-- The form of parts one after the other. -/
def ofParts (parts : List Form) : Form :=
  let inner := parts.flatMap fun
    | empty => []
    | sequence fs => fs
    | f => [f]
  match joinLiterals inner with
  | [] => empty
  | [f] => f
  | fs => sequence fs

/-- The set of branches that all are single characters, or all are sets. -/
def branchSet? (branches : List Form) : Option (List Range) :=
  let single? : Form → Option (List Range)
    | literal [c] => some [⟨c.toNat, c.toNat⟩]
    | _ => none
  let set? : Form → Option (List Range)
    | set ranges => some ranges
    | _ => none
  (branches.mapM single? <|> branches.mapM set?).map fun sets => Unicode.Ranges.ofList sets.flatten

/-- The parts of a sequence. -/
def parts : Form → List Form
  | sequence fs => fs
  | _ => []

/-- What two lists of forms both begin with. -/
def commonFront : List Form → List Form → List Form
  | f :: fs, g :: gs => if f.same g then f :: commonFront fs gs else []
  | _, _ => []

/-- The form of a choice. At most `lifts` times, what all branches begin with is taken out. -/
def ofBranchesWithin (lifts : Nat) (branches : List Form) : Form :=
  let inner := branches.flatMap fun
    | choice fs => fs
    | f => [f]
  match inner with
  | [] => set []
  | [f] => f
  | f :: fs =>
    match branchSet? inner with
    | some ranges => ofRanges ranges
    | none =>
      match lifts, fs.foldl (fun front g => commonFront front g.parts) f.parts with
      | lifts + 1, g :: front =>
        let rests := inner.map fun branch => ofParts (branch.parts.drop (front.length + 1))
        ofParts (g :: front ++ [ofBranchesWithin lifts rests])
      | _, _ => choice inner

/-- The form of a choice. Each time that something is taken out the branches get smaller. -/
def ofBranches (branches : List Form) : Form := ofBranchesWithin (sizeOfAll branches) branches

end Form

namespace Tree

mutual

/-- The form of a tree. -/
def form : Tree → Form
  | empty => .empty
  | set s _ => .ofRanges s.ranges
  | assertion a => .assertion a
  | group captures content => if captures then .capture content.form else content.form
  | repeated content repetition =>
    .ofRepetition content.form repetition.least
      (repetition.extra?.map (repetition.least + ·)) repetition.short
  | sequence parts => .ofParts (forms parts)
  | choice branches => .ofBranches (forms branches)

def forms : List Tree → List Form
  | [] => []
  | tree :: trees => tree.form :: forms trees

end

end Tree

end Conform.Regex
