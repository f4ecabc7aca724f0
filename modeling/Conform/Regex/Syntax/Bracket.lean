import Conform.Regex.Syntax.Escape
/-!
# Character classes

A class stands in brackets: characters, ranges, escapes, named sets and further classes, joined, and
operators on what stands to both sides of them. All operators bind alike, from left to right.
-/

namespace Conform.Regex

inductive SetOperator where
  | inter | diff | symmDiff
deriving DecidableEq, Repr

def SetOperator.apply : SetOperator → CharSet → CharSet → CharSet
  | inter => .inter
  | diff => .diff
  | symmDiff => .symmDiff

/-- The operator that a character makes when it is written twice. -/
def SetOperator.ofChar? : Char → Option SetOperator
  | '&' => some inter
  | '-' => some diff
  | '~' => some symmDiff
  | _ => none

/-- A set of characters and how deeply the text of it is nested. -/
structure Operand where
  set : CharSet
  depth : Nat

/-- A class as far as it has been read: what stands before the last operator, with the operator, and
the items after it. `depth` is that of the deepest item. -/
structure Bracket where
  left? : Option (Operand × SetOperator) := none
  set : CharSet := .empty
  items : Nat := 0
  depth : Nat := 0

namespace Bracket

def add (bracket : Bracket) (item : Operand) : Bracket :=
  { bracket with
    set := .union bracket.set item.set
    items := bracket.items + 1
    depth := max bracket.depth item.depth }

/-- What stands after the last operator. Several items together are one level deeper. -/
def right (bracket : Bracket) : Operand :=
  ⟨bracket.set, if bracket.items < 2 then bracket.depth else bracket.depth + 1⟩

/-- The set of a class as far as it has been read. -/
def value (bracket : Bracket) (flags : Flags) : Operand :=
  let right := bracket.right
  match bracket.left? with
  | none => right
  | some (left, operator) =>
    ⟨operator.apply (flags.fold left.set) (flags.fold right.set), max left.depth right.depth + 1⟩

/-- What stands before the operator is one operand now. -/
def operate (bracket : Bracket) (flags : Flags) (operator : SetOperator) : Bracket :=
  { left? := some (bracket.value flags, operator) }

/-- The set of a whole class. -/
def close (bracket : Bracket) (flags : Flags) (negated : Bool) : Except SyntaxError Operand :=
  let value := bracket.value flags
  (flags.negate negated (flags.fold value.set)).map fun set => ⟨set, value.depth + 1⟩

end Bracket

namespace Flags

/-- Reads the character or escape of a class that begins with `c`. -/
def classAtom (flags : Flags) (c : Char) : Reader Atom := fun text =>
  if c = '\\' then flags.escape text else .ok (.here (.char c) text)

/-- The set of a part of a class that is no range. -/
def atomSet (flags : Flags) : Atom → Except SyntaxError CharSet
  | .char c => flags.member c
  | .set set => .ok set
  | .assertion _ => .error .assertionInClass

/-- The set of a range. Both of its ends are characters, in their order. -/
def rangeSet (flags : Flags) : Atom → Atom → Except SyntaxError CharSet
  | .char first, .char last =>
    if last < first then .error .invalidRange
    else if flags.unicode ∨ last.val < 128 then .ok (.range first last)
    else .error .beyondAscii
  | _, _ => .error .invalidRange

/-- Takes a hyphen that makes a range of what stands around it. A hyphen at the end of a class and
one of two hyphens do not. -/
def rangeMark? (flags : Flags) (text : List Char) : Option (Found Unit text) :=
  match flags.next? text with
  | none => none
  | some mark =>
    if mark.value = '-' ∧ flags.ahead? mark.rest ∉ [some ']', some '-'] then
      some (mark.andThen (flags.skipped mark.rest))
    else none

/-- Reads the character, escape or range of a class that begins with `c`. -/
def classItem (flags : Flags) (c : Char) : Reader CharSet := fun text => do
  let first ← flags.classAtom c text
  match flags.rangeMark? first.rest with
  | none =>
    let set ← flags.atomSet first.value
    return first.map fun _ => set
  | some mark =>
    match flags.next? mark.rest with
    | none => throw .unclosedClass
    | some d =>
      let last ← flags.classAtom d.value d.rest
      let set ← flags.rangeSet first.value last.value
      return first.andThen (mark.andThen (d.andThen (last.map fun _ => set)))

/-- Takes characters up to a given one. -/
def takeUntil (stop : Char) : (text : List Char) → Found (List Char) text
  | [] => .here [] []
  | c :: text =>
    if c = stop then .here [] (c :: text)
    else ((takeUntil stop text).map (c :: ·)).behind c

/-- Finds the name of an ASCII set between `[:` and `:]`, and whether the set is negated; `text`
begins after the bracket. -/
def asciiSet? (text : List Char) : Option (Found (Bool × CharSet) text) := do
  let colon ← Found.exactly? [':'] text
  let hat := (Found.exactly? ['^'] colon.rest).map (·.map fun _ => true)
  let negated := hat.getD (.here false colon.rest)
  let name := takeUntil ':' negated.rest
  let close ← Found.exactly? [':', ']'] name.rest
  let set ← CharSet.asciiNamed.lookup (String.ofList name.value)
  return colon.andThen (negated.andThen (name.andThen (close.map fun _ => (negated.value, set))))

/-- Reads the beginning of a class after its bracket: a negation, hyphens that stand for themselves,
and if there are none, a closing bracket that stands for itself. -/
def classStart (flags : Flags) (text : List Char) : Found (Bool × Bracket) text :=
  let start := flags.skipped text
  let negated : Found Bool start.rest :=
    match Found.exactly? ['^'] start.rest with
    | some hat => hat.andThen ((flags.skipped hat.rest).map fun _ => true)
    | none => .here false start.rest
  let hyphens := flags.takeWhile (· == '-') negated.rest
  let literal : Found Bracket negated.rest :=
    match hyphens.value, Found.exactly? [']'] hyphens.rest with
    | _ :: _, _ => hyphens.map (·.foldl (fun bracket c => bracket.add ⟨.single c, 0⟩) {})
    | [], some close => hyphens.andThen (close.map fun _ => ({} : Bracket).add ⟨.single ']', 0⟩)
    | [], none => hyphens.map fun _ => {}
  start.andThen (negated.andThen (literal.map fun bracket => (negated.value, bracket)))

/-- Reads the rest of a class up to its closing bracket. -/
def classRest (flags : Flags) (negated : Bool) (bracket : Bracket) (text : List Char) :
    Except SyntaxError (Found Operand text) :=
  match found : flags.next? text with
  | none => .error .unclosedClass
  | some next =>
    have := length_lt_of_next? found
    if next.value = ']' then
      (bracket.close flags negated).map fun value => next.map fun _ => value
    else if next.value = '[' then
      match asciiSet? next.rest with
      | some named => do
        have := named.le
        let set ← flags.negate named.value.1 (flags.fold named.value.2)
        let others ← flags.classRest negated (bracket.add ⟨set, 0⟩) named.rest
        return next.andThen (named.andThen others)
      | none => do
        let start := flags.classStart next.rest
        have := start.le
        let inner ← flags.classRest start.value.1 start.value.2 start.rest
        have := inner.le
        let others ← flags.classRest negated (bracket.add inner.value) inner.rest
        return next.andThen (start.andThen (inner.andThen others))
    else
      match SetOperator.ofChar? next.value, Found.exactly? [next.value] next.rest with
      | some operator, some twin => do
        have := twin.le
        let others ← flags.classRest negated (bracket.operate flags operator) twin.rest
        return next.andThen (twin.andThen others)
      | _, _ => do
        let item ← flags.classItem next.value next.rest
        have := item.le
        let others ← flags.classRest negated (bracket.add ⟨item.value, 0⟩) item.rest
        return next.andThen (item.andThen others)
termination_by text.length
decreasing_by all_goals grind

/-- Reads a class after its opening bracket. -/
def bracketClass (flags : Flags) : Reader Operand := fun text =>
  let start := flags.classStart text
  (flags.classRest start.value.1 start.value.2 start.rest).map start.andThen

end Flags

end Conform.Regex
