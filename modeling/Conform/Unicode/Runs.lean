import Conform.Unicode.Ranges
/-!
# Tables of runs

A property of characters is recorded as a table over all code points: runs of equal labels, one
after the other from code point 0 on. A table is written in lines such as `Cc32ZsPo3`, which give
each run its label and its length.
-/

namespace Conform.Unicode

/-- The runs of a table: the ascending code points at which they start, and their labels. -/
structure Runs (α : Type) where
  starts : Array Nat
  labels : Array α

namespace Runs

/-- The labels and lengths in a line. A label is one character and the lower-case letters after it;
a length of one is not written. -/
def read : List Char → List (String × Nat)
  | [] => []
  | c :: text =>
    let label := c :: text.takeWhile Char.isLower
    let rest := text.dropWhile Char.isLower
    let digits := rest.takeWhile Char.isDigit
    (String.ofList label, if digits = [] then 1 else Nat.ofDigitChars 10 digits 0) ::
      read (rest.dropWhile Char.isDigit)
termination_by text => text.length
decreasing_by
  have digits := (List.dropWhile_sublist Char.isDigit (l := text.dropWhile Char.isLower)).length_le
  have letters := (List.dropWhile_sublist Char.isLower (l := text)).length_le
  simp only [List.length_cons]
  omega

/-- The table that lines of text give, with labels read by `label`. -/
def ofLines {α : Type} (label : String → α) (lines : List String) : Runs α :=
  let runs := lines.flatMap fun line => read line.toList
  { starts := (runs.foldl (fun (s : Array Nat × Nat) r => (s.1.push s.2, s.2 + r.2)) (#[], 0)).1
    labels := (runs.map fun r => label r.1).toArray }

/-- The last index from `low` up to `high` whose start is at most `n`, found by halving. -/
def locate (starts : Array Nat) (n low high : Nat) : Nat :=
  if low + 1 < high then
    let middle := (low + high) / 2
    if starts.getD middle 0 ≤ n then locate starts n middle high else locate starts n low middle
  else low
termination_by high - low

/-- The label of a code point. -/
def get? {α : Type} (runs : Runs α) (n : Nat) : Option α :=
  runs.labels[locate runs.starts n 0 runs.starts.size]?

/-- The code points with labels of a kind. -/
def ranges {α : Type} (runs : Runs α) (belongs : α → Bool) : List Range :=
  let starts := runs.starts.toList
  let bounds := starts.zip (starts.drop 1 ++ [0x110000])
  Ranges.ofList ((bounds.zip runs.labels.toList).filterMap fun ((first, next), label) =>
    if belongs label then some ⟨first, next - 1⟩ else none)

end Runs

end Conform.Unicode
