import Conform.Text.Pieces
import Conform.Value.Basic
/-!
# Field paths

A path is a text of segments with dots between them. Each segment is the key of an object or the
index of a list; the segment `*` stands for every index. The empty path has no segments and leads to
the tree itself.
-/

namespace Conform

namespace Path

def wildcard : String := "*"

/-- The segments of a path. The empty path has none. -/
def segments (path : String) : List String :=
  if path = "" then [] else Text.pieces '.' path

/-- Two fragments with a dot between them; an empty fragment adds nothing. -/
def join (front back : String) : String :=
  if front = "" then back else if back = "" then front else front ++ "." ++ back

/-- Indices are below this, which is `2 ^ 64`. -/
def indexBound : Nat := 18446744073709551616

/-- The index that a segment denotes: a run of ASCII digits that gives a number below the bound. -/
def index? (segment : String) : Option Nat :=
  (Numeral.natural? segment.toList).filter (· < indexBound)

end Path

/-- The part of a value that one segment leads to. -/
def Value.child? : Value → String → Option Value
  | .obj fields, key => fields.lookup key
  | .arr items, segment => (Path.index? segment).bind fun i => items[i]?
  | _, _ => none

/-- The part of a value that a path leads to, if the path fits the shape of the value. -/
def Value.resolve? (tree : Value) (path : String) : Option Value :=
  (Path.segments path).foldlM Value.child? tree

namespace Path

@[simp] theorem segments_empty : segments "" = [] := rfl

theorem segments_eq_nil_iff {path : String} : segments path = [] ↔ path = "" := by
  unfold segments
  split <;> simp_all [Text.pieces_ne_nil]

@[simp] theorem join_empty_left (path : String) : join "" path = path := by simp [join]

@[simp] theorem join_empty_right (path : String) : join path "" = path := by
  simp only [join]
  split <;> simp_all

/-- An index written in decimal is read as that index. -/
theorem index?_toString {i : Nat} (h : i < indexBound) : index? (toString i) = some i := by
  have read : Numeral.natural? (toString i).toList = some i := by
    simp [Numeral.natural?_toDigits]
  rw [index?, read, Option.filter_some, if_pos (decide_eq_true h)]

end Path

@[simp] theorem Value.resolve?_empty (tree : Value) : tree.resolve? "" = some tree := rfl

end Conform
