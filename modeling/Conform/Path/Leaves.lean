import Conform.Path.Basic
/-!
# Leaves

The leaves of a tree are its scalars, its empty objects and its empty lists. They are listed by
their paths, in the order of the document; the root itself is not among them.
-/

namespace Conform.Value

mutual

/-- The paths of the leaves of a value that stands at `path`. -/
def leavesAt (path : String) : Value → List String
  | .obj (field :: fields) => fieldLeaves path (field :: fields)
  | .arr (item :: items) => itemLeaves path 0 (item :: items)
  | _ => [path]

def fieldLeaves (path : String) : List (String × Value) → List String
  | [] => []
  | (key, value) :: rest => leavesAt (Path.join path key) value ++ fieldLeaves path rest

/-- The paths of the leaves of the items from `index` on. -/
def itemLeaves (path : String) (index : Nat) : List Value → List String
  | [] => []
  | item :: rest =>
    leavesAt (Path.join path (toString index)) item ++ itemLeaves path (index + 1) rest

end

/-- The paths of the leaves below the root. A scalar has none. -/
def leaves : Value → List String
  | .obj fields => fieldLeaves "" fields
  | .arr items => itemLeaves "" 0 items
  | _ => []

end Conform.Value
