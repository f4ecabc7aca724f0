import Conform.Path.Basic
/-!
# Patterns

A declared path is a pattern when it has a wildcard segment. A pattern is cut at its first wildcard,
and is compared with a concrete path segment by segment.
-/

namespace Conform.Path

/-- A path may be declared when it is not empty and has no empty segment. -/
def IsDeclarable (path : String) : Prop := path ≠ "" ∧ "" ∉ segments path

instance (path : String) : Decidable (IsDeclarable path) := inferInstanceAs (Decidable (_ ∧ _))

def IsPattern (path : String) : Prop := wildcard ∈ segments path

instance (path : String) : Decidable (IsPattern path) := inferInstanceAs (Decidable (_ ∈ _))

/-- The path that has the given segments. -/
def ofSegments (segments : List String) : String := ".".intercalate segments

/-- The path before the first wildcard and the path after it. -/
def cutAtWildcard? (path : String) : Option (String × String) :=
  match (segments path).span (· ≠ wildcard) with
  | (_, []) => none
  | (before, _ :: after) => some (ofSegments before, ofSegments after)

/-- Whether the segments agree position by position, up to the end of the shorter list; a wildcard
on the left agrees with any segment. -/
def agree (pattern concrete : List String) : Bool :=
  (pattern.zip concrete).all fun (p, s) => p = wildcard ∨ p = s

/-- Whether a concrete path is one of those that the pattern stands for. -/
def Matches (pattern concrete : String) : Prop :=
  (segments pattern).length = (segments concrete).length ∧
    agree (segments pattern) (segments concrete)

instance (pattern concrete : String) : Decidable (Matches pattern concrete) :=
  inferInstanceAs (Decidable (_ ∧ _))

end Conform.Path
