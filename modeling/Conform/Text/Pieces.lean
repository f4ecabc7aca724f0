/-!
# Text cut at a separator

Paths, rule specifications and argument lists are texts whose pieces stand between separators.
`pieces` cuts at every separator and `cut` at the first one only.
-/

namespace Conform.Text

/-- The pieces of `text` between the separators. There is always at least one, perhaps empty. -/
def pieces (separator : Char) (text : String) : List String :=
  (text.toList.splitOn separator).map String.ofList

/-- The text before the first separator and, if there is a separator, the text after it. -/
def cut (separator : Char) (text : String) : String × Option String :=
  match text.toList.span (· ≠ separator) with
  | (_, []) => (text, none)
  | (before, _ :: after) => (String.ofList before, some (String.ofList after))

theorem pieces_ne_nil (separator : Char) (text : String) : pieces separator text ≠ [] := by
  simp [pieces, List.splitOn_ne_nil]

/-- Cutting loses nothing: the pieces joined again are the text. -/
theorem intercalate_pieces (separator : Char) (text : String) :
    (String.singleton separator).intercalate (pieces separator text) = text := by
  apply String.toList_injective
  simp [pieces, String.toList_intercalate, Function.comp_def, List.intercalate_splitOn]

/-- Pieces without a separator are found again in the text that joins them. -/
theorem pieces_intercalate (separator : Char) {parts : List String} (nonempty : parts ≠ [])
    (free : ∀ p ∈ parts, separator ∉ p.toList) :
    pieces separator ((String.singleton separator).intercalate parts) = parts := by
  have cleared : ∀ l ∈ parts.map String.toList, separator ∉ l := by
    simpa using free
  simp [pieces, String.toList_intercalate, List.splitOn_intercalate separator cleared, nonempty]

end Conform.Text
