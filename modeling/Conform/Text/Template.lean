/-!
# Templates with placeholders

A template is plain text with placeholders: an opener such as `{` or `%{`, a key, and `}`. It is
cut once, from left to right, into characters and slots; filling replaces each slot and never looks
at the text that it puts in. An opener without a later `}` is plain text to the end.
-/

namespace Conform

namespace Template

/-- A part of a template: a character that stands for itself, or a place for a value. -/
inductive Part where
  | char (c : Char)
  | slot (key : String)
deriving DecidableEq, Repr

/-- The text up to the first closing brace and the text after it, if there is one. -/
def closing? : List Char → Option (List Char × List Char)
  | [] => none
  | c :: rest => if c = '}' then some ([], rest) else (closing? rest).map fun p => (c :: p.1, p.2)

theorem closing?_eq_some_iff {text key rest : List Char} :
    closing? text = some (key, rest) ↔ text = key ++ '}' :: rest ∧ '}' ∉ key := by
  induction text generalizing key with
  | nil => simp [closing?]
  | cons c text ih =>
    by_cases h : c = '}'
    · cases key <;> simp_all [closing?, eq_comm]
    · cases key with
      | nil => simp [closing?, h]
      | cons d key =>
        simp only [closing?, h, if_false, Option.map_eq_some_iff, Prod.exists, Prod.mk.injEq,
          List.cons.injEq, List.cons_append, List.mem_cons, not_or]
        constructor
        · rintro ⟨k, r, found, ⟨rfl, rfl⟩, rfl⟩
          have := ih.mp found
          exact ⟨⟨rfl, this.1⟩, fun eq => h eq.symm, this.2⟩
        · rintro ⟨⟨rfl, eq⟩, -, free⟩
          exact ⟨key, rest, ih.mpr ⟨eq, free⟩, ⟨rfl, rfl⟩, rfl⟩

theorem length_of_closing? {text key rest : List Char} (h : closing? text = some (key, rest)) :
    rest.length < text.length := by
  rw [(closing?_eq_some_iff.mp h).1]
  simp
  omega

/-- The parts of a template whose placeholders begin with `opener`. -/
def parts (opener : List Char) : List Char → List Part
  | [] => []
  | c :: text =>
    if opener.isPrefixOf (c :: text) then
      match _ : closing? ((c :: text).drop opener.length) with
      | none => (c :: text).map .char
      | some (key, rest) => .slot (String.ofList key) :: parts opener rest
    else .char c :: parts opener text
termination_by text => text.length
decreasing_by
  · rename_i found
    have shorter := length_of_closing? found
    simp only [List.length_drop, List.length_cons] at *
    omega
  · simp

/-- The text of a part: a slot without a value keeps its placeholder as it was written. -/
def Part.fill (opener : List Char) (value? : String → Option String) : Part → List Char
  | .char c => [c]
  | .slot key =>
    match value? key with
    | some value => value.toList
    | none => opener ++ key.toList ++ ['}']

end Template

/-- Fills the placeholders of a template from `value?`. -/
def Template.fill (opener : String) (value? : String → Option String) (template : String) :
    String :=
  String.ofList ((parts opener.toList template.toList).flatMap (Part.fill opener.toList value?))

end Conform
