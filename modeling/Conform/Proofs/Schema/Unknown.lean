import Conform.Proofs.Schema.Coverage
import Mathlib.Data.List.Forall2

/-!
# Unknown fields

Strict mode compares the path of a leaf with a declared one in one pass over the shorter of the two.
The pass decides two questions at once: whether the declaration stands at the path or above it, and
whether it stands at the path or below it. Unknown are the paths for which no chain does the one and
no declaration the other.
-/

namespace Conform

/-! ## Matching lists of segments -/

namespace Path

/-- The pattern is as long as the path, and each of its segments is the wildcard or the segment in
its place. -/
def Fits (pattern concrete : List String) : Prop :=
  List.Forall₂ (fun p s => p = wildcard ∨ p = s) pattern concrete

theorem fits_iff {pattern concrete : List String} :
    Fits pattern concrete ↔ pattern.length = concrete.length ∧ agree pattern concrete = true := by
  rw [Fits, List.forall₂_iff_zip, agree, List.all_eq_true]
  simp

theorem matches_iff_fits {pattern concrete : String} :
    Matches pattern concrete ↔ Fits (segments pattern) (segments concrete) :=
  fits_iff.symm

/-- Lists agree when the shorter one matches, or is matched by, the beginning of the longer one. -/
theorem agree_iff_fits {pattern concrete : List String} :
    agree pattern concrete = true ↔
      (∃ upper, upper <+: concrete ∧ Fits pattern upper) ∨
        ∃ upper, upper <+: pattern ∧ Fits upper concrete := by
  constructor
  · intro h
    induction pattern generalizing concrete with
    | nil => exact .inl ⟨[], List.nil_prefix, .nil⟩
    | cons p pattern ih =>
      cases concrete with
      | nil => exact .inr ⟨[], List.nil_prefix, .nil⟩
      | cons s concrete =>
        rw [agree_cons, Bool.and_eq_true, decide_eq_true_eq] at h
        rcases ih h.2 with ⟨upper, hupper, hfits⟩ | ⟨upper, hupper, hfits⟩
        · exact .inl ⟨s :: upper, List.cons_prefix_cons.mpr ⟨rfl, hupper⟩, .cons h.1 hfits⟩
        · exact .inr ⟨p :: upper, List.cons_prefix_cons.mpr ⟨rfl, hupper⟩, .cons h.1 hfits⟩
  · rintro (⟨upper, ⟨rest, rfl⟩, hfits⟩ | ⟨upper, ⟨rest, rfl⟩, hfits⟩)
    · obtain ⟨hlength, hagree⟩ := fits_iff.mp hfits
      have happend := agree_append hlength [] rest
      rwa [List.append_nil, hagree] at happend
    · obtain ⟨hlength, hagree⟩ := fits_iff.mp hfits
      have happend := agree_append hlength rest []
      rwa [List.append_nil, hagree, agree_nil_right] at happend

end Path

namespace Schema

/-- No declaration accounts for the path. -/
structure IsUnknown (schema : Schema) (path : List String) : Prop where
  /-- There is no chain at the path or at one above it. -/
  not_owned : ∀ declared upper, schema.Declares declared true → upper <+: path →
    ¬Path.Fits declared upper
  /-- Nothing is declared at the path or below it. -/
  not_leading : ∀ declared owns upper, schema.Declares declared owns → upper <+: declared →
    ¬Path.Fits upper path

/-- One pass over the shorter list decides both questions. -/
theorem isUnknown_iff {schema : Schema} {path : List String} :
    schema.IsUnknown path ↔ ¬schema.Covers path := by
  rw [covers_iff]
  constructor
  · rintro hunknown ⟨declared, owns, hdeclares, hagree, hlength⟩
    rcases Path.agree_iff_fits.mp hagree with ⟨upper, hupper, hfits⟩ | ⟨upper, hupper, hfits⟩
    · rcases hlength with hle | rfl
      · -- the declared path is as long as what it fits, so that is the whole path
        have hwhole : upper = path := by
          refine hupper.eq_of_length_le ?_
          rwa [← hfits.length_eq]
        exact hunknown.not_leading declared owns declared hdeclares (List.prefix_refl _)
          (hwhole ▸ hfits)
      · exact hunknown.not_owned declared upper hdeclares hupper hfits
    · exact hunknown.not_leading declared owns upper hdeclares hupper hfits
  · intro hcovers
    constructor
    · intro declared upper hdeclares hupper hfits
      exact hcovers ⟨declared, true, hdeclares,
        Path.agree_iff_fits.mpr (.inl ⟨upper, hupper, hfits⟩), .inr rfl⟩
    · intro declared owns upper hdeclares hupper hfits
      refine hcovers ⟨declared, owns, hdeclares,
        Path.agree_iff_fits.mpr (.inr ⟨upper, hupper, hfits⟩), .inl ?_⟩
      rw [← hfits.length_eq]
      exact hupper.length_le

instance (schema : Schema) (path : List String) : Decidable (schema.IsUnknown path) :=
  decidable_of_iff (¬∃ d ∈ schema.declared, d.Covers path)
    (by rw [exists_covers_iff, isUnknown_iff])

/-- Of the paths of the leaves, each taken where it first occurs, those are reported that no
declaration accounts for. -/
theorem keys_undeclared (schema : Schema) (tree : Value) :
    (schema.undeclared tree).fields.keys =
      tree.leaves.eraseDups.filter fun path => schema.IsUnknown (Path.segments path) := by
  rw [undeclared_eq, Log.keys_toReport, Log.fields, List.map_map, Function.comp_def, List.map_id',
    List.eraseDups_filter]
  refine List.filter_congr fun path _ => ?_
  rw [decide_eq_decide, exists_covers_iff, isUnknown_iff]

end Schema

end Conform
