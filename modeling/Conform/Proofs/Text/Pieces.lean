import Conform.Text.Pieces
import Mathlib.Data.List.TakeDrop
import Mathlib.Data.List.TakeWhile

/-!
# Where texts are cut

A text is cut at every separator, or at the first one only. Both cuts are told by the texts that
they put together again: no piece holds the separator, and the pieces joined are the text.
-/

namespace Conform.Text

/-! ## Cut at every separator -/

/-- At a separator, the pieces of a text are those of its two sides. -/
theorem pieces_append (separator : Char) (front back : String) :
    pieces separator (front ++ String.singleton separator ++ back) =
      pieces separator front ++ pieces separator back := by
  have hlist : (front ++ String.singleton separator ++ back).toList =
      front.toList ++ separator :: back.toList := by simp
  rw [pieces, hlist, List.splitOn_append_cons_self, List.map_append]
  rfl

theorem not_mem_of_mem_splitOn {separator : Char} {text piece : List Char}
    (h : piece ∈ text.splitOn separator) : separator ∉ piece := by
  induction text generalizing piece with
  | nil => simp_all
  | cons c rest ih =>
    rw [List.splitOn_cons_eq_if_modifyHead] at h
    split at h
    · rcases List.mem_cons.mp h with rfl | h
      · simp
      · exact ih h
    · rename_i hc
      cases hs : rest.splitOn separator with
      | nil => exact absurd hs (List.splitOn_ne_nil _ _)
      | cons first others =>
        rw [hs] at h ih
        simp only [List.modifyHead_cons, List.mem_cons] at h
        rcases h with rfl | h
        · have hfirst := ih (List.mem_cons_self ..)
          have : separator ≠ c := by rintro rfl; simp at hc
          simp [this, hfirst]
        · exact ih (List.mem_cons_of_mem _ h)

/-- No piece holds the separator. -/
theorem not_mem_of_mem_pieces {separator : Char} {text piece : String}
    (h : piece ∈ pieces separator text) : separator ∉ piece.toList := by
  obtain ⟨chars, hchars, rfl⟩ := List.mem_map.mp h
  simpa using not_mem_of_mem_splitOn hchars

/-- The pieces are the only texts without separators that make up the text when joined. -/
theorem eq_pieces_iff {separator : Char} {parts : List String} {text : String}
    (h : ∀ part ∈ parts, separator ∉ part.toList) :
    parts = pieces separator text ↔
      parts ≠ [] ∧ (String.singleton separator).intercalate parts = text := by
  constructor
  · rintro rfl
    exact ⟨pieces_ne_nil separator text, intercalate_pieces separator text⟩
  · rintro ⟨hne, rfl⟩
    exact (pieces_intercalate separator hne h).symm

/-! ## Cut at the first separator -/

/-- The text before the first separator; all of it, if there is no separator. -/
def upTo (separator : Char) (text : String) : String :=
  String.ofList (text.toList.takeWhile (· ≠ separator))

/-- A text has no separator, or is made of a front without one, a separator, and a back. -/
theorem not_mem_or_eq_append (separator : Char) (text : String) :
    separator ∉ text.toList ∨ ∃ front back, separator ∉ front.toList ∧
      text = front ++ String.singleton separator ++ back := by
  by_cases h : separator ∈ text.toList
  · obtain ⟨front, back, hlist, hfront⟩ := List.eq_append_cons_of_mem h
    refine .inr ⟨String.ofList front, String.ofList back, by simpa using hfront, ?_⟩
    apply String.toList_injective
    simp [hlist]
  · exact .inl h

section

variable {separator : Char} {text front : String}

theorem forall_ne_of_not_mem (h : separator ∉ text.toList) :
    ∀ c ∈ text.toList, decide (c ≠ separator) = true := by
  intro c hc
  exact decide_eq_true fun heq => h (heq ▸ hc)

theorem cut_of_not_mem (h : separator ∉ text.toList) : cut separator text = (text, none) := by
  rw [cut, List.span_eq_takeWhile_dropWhile,
    List.dropWhile_eq_nil_iff.mpr (forall_ne_of_not_mem h)]

theorem cut_append (h : separator ∉ front.toList) (back : String) :
    cut separator (front ++ String.singleton separator ++ back) = (front, some back) := by
  have hlist : (front ++ String.singleton separator ++ back).toList =
      front.toList ++ separator :: back.toList := by simp
  rw [cut, hlist, List.span_eq_takeWhile_dropWhile,
    List.takeWhile_append_of_pos (forall_ne_of_not_mem h),
    List.dropWhile_append_of_pos (forall_ne_of_not_mem h)]
  simp

theorem upTo_of_not_mem (h : separator ∉ text.toList) : upTo separator text = text := by
  rw [upTo, List.takeWhile_eq_self_iff.mpr (forall_ne_of_not_mem h), String.ofList_toList]

theorem upTo_append (h : separator ∉ front.toList) (back : String) :
    upTo separator (front ++ String.singleton separator ++ back) = front := by
  have hlist : (front ++ String.singleton separator ++ back).toList =
      front.toList ++ separator :: back.toList := by simp
  rw [upTo, hlist, List.takeWhile_append_of_pos (forall_ne_of_not_mem h)]
  simp

end

theorem fst_cut (separator : Char) (text : String) :
    (cut separator text).1 = upTo separator text := by
  rcases not_mem_or_eq_append separator text with h | ⟨front, back, h, rfl⟩
  · rw [cut_of_not_mem h, upTo_of_not_mem h]
  · rw [cut_append h, upTo_append h]

end Conform.Text
