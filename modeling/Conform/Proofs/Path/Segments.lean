import Conform.Path.Pattern
import Conform.Proofs.Text.Pieces

/-!
# Joined paths

A path is known by its segments: joining two texts appends their segments, whatever the texts are,
and a path is made of its segments again. Segments without dots stand for themselves.
-/

namespace Conform

namespace Path

theorem segments_of_ne_empty {path : String} (h : path ≠ "") :
    segments path = Text.pieces '.' path := by
  simp [segments, h]

theorem join_of_ne_empty {front back : String} (hf : front ≠ "") (hb : back ≠ "") :
    join front back = front ++ "." ++ back := by
  simp [join, hf, hb]

/-- Joining appends segments, whatever the texts are. -/
@[simp] theorem segments_join (front back : String) :
    segments (join front back) = segments front ++ segments back := by
  by_cases hf : front = ""
  · simp [hf]
  by_cases hb : back = ""
  · simp [hb]
  have hj : front ++ "." ++ back ≠ "" := by simp
  rw [join_of_ne_empty hf hb, segments_of_ne_empty hf, segments_of_ne_empty hb,
    segments_of_ne_empty hj]
  exact Text.pieces_append '.' front back

theorem join_eq_empty_iff {front back : String} :
    join front back = "" ↔ front = "" ∧ back = "" := by
  rw [← segments_eq_nil_iff, segments_join, List.append_eq_nil_iff, segments_eq_nil_iff,
    segments_eq_nil_iff]

theorem join_assoc (a b c : String) : join (join a b) c = join a (join b c) := by
  by_cases ha : a = ""
  · simp [ha]
  by_cases hb : b = ""
  · simp [hb]
  by_cases hc : c = ""
  · simp [hc]
  have hab : join a b ≠ "" := by simp [join_eq_empty_iff, ha]
  have hbc : join b c ≠ "" := by simp [join_eq_empty_iff, hb]
  rw [join_of_ne_empty hab hc, join_of_ne_empty ha hbc, join_of_ne_empty ha hb,
    join_of_ne_empty hb hc]
  simp [String.append_assoc]

/-- Two names under one path are as different as they are by themselves. -/
theorem join_injective (front : String) : Function.Injective (join front) := by
  intro a b h
  by_cases hf : front = ""
  · simpa [hf] using h
  have hlen := congrArg String.length h
  by_cases ha : a = "" <;> by_cases hb : b = ""
  · rw [ha, hb]
  · simp only [ha, join_empty_right, join_of_ne_empty hf hb, String.length_append] at hlen
    have : ".".length = 1 := rfl
    omega
  · simp only [hb, join_empty_right, join_of_ne_empty hf ha, String.length_append] at hlen
    have : ".".length = 1 := rfl
    omega
  · simpa [join_of_ne_empty hf ha, join_of_ne_empty hf hb] using h

/-! ## Paths from segments -/

theorem dot_not_mem_of_mem_segments {path segment : String} (h : segment ∈ segments path) :
    '.' ∉ segment.toList := by
  by_cases hp : path = ""
  · simp [hp] at h
  rw [segments_of_ne_empty hp] at h
  exact Text.not_mem_of_mem_pieces h

@[simp] theorem ofSegments_nil : ofSegments [] = "" := rfl

/-- A path is made of its segments. -/
@[simp] theorem ofSegments_segments (path : String) : ofSegments (segments path) = path := by
  by_cases h : path = ""
  · simp [h]
  rw [segments_of_ne_empty h]
  exact Text.intercalate_pieces '.' path

theorem segments_injective : Function.Injective segments := by
  intro a b h
  rw [← ofSegments_segments a, h, ofSegments_segments]

/-- A text that can stand as a segment of its own: it is not empty and has no dot. -/
def IsPlain (segment : String) : Prop := segment ≠ "" ∧ '.' ∉ segment.toList

instance (segment : String) : Decidable (IsPlain segment) := inferInstanceAs (Decidable (_ ∧ _))

theorem segments_of_isPlain {segment : String} (h : IsPlain segment) :
    segments segment = [segment] := by
  rw [segments_of_ne_empty h.1, Text.pieces, List.splitOn_eq_singleton h.2]
  simp

theorem segments_wildcard : segments wildcard = [wildcard] :=
  segments_of_isPlain (by decide)

theorem flatMap_segments_of_isPlain {parts : List String} (h : ∀ s ∈ parts, IsPlain s) :
    parts.flatMap segments = parts := by
  induction parts with
  | nil => rfl
  | cons s rest ih =>
    rw [List.flatMap_cons, segments_of_isPlain (h s (by simp)),
      ih fun t ht => h t (by simp [ht]), List.singleton_append]

/-- The segments that a path is made of are found in it again. -/
theorem segments_ofSegments {parts : List String} (h : ∀ s ∈ parts, IsPlain s) :
    segments (ofSegments parts) = parts := by
  cases parts with
  | nil => rfl
  | cons s rest =>
    have hpieces := Text.pieces_intercalate '.' (List.cons_ne_nil s rest) fun p hp => (h p hp).2
    have hne : ofSegments (s :: rest) ≠ "" := by
      intro empty
      have : Text.pieces '.' (ofSegments (s :: rest)) = [""] := by rw [empty]; rfl
      have hs : s = "" := by
        have := hpieces.symm.trans this
        simp_all
      exact (h s (by simp)).1 hs
    rw [segments_of_ne_empty hne]
    exact hpieces

theorem isPlain_of_isDeclarable {path segment : String} (h : IsDeclarable path)
    (hs : segment ∈ segments path) : IsPlain segment :=
  ⟨fun empty => h.2 (empty ▸ hs), dot_not_mem_of_mem_segments hs⟩

theorem isDeclarable_ofSegments {parts : List String} (hne : parts ≠ [])
    (h : ∀ s ∈ parts, IsPlain s) : IsDeclarable (ofSegments parts) := by
  have hparts := segments_ofSegments h
  refine ⟨fun empty => hne ?_, fun empty => ?_⟩
  · rw [← hparts, empty, segments_empty]
  · rw [hparts] at empty
    exact (h _ empty).1 rfl

theorem isPlain_concat {parts : List String} {segment : String} (h : ∀ s ∈ parts, IsPlain s)
    (hs : IsPlain segment) : ∀ s ∈ parts ++ [segment], IsPlain s := by
  intro s hmem
  rcases List.mem_append.mp hmem with hmem | hmem
  · exact h s hmem
  · rwa [List.mem_singleton.mp hmem]

/-- Going one segment further is joining that segment. -/
theorem join_ofSegments {parts : List String} {segment : String} (h : ∀ s ∈ parts, IsPlain s)
    (hs : IsPlain segment) : join (ofSegments parts) segment = ofSegments (parts ++ [segment]) := by
  apply segments_injective
  rw [segments_join, segments_ofSegments h, segments_of_isPlain hs,
    segments_ofSegments (isPlain_concat h hs)]

/-- Names joined one after the other are read as the segments of all of them. -/
theorem segments_foldl_join (front : String) (names : List String) :
    segments (names.foldl join front) = segments front ++ names.flatMap segments := by
  induction names generalizing front with
  | nil => simp
  | cons name rest ih => simp [ih]

/-- Plain names are joined by dots between them. -/
theorem foldl_join_of_isPlain {names : List String} (h : ∀ s ∈ names, IsPlain s) :
    names.foldl join "" = ofSegments names := by
  apply segments_injective
  rw [segments_foldl_join, segments_empty, List.nil_append, flatMap_segments_of_isPlain h,
    segments_ofSegments h]

/-! ## Indices as segments -/

theorem isDigit_of_mem_toString {i : Nat} {c : Char} (h : c ∈ (toString i).toList) :
    c.isDigit = true := by
  have hdigits : (toString i).toList = Nat.toDigits 10 i := by simp
  rw [hdigits] at h
  exact Nat.isDigit_of_mem_toDigits (by decide) (by decide) h

theorem isPlain_toString (i : Nat) : IsPlain (toString i) := by
  constructor
  · intro h
    have : Nat.toDigits 10 i = [] := by simpa using congrArg String.toList h
    exact Nat.toDigits_ne_nil this
  · intro h
    exact absurd (isDigit_of_mem_toString h) (by decide)

theorem toString_ne_wildcard (i : Nat) : toString i ≠ wildcard := by
  intro h
  have : '*' ∈ (toString i).toList := by simp [h, wildcard]
  exact absurd (isDigit_of_mem_toString this) (by decide)

theorem toString_injective {i j : Nat} (h : toString i = toString j) : i = j := by
  have hi : Numeral.natural? (toString i).toList = some i := by simp [Numeral.natural?_toDigits]
  have hj : Numeral.natural? (toString j).toList = some j := by simp [Numeral.natural?_toDigits]
  rw [h, hj] at hi
  exact (Option.some.inj hi).symm

end Path

end Conform
