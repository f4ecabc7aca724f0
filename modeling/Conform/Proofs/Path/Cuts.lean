import Conform.Proofs.Path.Instances

/-!
# Patterns cut at their first wildcard

A pattern can also be filled on its text: it is cut at its first wildcard, and the text before it,
an index and the text after it are joined to a pattern with one wildcard less. No dot is lost or left
over in this, so it gives the instances of the pattern.
-/

namespace Conform.Path

variable {path front back : String}

theorem cutAtWildcard?_of_not_isPattern (h : ¬IsPattern path) : cutAtWildcard? path = none := by
  have hrest : (segments path).dropWhile (· ≠ wildcard) = [] := by
    refine List.dropWhile_eq_nil_iff.mpr fun segment hmem => decide_eq_true ?_
    rintro rfl
    exact h hmem
  rw [cutAtWildcard?, List.span_eq_takeWhile_dropWhile, hrest]

theorem cutAtWildcard?_of_segments {before after : List String}
    (hpath : segments path = before ++ wildcard :: after) (hbefore : wildcard ∉ before) :
    cutAtWildcard? path = some (ofSegments before, ofSegments after) := by
  have hkeep : ∀ segment ∈ before, decide (segment ≠ wildcard) = true := by
    intro segment hmem
    refine decide_eq_true ?_
    rintro rfl
    exact hbefore hmem
  rw [cutAtWildcard?, List.span_eq_takeWhile_dropWhile, hpath,
    List.takeWhile_append_of_pos hkeep, List.dropWhile_append_of_pos hkeep]
  simp

theorem exists_segments_of_cut (h : cutAtWildcard? path = some (front, back)) :
    ∃ before after, segments path = before ++ wildcard :: after ∧ wildcard ∉ before ∧
      front = ofSegments before ∧ back = ofSegments after := by
  by_cases hpattern : IsPattern path
  · obtain ⟨before, after, hpath, hbefore⟩ := List.eq_append_cons_of_mem hpattern
    rw [cutAtWildcard?_of_segments hpath hbefore] at h
    cases h
    exact ⟨before, after, hpath, hbefore, rfl, rfl⟩
  · rw [cutAtWildcard?_of_not_isPattern hpattern] at h
    cases h

theorem not_isPattern_of_cut (h : cutAtWildcard? path = none) : ¬IsPattern path := by
  intro hpattern
  obtain ⟨before, after, hpath, hbefore⟩ := List.eq_append_cons_of_mem hpattern
  rw [cutAtWildcard?_of_segments hpath hbefore] at h
  cases h

section

variable (hd : IsDeclarable path) (h : cutAtWildcard? path = some (front, back))

include hd h

theorem segments_of_cut :
    segments path = segments front ++ wildcard :: segments back ∧ wildcard ∉ segments front := by
  obtain ⟨before, after, hpath, hbefore, rfl, rfl⟩ := exists_segments_of_cut h
  have hplain : ∀ s ∈ before ++ wildcard :: after, IsPlain s :=
    fun s hs => isPlain_of_isDeclarable hd (hpath ▸ hs)
  rw [segments_ofSegments fun s hs => hplain s (by simp [hs]),
    segments_ofSegments fun s hs => hplain s (by simp [hs])]
  exact ⟨hpath, hbefore⟩

/-- The cut loses nothing but the wildcard. -/
theorem join_of_cut : join (join front wildcard) back = path := by
  apply segments_injective
  rw [segments_join, segments_join, segments_wildcard, List.append_assoc, List.singleton_append,
    (segments_of_cut hd h).1]

/-- With an index for the wildcard the path can be declared as before. -/
theorem isDeclarable_of_cut (i : Nat) : IsDeclarable (join (join front (toString i)) back) := by
  have hi := isPlain_toString i
  have hsegments : segments (join (join front (toString i)) back) =
      segments front ++ toString i :: segments back := by
    rw [segments_join, segments_join, segments_of_isPlain hi, List.append_assoc,
      List.singleton_append]
  rw [← ofSegments_segments (join _ back), hsegments]
  refine isDeclarable_ofSegments (by simp) fun s hs => ?_
  have hplain : ∀ s ∈ segments front ++ wildcard :: segments back, IsPlain s :=
    fun s hs => isPlain_of_isDeclarable hd ((segments_of_cut hd h).1 ▸ hs)
  rcases List.mem_append.mp hs with hs | hs
  · exact hplain s (by simp [hs])
  · rcases List.mem_cons.mp hs with rfl | hs
    · exact hi
    · exact hplain s (by simp [hs])

end

/-- The instances of a declared path by its text: those of a concrete path are the path itself, and
those of a pattern are the instances of what its first wildcard makes of it with each index. -/
theorem instances_eq_cut (tree : Value) (hd : IsDeclarable path) :
    instances tree path =
      match cutAtWildcard? path with
      | none => [path]
      | some (front, back) => (List.range (tree.itemCount front)).flatMap fun i =>
          instances tree (join (join front (toString i)) back) := by
  cases h : cutAtWildcard? path with
  | none => exact instances_of_not_isPattern tree hd (not_isPattern_of_cut h)
  | some cut =>
    obtain ⟨front, back⟩ := cut
    obtain ⟨hpath, hconcrete⟩ := segments_of_cut hd h
    have hplain : ∀ s ∈ segments front, IsPlain s :=
      fun s hs => isPlain_of_isDeclarable hd (hpath ▸ List.mem_append_left _ hs)
    have hitem : ∀ i : Nat, instances tree (join (join front (toString i)) back) =
        instancesFrom tree (join front (toString i)) (segments back) := by
      intro i
      have hsegments : segments (join front (toString i)) = segments front ++ [toString i] := by
        rw [segments_join, segments_of_isPlain (isPlain_toString i)]
      refine instances_join_eq tree ?_ ?_ back
      · rw [hsegments]
        exact isPlain_concat hplain (isPlain_toString i)
      · rw [IsPattern, hsegments, List.mem_append, List.mem_singleton]
        exact not_or.mpr ⟨hconcrete, (toString_ne_wildcard i).symm⟩
    have hwildcard : segments (join wildcard back) = wildcard :: segments back := by
      rw [segments_join, segments_wildcard, List.singleton_append]
    rw [← join_of_cut hd h, join_assoc, instances_join_eq tree hplain hconcrete, hwildcard,
      instancesFrom, if_pos rfl]
    simp only [hitem]

/-! ## Filling the text -/

theorem count_segments_ofSegments {parts : List String} (h : ∀ part ∈ parts, '.' ∉ part.toList) :
    (segments (ofSegments parts)).count wildcard = parts.count wildcard := by
  cases parts with
  | nil => rfl
  | cons part rest =>
    have hpieces := Text.pieces_intercalate '.' (List.cons_ne_nil part rest) h
    by_cases hempty : ofSegments (part :: rest) = ""
    · have hparts : part :: rest = [""] := hpieces.symm.trans (congrArg (Text.pieces '.') hempty)
      rw [hempty, hparts]
      rfl
    · rw [segments_of_ne_empty hempty]
      exact congrArg (List.count wildcard) hpieces

/-- Every cut leaves one wildcard less, whatever the text is. -/
theorem count_segments_of_cut (h : cutAtWildcard? path = some (front, back)) (i : Nat) :
    (segments (join (join front (toString i)) back)).count wildcard + 1 =
      (segments path).count wildcard := by
  obtain ⟨before, after, hpath, hbefore, rfl, rfl⟩ := exists_segments_of_cut h
  have hdots : ∀ part ∈ before ++ wildcard :: after, '.' ∉ part.toList :=
    fun part hpart => dot_not_mem_of_mem_segments (hpath ▸ hpart)
  have hindex : [toString i].count wildcard = 0 :=
    List.count_eq_zero.mpr (by simpa using (toString_ne_wildcard i).symm)
  rw [segments_join, segments_join, segments_of_isPlain (isPlain_toString i), List.count_append,
    List.count_append, count_segments_ofSegments fun part hpart => hdots part (by simp [hpart]),
    count_segments_ofSegments fun part hpart => hdots part (by simp [hpart]), hindex, hpath,
    List.count_append, List.count_cons_self]
  omega

/-- The concrete paths of a declared path, found by cutting its text at one wildcard after
another. -/
def instancesByText (tree : Value) (path : String) : List String :=
  match h : cutAtWildcard? path with
  | none => [path]
  | some (front, back) =>
    (List.range (tree.itemCount front)).flatMap fun i =>
      instancesByText tree (join (join front (toString i)) back)
termination_by (segments path).count wildcard
decreasing_by exact Nat.lt_of_succ_le (count_segments_of_cut h i).le

theorem instancesByText_eq (tree : Value) (hd : IsDeclarable path) :
    instancesByText tree path = instances tree path := by
  induction path using instancesByText.induct with
  | case1 path h =>
    rw [instancesByText, instances_eq_cut tree hd]
    split <;> simp_all
  | case2 path front back h ih =>
    rw [instancesByText, instances_eq_cut tree hd]
    split
    · simp_all
    · rename_i front' back' h'
      cases h.symm.trans h'
      simp only [h, fun i => ih i (isDeclarable_of_cut hd h i)]

end Conform.Path
