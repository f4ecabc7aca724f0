import Conform.Proofs.Path.Cuts

/-!
# Patterns cut by byte offsets

The first wildcard of a pattern can be found by its offset in bytes. The texts before and behind it
are then slices of the pattern, less the dots that stand next to the wildcard. The slices begin and
end between characters, and they are what the cut by segments gives. As every cut takes a wildcard
away, a pattern is filled in as many steps as it has wildcards, whatever its text and the tree are.
-/

namespace Conform

/-- The part of a text between two byte offsets, if both lie between characters or at the ends. -/
def Text.slice? (text : String) (start stop : Nat) : Option String :=
  if h : String.Pos.Raw.IsValid text ⟨start⟩ ∧ String.Pos.Raw.IsValid text ⟨stop⟩ ∧
      start ≤ stop then
    some (text.extract ⟨⟨start⟩, h.1⟩ ⟨⟨stop⟩, h.2.1⟩)
  else none

theorem Text.slice?_append (front middle back : String) :
    slice? (front ++ middle ++ back) front.utf8ByteSize (front ++ middle).utf8ByteSize =
      some middle := by
  have hstart : String.Pos.Raw.IsValid (front ++ middle ++ back) ⟨front.utf8ByteSize⟩ :=
    String.Pos.Raw.isValid_iff_exists_append.mpr
      ⟨front, middle ++ back, String.append_assoc .., rfl⟩
  have hstop : String.Pos.Raw.IsValid (front ++ middle ++ back) ⟨(front ++ middle).utf8ByteSize⟩ :=
    String.Pos.Raw.isValid_iff_exists_append.mpr ⟨front ++ middle, back, rfl, rfl⟩
  have hle : front.utf8ByteSize ≤ (front ++ middle).utf8ByteSize := by
    rw [String.utf8ByteSize_append]
    omega
  rw [slice?, dif_pos ⟨hstart, hstop, hle⟩, Option.some_inj, ← String.toByteArray_inj]
  simp only [String.toByteArray_extract, String.toByteArray_append, String.utf8ByteSize_append,
    ByteArray.append_assoc]
  calc (front.toByteArray ++ (middle.toByteArray ++ back.toByteArray)).extract
        (front.utf8ByteSize + 0) (front.utf8ByteSize + middle.utf8ByteSize)
      = (middle.toByteArray ++ back.toByteArray).extract 0 middle.utf8ByteSize :=
        ByteArray.extract_append_size_add
    _ = middle.toByteArray := ByteArray.extract_append_eq_left rfl

namespace Path

variable {path front back : String}

/-! ## The cut by offsets -/

/-- The text without a dot at its end. -/
def withoutLastDot (text : String) : String :=
  if text.toList.getLast? = some '.' then String.ofList text.toList.dropLast else text

/-- The text without a dot at its beginning. -/
def withoutFirstDot (text : String) : String :=
  if text.toList.head? = some '.' then String.ofList text.toList.tail else text

/-- The byte offset of the first wildcard among segments of which the first begins at `offset`. -/
def wildcardOffset? (offset : Nat) : List String → Option Nat
  | [] => none
  | segment :: rest =>
    if segment = wildcard then some offset
    else wildcardOffset? (offset + segment.utf8ByteSize + 1) rest

/-- The paths before and after the first wildcard, found by the offset of the wildcard. -/
def cutAtOffset? (path : String) : Option (String × String) := do
  let offset ← wildcardOffset? 0 (Text.pieces '.' path)
  let before ← Text.slice? path 0 offset
  let after ← Text.slice? path (offset + wildcard.utf8ByteSize) path.utf8ByteSize
  return (withoutLastDot before, withoutFirstDot after)

/-- Segments with a dot behind each. -/
def lead (parts : List String) : String := String.join (parts.map (· ++ "."))

/-- Segments with a dot before each. -/
def trail (parts : List String) : String := String.join (parts.map ("." ++ ·))

theorem ofSegments_append_cons (before : List String) (segment : String) (after : List String) :
    ofSegments (before ++ segment :: after) = lead before ++ segment ++ trail after := by
  have hafter : ofSegments (segment :: after) = segment ++ trail after := by
    induction after generalizing segment with
    | nil => simp [ofSegments, trail]
    | cons next rest ih =>
      rw [ofSegments, String.intercalate_cons_cons, ← ofSegments, ih]
      simp [trail, String.append_assoc]
  induction before with
  | nil => simpa [lead] using hafter
  | cons first rest ih =>
    have hne : rest ++ segment :: after ≠ [] := by simp
    rw [List.cons_append, ofSegments, String.intercalate_cons_of_ne_nil hne, ← ofSegments, ih]
    simp [lead, String.append_assoc]

theorem withoutLastDot_lead (parts : List String) :
    withoutLastDot (lead parts) = ofSegments parts := by
  obtain rfl | ⟨before, last, rfl⟩ := parts.eq_nil_or_concat'
  · rfl
  · have hlead : lead (before ++ [last]) = ofSegments (before ++ [last]) ++ "." := by
      rw [ofSegments_append_cons]
      simp [lead, trail, String.append_assoc]
    rw [hlead, withoutLastDot]
    simp

theorem withoutFirstDot_trail (parts : List String) :
    withoutFirstDot (trail parts) = ofSegments parts := by
  cases parts with
  | nil => rfl
  | cons first rest =>
    have htrail : trail (first :: rest) = "." ++ ofSegments (first :: rest) := by
      rw [← List.nil_append (first :: rest), ofSegments_append_cons]
      simp [lead, trail, String.append_assoc]
    rw [htrail, withoutFirstDot]
    simp

theorem wildcardOffset?_of_not_mem {offset : Nat} {parts : List String} (h : wildcard ∉ parts) :
    wildcardOffset? offset parts = none := by
  induction parts generalizing offset with
  | nil => rfl
  | cons segment rest ih =>
    rw [List.mem_cons, not_or] at h
    obtain ⟨hsegment, hrest⟩ := h
    rw [wildcardOffset?, if_neg (Ne.symm hsegment), ih hrest]

/-- The offset of the first wildcard is the size of what stands before it. -/
theorem wildcardOffset?_append {offset : Nat} {before : List String} (h : wildcard ∉ before)
    (after : List String) :
    wildcardOffset? offset (before ++ wildcard :: after) =
      some (offset + (lead before).utf8ByteSize) := by
  induction before generalizing offset with
  | nil => simp [wildcardOffset?, lead]
  | cons segment rest ih =>
    rw [List.mem_cons, not_or] at h
    obtain ⟨hsegment, hrest⟩ := h
    have hlead : (lead (segment :: rest)).utf8ByteSize =
        segment.utf8ByteSize + 1 + (lead rest).utf8ByteSize := by
      have hdot : ".".utf8ByteSize = 1 := rfl
      simp [lead, String.utf8ByteSize_append, hdot]
    rw [List.cons_append, wildcardOffset?, if_neg (Ne.symm hsegment), ih hrest, hlead,
      Option.some_inj]
    omega

theorem wildcard_mem_pieces_iff : wildcard ∈ Text.pieces '.' path ↔ IsPattern path := by
  by_cases h : path = ""
  · subst h
    decide
  · rw [IsPattern, segments_of_ne_empty h]

/-- The offsets lie between characters, and cutting there gives the same as cutting segments. -/
theorem cutAtOffset?_eq (path : String) : cutAtOffset? path = cutAtWildcard? path := by
  by_cases hpattern : IsPattern path
  · obtain ⟨before, after, hpath, hbefore⟩ := List.eq_append_cons_of_mem hpattern
    have hne : path ≠ "" := by
      rintro rfl
      simp at hpath
    have hpieces : Text.pieces '.' path = before ++ wildcard :: after := by
      rw [← segments_of_ne_empty hne, hpath]
    have htext : path = lead before ++ wildcard ++ trail after := by
      rw [← ofSegments_append_cons, ← hpath, ofSegments_segments]
    have hfront : Text.slice? path 0 (lead before).utf8ByteSize = some (lead before) := by
      have hslice := Text.slice?_append "" (lead before) (wildcard ++ trail after)
      rwa [String.empty_append, ← String.append_assoc, ← htext] at hslice
    have hback : Text.slice? path ((lead before).utf8ByteSize + wildcard.utf8ByteSize)
        path.utf8ByteSize = some (trail after) := by
      have hslice := Text.slice?_append (lead before ++ wildcard) (trail after) ""
      rwa [String.append_empty, ← htext, String.utf8ByteSize_append] at hslice
    rw [cutAtWildcard?_of_segments hpath hbefore, cutAtOffset?, hpieces,
      wildcardOffset?_append hbefore]
    simp only [Nat.zero_add, Option.bind_eq_bind, Option.bind_some, hfront, hback,
      withoutLastDot_lead, withoutFirstDot_trail, Option.pure_def]
  · have hpieces : wildcard ∉ Text.pieces '.' path := wildcard_mem_pieces_iff.not.mpr hpattern
    rw [cutAtWildcard?_of_not_isPattern hpattern, cutAtOffset?, wildcardOffset?_of_not_mem hpieces]
    rfl

/-! ## Filling step by step -/

/-- In one step, the first wildcard becomes the index of an item of the list before it. -/
inductive FillsTo (tree : Value) : String → String → Prop where
  | index {path front back : String} {i : Nat} :
      cutAtWildcard? path = some (front, back) → i < tree.itemCount front →
      FillsTo tree path (join (join front (toString i)) back)

theorem FillsTo.count_segments {tree : Value} {next : String} (h : FillsTo tree path next) :
    (segments next).count wildcard + 1 = (segments path).count wildcard := by
  obtain ⟨hcut, _⟩ := h
  exact count_segments_of_cut hcut _

theorem wellFounded_fillsTo (tree : Value) :
    WellFounded fun next path : String => FillsTo tree path next := by
  refine Subrelation.wf (fun h => ?_)
    (measure fun path : String => (segments path).count wildcard).wf
  exact Nat.lt_of_succ_le h.count_segments.le

/-- Of every run of steps, each takes one wildcard away. -/
theorem length_le_of_isChain {tree : Value} {texts : List String}
    (h : (path :: texts).IsChain (FillsTo tree)) :
    texts.length ≤ (segments path).count wildcard := by
  induction texts generalizing path with
  | nil => exact Nat.zero_le _
  | cons next rest ih =>
    obtain ⟨hstep, hrest⟩ := List.isChain_cons_cons.mp h
    have hcount := hstep.count_segments
    have hlength := ih hrest
    rw [List.length_cons]
    omega

/-! ## What a cut of a pattern is good for -/

/-- Both sides of the wildcard can be declared unless they are empty, the front is concrete, nothing
but the wildcard is lost, and an index in its place leaves one wildcard less. -/
structure IsFirstCut (path front back : String) : Prop where
  concrete : ¬IsPattern front
  front_declarable : front = "" ∨ IsDeclarable front
  back_declarable : back = "" ∨ IsDeclarable back
  rejoined : join (join front wildcard) back = path
  count_index : ∀ i : Nat, (segments (join (join front (toString i)) back)).count wildcard + 1 =
    (segments path).count wildcard

theorem eq_empty_or_isDeclarable (h : "" ∉ segments path) : path = "" ∨ IsDeclarable path := by
  by_cases hempty : path = ""
  · exact .inl hempty
  · exact .inr ⟨hempty, h⟩

theorem isFirstCut_of_cut (hd : IsDeclarable path) (h : cutAtWildcard? path = some (front, back)) :
    IsFirstCut path front back := by
  obtain ⟨hsegments, hconcrete⟩ := segments_of_cut hd h
  have hfilled : "" ∉ segments front ++ wildcard :: segments back := hsegments ▸ hd.2
  rw [List.mem_append, List.mem_cons, not_or, not_or] at hfilled
  exact {
    concrete := hconcrete
    front_declarable := eq_empty_or_isDeclarable hfilled.1
    back_declarable := eq_empty_or_isDeclarable hfilled.2.2
    rejoined := join_of_cut hd h
    count_index := count_segments_of_cut h }

theorem isSome_cutAtWildcard?_iff : (cutAtWildcard? path).isSome ↔ IsPattern path := by
  rw [Option.isSome_iff_ne_none, ← not_iff_not, not_not]
  exact ⟨not_isPattern_of_cut, cutAtWildcard?_of_not_isPattern⟩

/-- How a path is cut and filled. It is cut if it has a wildcard, at the byte offset of the first
one. For a path that may be declared the instances are those of the texts that the cut leads to;
and filling comes to an end for any text and tree, after at most as many steps as there are
wildcards. -/
structure IsFilledByCuts (path : String) : Prop where
  isSome_iff : (cutAtWildcard? path).isSome ↔ IsPattern path
  by_offset : cutAtOffset? path = cutAtWildcard? path
  firstCut : ∀ front back, IsDeclarable path → cutAtWildcard? path = some (front, back) →
    IsFirstCut path front back
  filled : ∀ tree, IsDeclarable path → instances tree path =
    match cutAtWildcard? path with
    | none => [path]
    | some (front, back) => (List.range (tree.itemCount front)).flatMap fun i =>
        instances tree (join (join front (toString i)) back)
  terminates : ∀ tree, Acc (fun next path : String => FillsTo tree path next) path
  steps_le : ∀ tree texts, (path :: texts).IsChain (FillsTo tree) →
    texts.length ≤ (segments path).count wildcard

theorem isFilledByCuts (path : String) : IsFilledByCuts path where
  isSome_iff := isSome_cutAtWildcard?_iff
  by_offset := cutAtOffset?_eq path
  firstCut _ _ := isFirstCut_of_cut
  filled tree := instances_eq_cut tree
  terminates tree := (wellFounded_fillsTo tree).apply path
  steps_le _ _ := length_le_of_isChain

/-- A pattern with characters of several bytes before wildcards that follow one another. -/
theorem isFilledByCuts_of_adjacent_wildcards :
    IsDeclarable "é.a*.*.*" ∧ cutAtOffset? "é.a*.*.*" = some ("é.a*", "*") ∧
      IsFirstCut "é.a*.*.*" "é.a*" "*" := by
  have hd : IsDeclarable "é.a*.*.*" := by decide
  have hcut : cutAtWildcard? "é.a*.*.*" = some ("é.a*", "*") := by decide
  have hfilled := isFilledByCuts "é.a*.*.*"
  exact ⟨hd, hfilled.by_offset.trans hcut, hfilled.firstCut "é.a*" "*" hd hcut⟩

end Path

end Conform
