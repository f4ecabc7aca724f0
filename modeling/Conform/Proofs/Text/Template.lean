import Conform.Text.Template
import Mathlib.Data.List.Infix

/-!
# Templates part by part

A template whose placeholders are all closed is filled by itself, whatever follows it; so filling
goes from placeholder to placeholder and never looks at what it has put in. Text behind an opener
that is not closed stays as it is, and so does a template that names nothing with a value. Cutting a
template into parts that are then filled gives the same text as a loop that finds the next opener,
copies what stands before it and goes on behind the placeholder (`fill_eq_scan`).
-/

namespace Conform.Template

section

variable {opener text key rest : List Char}

/-- Every opener that a scan from left to right comes to is closed. The scan goes on behind the
first closing brace after an opener. -/
inductive IsClosed (opener : List Char) : List Char → Prop where
  | nil : IsClosed opener []
  | char {c : Char} {text : List Char} : ¬opener <+: c :: text → IsClosed opener text →
      IsClosed opener (c :: text)
  | slot {key rest : List Char} : '}' ∉ key → IsClosed opener rest →
      IsClosed opener (opener ++ key ++ '}' :: rest)

/-- No proper end of the opener is a beginning of it, so two openers never overlap. -/
def IsUnbordered (opener : List Char) : Prop :=
  ∀ front back, opener = front ++ back → back <+: opener → front = [] ∨ back = []

theorem isUnbordered_singleton (c : Char) : IsUnbordered [c] := by
  intro front back h _
  cases front with
  | nil => exact .inl rfl
  | cons d front => exact .inr (List.append_eq_nil_iff.mp (List.cons.inj h).2.symm).2

theorem isUnbordered_pair {c d : Char} (h : c ≠ d) : IsUnbordered [c, d] := by
  intro front back hsplit hborder
  cases front with
  | nil => exact .inl rfl
  | cons e front =>
    obtain ⟨-, hsplit⟩ := List.cons.inj hsplit
    cases front with
    | nil =>
      obtain rfl : [d] = back := hsplit
      exact absurd (List.cons_prefix_cons.mp hborder).1 h.symm
    | cons f front => exact .inr (List.append_eq_nil_iff.mp (List.cons.inj hsplit).2.symm).2

/-! ## Parts -/

theorem parts_char {c : Char} (h : ¬opener <+: c :: text) :
    parts opener (c :: text) = .char c :: parts opener text := by
  rw [parts, if_neg (by simpa using h)]

theorem parts_slot (hkey : '}' ∉ key) :
    parts opener (opener ++ key ++ '}' :: rest) =
      .slot (String.ofList key) :: parts opener rest := by
  have hne : opener ++ key ++ '}' :: rest ≠ [] := by simp
  obtain ⟨c, t, htext⟩ := List.exists_cons_of_ne_nil hne
  have hopens : opener.isPrefixOf (c :: t) = true := by simp [← htext]
  have hclosing : closing? ((c :: t).drop opener.length) = some (key, rest) := by
    refine closing?_eq_some_iff.mpr ⟨?_, hkey⟩
    simp [← htext]
  rw [htext, parts, if_pos hopens]
  split
  · simp_all
  · simp_all

theorem parts_of_not_mem (h : '}' ∉ rest) :
    parts opener (opener ++ rest) = (opener ++ rest).map .char := by
  have hclosing : closing? rest = none := by
    rw [Option.eq_none_iff_forall_ne_some]
    intro found hfound
    exact h (by rw [(closing?_eq_some_iff.mp hfound).1]; simp)
  cases htext : opener ++ rest with
  | nil => simp [parts]
  | cons c t =>
    have hopens : opener.isPrefixOf (c :: t) = true := by simp [← htext]
    rw [parts, if_pos hopens]
    split
    · rfl
    · simp_all [← htext]

/-- An opener that does not begin in a text does not begin in it when another opener follows. -/
theorem IsUnbordered.not_isPrefix (hopener : IsUnbordered opener) {front : List Char}
    (hfront : front ≠ []) (h : ¬opener <+: front) (back : List Char) :
    ¬opener <+: front ++ (opener ++ back) := by
  intro hbegins
  obtain hshort | hlong := Nat.le_total opener.length front.length
  · exact h (List.prefix_of_prefix_length_le hbegins (List.prefix_append ..) hshort)
  · -- the opener goes beyond the text, so its end is the beginning of the other opener
    obtain ⟨last, hlast⟩ := List.prefix_of_prefix_length_le (List.prefix_append ..) hbegins hlong
    have hback : last <+: opener ++ back := by
      rwa [← List.prefix_append_right_inj front, hlast]
    have hlength : last.length ≤ opener.length := by
      rw [← hlast, List.length_append]
      omega
    have hborder := List.prefix_of_prefix_length_le hback (List.prefix_append ..) hlength
    obtain hnil | rfl := hopener front last hlast.symm hborder
    · exact hfront hnil
    · exact h (by simp [← hlast])

/-- The parts of a closed text do not depend on the opener that follows it. -/
theorem parts_append (hopener : IsUnbordered opener) {front : List Char}
    (h : IsClosed opener front) (back : List Char) :
    parts opener (front ++ (opener ++ back)) =
      parts opener front ++ parts opener (opener ++ back) := by
  induction h with
  | nil => simp [parts]
  | @char c text hopens _ ih =>
    have hmore := hopener.not_isPrefix (List.cons_ne_nil c text) hopens back
    rw [List.cons_append] at hmore
    rw [parts_char hopens, List.cons_append, parts_char hmore, ih, List.cons_append]
  | @slot key rest hkey _ ih =>
    rw [parts_slot hkey, List.append_assoc (opener ++ key), List.cons_append, parts_slot hkey, ih,
      List.cons_append]

/-- What is cut at a closed opener: the opener, a key and a closing brace. -/
theorem eq_of_closing? (hopens : opener.isPrefixOf text = true)
    (hclosing : closing? (text.drop opener.length) = some (key, rest)) :
    text = opener ++ key ++ '}' :: rest ∧ '}' ∉ key := by
  obtain ⟨hdrop, hkey⟩ := closing?_eq_some_iff.mp hclosing
  obtain ⟨behind, rfl⟩ := List.isPrefixOf_iff_prefix.mp hopens
  rw [List.drop_left] at hdrop
  exact ⟨by rw [hdrop, List.append_assoc], hkey⟩

/-- A slot has its placeholder behind a closed beginning of the template. -/
theorem exists_isClosed_of_slot_mem {name : String} (h : .slot name ∈ parts opener text) :
    ∃ front back, IsClosed opener front ∧ '}' ∉ name.toList ∧
      text = front ++ (opener ++ name.toList ++ '}' :: back) := by
  fun_induction parts opener text with
  | case1 => cases h
  | case2 c text hopens hclosing => simp at h
  | case3 c text hopens key rest hclosing ih =>
    obtain ⟨htext, hkey⟩ := eq_of_closing? hopens hclosing
    obtain hname | h := List.mem_cons.mp h
    · cases hname
      exact ⟨[], rest, .nil, by simpa using hkey, by simpa using htext⟩
    · obtain ⟨front, back, hfront, hname, rfl⟩ := ih h
      exact ⟨_, back, .slot hkey hfront, hname, by simp [htext]⟩
  | case4 c text hopens ih =>
    obtain hname | h := List.mem_cons.mp h
    · cases hname
    · obtain ⟨front, back, hfront, hname, rfl⟩ := ih h
      refine ⟨c :: front, back, .char (fun hbegins => hopens ?_) hfront, hname, rfl⟩
      exact List.isPrefixOf_iff_prefix.mpr (hbegins.trans (List.prefix_append (c :: front) _))

/-- Without values the parts are written as they stand in the template. -/
theorem flatMap_fill_none :
    (parts opener text).flatMap (Part.fill opener fun _ => none) = text := by
  fun_induction parts opener text with
  | case1 => rfl
  | case2 c text hopens hclosing => simp [List.flatMap_map, Part.fill]
  | case3 c text hopens key rest hclosing ih =>
    rw [List.flatMap_cons, ih, (eq_of_closing? hopens hclosing).1]
    simp [Part.fill]
  | case4 c text hopens ih => rw [List.flatMap_cons, ih, Part.fill, List.singleton_append]

/-! ## The loop -/

/-- Goes on with `rest` behind what is already `out`. The text before the next opener is copied, and
so is an opener without a closing brace behind it, with all that follows. -/
def scan (opener : List Char) (value? : String → Option String) (rest out : List Char) :
    List Char :=
  match rest.tails.findIdx? opener.isPrefixOf with
  | none => out ++ rest
  | some first =>
    let after := rest.drop (first + opener.length)
    match _ : after.findIdx? (· = '}') with
    | none => out ++ rest.take first ++ rest.drop first
    | some last =>
      scan opener value? (after.drop (last + 1))
        (out ++ rest.take first ++
          Part.fill opener value? (.slot (String.ofList (after.take last))))
termination_by rest.length
decreasing_by
  rename_i hlast
  have hlt : last < after.length := (List.findIdx?_eq_some_iff_getElem.mp hlast).1
  simp only [after, List.length_drop] at hlt ⊢
  omega

/-- The text from the first opener on. -/
theorem drop_of_findIdx?_opener {first : Nat}
    (h : text.tails.findIdx? opener.isPrefixOf = some first) :
    text.drop first = opener ++ text.drop (first + opener.length) := by
  obtain ⟨hlt, hopens, -⟩ := List.findIdx?_eq_some_iff_getElem.mp h
  rw [List.getElem_tails, List.isPrefixOf_iff_prefix, List.prefix_iff_eq_append] at hopens
  rw [← List.drop_drop, hopens]

/-- Before the first opener all characters stand for themselves. -/
theorem parts_of_findIdx?_opener {first : Nat}
    (h : text.tails.findIdx? opener.isPrefixOf = some first) :
    parts opener text = (text.take first).map .char ++ parts opener (text.drop first) := by
  induction text generalizing first with
  | nil => simp [parts]
  | cons c text ih =>
    rw [List.tails_cons, List.findIdx?_cons] at h
    by_cases hopens : opener.isPrefixOf (c :: text) = true
    · rw [if_pos hopens] at h
      cases h
      rfl
    · rw [if_neg hopens] at h
      obtain ⟨next, hnext, rfl⟩ := Option.map_eq_some_iff.mp h
      rw [parts_char (by simpa using hopens), ih hnext]
      rfl

/-- Without an opener all characters stand for themselves. -/
theorem parts_of_findIdx?_eq_none (h : text.tails.findIdx? opener.isPrefixOf = none) :
    parts opener text = text.map .char := by
  induction text with
  | nil => simp [parts]
  | cons c text ih =>
    rw [List.tails_cons, List.findIdx?_cons] at h
    by_cases hopens : opener.isPrefixOf (c :: text) = true
    · simp [hopens] at h
    · rw [if_neg hopens, Option.map_eq_none_iff] at h
      rw [parts_char (by simpa using hopens), ih h, List.map_cons]

theorem flatMap_fill_char {value? : String → Option String} :
    (text.map Part.char).flatMap (Part.fill opener value?) = text := by
  simp [List.flatMap_map, Part.fill]

/-- The text before the first closing brace. -/
theorem eq_of_findIdx?_closing {last : Nat} (h : text.findIdx? (· = '}') = some last) :
    text = text.take last ++ '}' :: text.drop (last + 1) ∧ '}' ∉ text.take last := by
  obtain ⟨hlt, hclosing, hbefore⟩ := List.findIdx?_eq_some_iff_getElem.mp h
  constructor
  · rw [← of_decide_eq_true hclosing, ← List.drop_eq_getElem_cons hlt, List.take_append_drop]
  · intro hmem
    obtain ⟨i, hi, hget⟩ := List.mem_take_iff_getElem.mp hmem
    exact hbefore i (by omega) (by simpa using hget)

/-- The loop writes the parts of the text, filled one by one. -/
theorem scan_eq (opener : List Char) (value? : String → Option String) (rest out : List Char) :
    scan opener value? rest out =
      out ++ (parts opener rest).flatMap (Part.fill opener value?) := by
  fun_induction scan opener value? rest out with
  | case1 rest out hnone => rw [parts_of_findIdx?_eq_none hnone, flatMap_fill_char]
  | case2 rest out first hfirst after hnone =>
    have hunclosed : '}' ∉ after := by
      intro hmem
      simpa using List.findIdx?_eq_none_iff.mp hnone _ hmem
    rw [parts_of_findIdx?_opener hfirst, drop_of_findIdx?_opener hfirst, List.flatMap_append,
      flatMap_fill_char, parts_of_not_mem hunclosed, flatMap_fill_char, List.append_assoc]
  | case3 rest out first hfirst after last hlast ih =>
    obtain ⟨hclosed, hkey⟩ := eq_of_findIdx?_closing hlast
    have hslot : rest.drop first = opener ++ after.take last ++ '}' :: after.drop (last + 1) := by
      rw [drop_of_findIdx?_opener hfirst, List.append_assoc, ← hclosed]
    rw [ih, parts_of_findIdx?_opener hfirst, hslot, parts_slot hkey, List.flatMap_append,
      flatMap_fill_char, List.flatMap_cons]
    simp only [List.append_assoc]

end

/-! ## Filling -/

variable {opener : String} {value? : String → Option String}

/-- The placeholder of a key. -/
def placeholder (opener key : String) : String := opener ++ key ++ "\x7d"

/-- A scan of the template comes to the placeholder of the key. -/
def Names (opener template key : String) : Prop :=
  ∃ front back, IsClosed opener.toList front.toList ∧ '}' ∉ key.toList ∧
    template = front ++ placeholder opener key ++ back

theorem toList_fill (template : String) :
    (fill opener value? template).toList =
      (parts opener.toList template.toList).flatMap (Part.fill opener.toList value?) :=
  String.toList_ofList

/-- The loop fills a template. -/
theorem fill_eq_scan (template : String) :
    fill opener value? template =
      String.ofList (scan opener.toList value? template.toList []) := by
  rw [fill, scan_eq, List.nil_append]

/-- A closed text is filled by itself when an opener follows it. -/
theorem fill_append (hopener : IsUnbordered opener.toList) {front : String}
    (h : IsClosed opener.toList front.toList) (back : String) :
    fill opener value? (front ++ (opener ++ back)) =
      fill opener value? front ++ fill opener value? (opener ++ back) := by
  apply String.toList_injective
  simp only [toList_fill, String.toList_append, parts_append hopener h, List.flatMap_append]

theorem fill_placeholder {key : String} (hkey : '}' ∉ key.toList) (rest : String) :
    fill opener value? (placeholder opener key ++ rest) =
      (value? key).getD (placeholder opener key) ++ fill opener value? rest := by
  have htext : (placeholder opener key ++ rest).toList =
      opener.toList ++ key.toList ++ '}' :: rest.toList := by simp [placeholder]
  have hslot : Part.fill opener.toList value? (.slot key) =
      ((value? key).getD (placeholder opener key)).toList := by
    cases hvalue : value? key <;> simp [Part.fill, placeholder, hvalue]
  apply String.toList_injective
  rw [toList_fill, htext, parts_slot hkey, String.ofList_toList, List.flatMap_cons, hslot,
    ← toList_fill, String.toList_append]

/-- Behind a closed text a placeholder gives way to the value of its key, and what follows is filled
as if it stood alone. -/
theorem fill_append_placeholder (hopener : IsUnbordered opener.toList) {front key : String}
    (hfront : IsClosed opener.toList front.toList) (hkey : '}' ∉ key.toList) (back : String) :
    fill opener value? (front ++ placeholder opener key ++ back) =
      fill opener value? front ++ (value? key).getD (placeholder opener key) ++
        fill opener value? back := by
  have hopens : placeholder opener key ++ back = opener ++ (key ++ "\x7d" ++ back) := by
    simp only [placeholder, String.append_assoc]
  rw [String.append_assoc, hopens, fill_append hopener hfront, ← hopens, fill_placeholder hkey,
    String.append_assoc]

theorem fill_of_not_mem {rest : String} (h : '}' ∉ rest.toList) :
    fill opener value? (opener ++ rest) = opener ++ rest := by
  apply String.toList_injective
  simp [toList_fill, parts_of_not_mem h, List.flatMap_map, Part.fill]

/-- Only the values of the keys that the template names matter. -/
theorem fill_congr {other? : String → Option String} {template : String}
    (h : ∀ key, Names opener template key → value? key = other? key) :
    fill opener value? template = fill opener other? template := by
  have hparts : ∀ part ∈ parts opener.toList template.toList,
      part.fill opener.toList value? = part.fill opener.toList other? := by
    rintro (c | key) hpart
    · rfl
    · obtain ⟨front, back, hfront, hkey, htext⟩ := exists_isClosed_of_slot_mem hpart
      have hnames : Names opener template key := by
        refine ⟨String.ofList front, String.ofList back, by simpa using hfront, hkey, ?_⟩
        apply String.toList_injective
        simp [placeholder, htext]
      rw [Part.fill, Part.fill, h key hnames]
  rw [fill, fill, List.flatMap_congr hparts]

theorem fill_none (template : String) : fill opener (fun _ => none) template = template := by
  rw [fill, flatMap_fill_none, String.ofList_toList]

/-- A template that names nothing with a value is filled with itself. -/
theorem fill_of_forall_none {template : String}
    (h : ∀ key, Names opener template key → value? key = none) :
    fill opener value? template = template :=
  (fill_congr h).trans (fill_none template)

/-! ## Values -/

/-- What parameters hold for a key is the value of the first one with the key. -/
theorem lookup_eq_find? (params : List (String × String)) (key : String) :
    params.lookup key = (params.find? fun param => param.1 = key).map Prod.snd := by
  induction params with
  | nil => rfl
  | cons param rest ih =>
    rw [List.lookup_cons, List.find?_cons, ih]
    by_cases h : param.1 = key
    · simp [h]
    · rw [decide_eq_false h, beq_eq_false_iff_ne.mpr (Ne.symm h)]

end Conform.Template
