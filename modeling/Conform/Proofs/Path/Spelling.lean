import Conform.Proofs.Path.Instances
import Conform.Proofs.Path.Nodes

/-!
# The spelling of indices

A segment with zeros in front still denotes an index. Without them each index has one spelling, the
decimal one, and a path is spelled as the steps that it takes.
-/

namespace Conform

namespace Numeral

theorem exists_eq_digitChar {c : Char} (h : c.isDigit = true) : ∃ d < 10, c = Nat.digitChar d := by
  obtain ⟨hlow, hhigh⟩ := Char.isDigit_iff_toNat.mp h
  have hzero : '0'.toNat = 48 := rfl
  have hnine : '9'.toNat = 57 := rfl
  refine ⟨c.toNat - 48, by omega, Char.toNat_inj.mp ?_⟩
  have hchar := @Nat.toNat_digitChar_of_lt_ten (c.toNat - 48) (by omega)
  omega

/-- Digits that are read on after a number other than zero are its last digits in the end. -/
theorem toDigits_ofDigitChars {start : Nat} (hstart : 0 < start) {digits : List Char}
    (h : ∀ c ∈ digits, c.isDigit = true) :
    Nat.toDigits 10 (Nat.ofDigitChars 10 digits start) = Nat.toDigits 10 start ++ digits := by
  induction digits generalizing start with
  | nil => rw [Nat.ofDigitChars_nil, List.append_nil]
  | cons c rest ih =>
    obtain ⟨d, hd, rfl⟩ := exists_eq_digitChar (h c (List.mem_cons_self ..))
    have hrest : ∀ c ∈ rest, c.isDigit = true := fun c hc => h c (List.mem_cons_of_mem _ hc)
    calc Nat.toDigits 10 (Nat.ofDigitChars 10 (Nat.digitChar d :: rest) start)
        = Nat.toDigits 10 (10 * start + d) ++ rest := by
          rw [Nat.ofDigitChars_cons_digitChar_of_lt_ten hd, ih (by omega) hrest]
      _ = Nat.toDigits 10 start ++ Nat.toDigits 10 d ++ rest := by
          rw [Nat.toDigits_append_toDigits (by decide) hstart hd]
      _ = Nat.toDigits 10 start ++ Nat.digitChar d :: rest := by
          rw [Nat.toDigits_of_lt_base hd, List.append_assoc, List.singleton_append]

end Numeral

namespace Path

/-- At least two digits, the first of which is a zero. -/
def HasLeadingZero (segment : String) : Prop :=
  segment.toList.all Char.isDigit = true ∧ segment.toList.head? = some '0' ∧
    1 < segment.toList.length

instance (segment : String) : Decidable (HasLeadingZero segment) :=
  inferInstanceAs (Decidable (_ ∧ _ ∧ _))

/-- If the segment denotes an index, it is the decimal text of the index. -/
def IsSpelledPlainly (segment : String) : Prop :=
  ∀ i, index? segment = some i → segment = toString i

theorem natural?_of_index? {segment : String} {i : Nat} (h : index? segment = some i) :
    Numeral.natural? segment.toList = some i :=
  (Option.filter_eq_some_iff.mp h).1

theorem isSpelledPlainly_toString (i : Nat) : IsSpelledPlainly (toString i) := by
  intro j hj
  have hread := natural?_of_index? hj
  rw [Nat.toString_eq_repr, Nat.toList_repr, Numeral.natural?_toDigits] at hread
  rw [Option.some.inj hread]

theorem isSpelledPlainly_of_not_hasLeadingZero {segment : String} (h : ¬HasLeadingZero segment) :
    IsSpelledPlainly segment := by
  intro i hi
  have hread := natural?_of_index? hi
  apply String.toList_injective
  rw [Nat.toString_eq_repr, Nat.toList_repr]
  unfold HasLeadingZero at h
  generalize segment.toList = text at h hread
  rw [Numeral.natural?] at hread
  split at hread
  · rename_i hdigits
    obtain ⟨hne, hall⟩ := hdigits
    obtain rfl := Option.some.inj hread
    have hall' := List.all_eq_true.mp hall
    cases text with
    | nil => exact absurd rfl hne
    | cons c rest =>
      obtain ⟨d, hd, rfl⟩ := Numeral.exists_eq_digitChar (hall' c (List.mem_cons_self ..))
      rw [Nat.ofDigitChars_cons_digitChar_of_lt_ten hd, Nat.mul_zero, Nat.zero_add]
      by_cases hrest : rest = []
      · rw [hrest, Nat.ofDigitChars_nil, Nat.toDigits_of_lt_base hd]
      · have hpos : 0 < d := by
          rw [Nat.pos_iff_ne_zero]
          rintro rfl
          exact h ⟨hall, rfl, by simpa using List.length_pos_of_ne_nil hrest⟩
        rw [Numeral.toDigits_ofDigitChars hpos fun c hc => hall' c (List.mem_cons_of_mem _ hc),
          Nat.toDigits_of_lt_base hd, List.singleton_append]
  · cases hread

theorem StandsFor.isSpelledPlainly {pattern segment : String} (h : StandsFor pattern segment)
    (hp : IsSpelledPlainly pattern) : IsSpelledPlainly segment := by
  rcases h with ⟨-, rfl⟩ | ⟨-, i, rfl⟩
  · exact hp
  · exact isSpelledPlainly_toString i

end Path

/-- A path whose indices are spelled plainly takes the steps that it is made of. -/
theorem Value.Follows.eq_of_isSpelledPlainly {tree node : Value} {segments steps : List String}
    (h : tree.Follows segments steps node) (hs : ∀ s ∈ segments, Path.IsSpelledPlainly s) :
    steps = segments := by
  induction h with
  | here => rfl
  | field _ _ ih => rw [ih fun s hmem => hs s (List.mem_cons_of_mem _ hmem)]
  | item hi _ _ ih =>
    rw [ih fun s hmem => hs s (List.mem_cons_of_mem _ hmem),
      ← hs _ (List.mem_cons_self ..) _ hi]

end Conform
