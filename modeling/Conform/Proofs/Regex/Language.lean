import Conform.Proofs.Spec.Grammar
import Conform.Regex.Recognition

/-!
# The languages of patterns

A pattern without assertions matches the words of a language, whatever stands around them
(`matches_iff_mem_language`). Between an assertion for each end of the text, such patterns one
after the other are found in the texts that are words of the product of their languages
(`foundIn_whole_iff`).
-/

namespace Conform.Regex

open Grammar
open scoped Computability

/-! ## Sets of characters -/

namespace CharSet

variable {c d : Char}

theorem contains_single_iff : (single d).contains c = true ↔ c = d := by
  simp only [single, contains, Bool.and_eq_true, decide_eq_true_eq]
  constructor
  · exact fun ⟨hle, hge⟩ => Char.le_antisymm hge hle
  · rintro rfl
    exact ⟨Char.le_refl c, Char.le_refl c⟩

theorem contains_all : all.contains c = true := by
  have hlast : c ≤ Char.ofNat 0x10FFFF := by
    rcases c.valid with h | ⟨-, h⟩
    · exact UInt32.le_iff_toNat_le.mpr (Nat.le_of_lt (h.trans (by decide)))
    · exact UInt32.le_iff_toNat_le.mpr (Nat.le_of_lt_succ h)
  simp only [all, contains, Bool.and_eq_true, decide_eq_true_eq]
  exact ⟨UInt32.le_iff_toNat_le.mpr (Nat.zero_le _), hlast⟩

theorem contains_foldl_union_iff {sets : List CharSet} {start : CharSet} :
    (sets.foldl union start).contains c = true ↔
      start.contains c = true ∨ ∃ set ∈ sets, set.contains c = true := by
  induction sets generalizing start with
  | nil => simp
  | cons set sets ih => simp [ih, contains, or_assoc]

theorem contains_ofList_iff {sets : List CharSet} :
    (ofList sets).contains c = true ↔ ∃ set ∈ sets, set.contains c = true := by
  rw [ofList, contains_foldl_union_iff]
  simp [empty, contains, contains_all]

end CharSet

namespace Pattern

/-! ## Repetition of words -/

/-- Words of a language one after the other: at most so many, or any number of them. -/
def rounds (l : Language Char) : Option Nat → Language Char
  | none => l∗
  | some extra => {text | ∃ n ≤ extra, text ∈ l ^ n}

variable {l : Language Char} {text : List Char}

theorem nil_mem_rounds (extra? : Option Nat) : [] ∈ rounds l extra? := by
  cases extra? with
  | none => exact Language.nil_mem_kstar l
  | some extra => exact ⟨0, Nat.zero_le _, rfl⟩

theorem mem_rounds_zero_iff : text ∈ rounds l (some 0) ↔ text = [] := by
  constructor
  · rintro ⟨n, hn, htext⟩
    obtain rfl := Nat.le_zero.mp hn
    exact htext
  · exact fun heq => heq ▸ nil_mem_rounds _

theorem mem_rounds_succ_iff {extra : Nat} :
    text ∈ rounds l (some (extra + 1)) ↔ text = [] ∨ text ∈ l * rounds l (some extra) := by
  constructor
  · rintro ⟨n, hn, htext⟩
    cases n with
    | zero => exact .inl htext
    | succ n =>
      rw [pow_succ'] at htext
      obtain ⟨u, hu, v, hv, rfl⟩ := Language.mem_mul.mp htext
      exact .inr (Language.append_mem_mul hu ⟨n, Nat.le_of_succ_le_succ hn, hv⟩)
  · rintro (rfl | htext)
    · exact nil_mem_rounds _
    · obtain ⟨u, hu, v, ⟨n, hn, hv⟩, rfl⟩ := Language.mem_mul.mp htext
      refine ⟨n + 1, Nat.succ_le_succ hn, ?_⟩
      rw [pow_succ']
      exact Language.append_mem_mul hu hv

theorem mem_pow_oneOf_iff {p : Char → Prop} {n : Nat} :
    text ∈ oneOf p ^ n ↔ text.length = n ∧ ∀ c ∈ text, p c := by
  induction n generalizing text with
  | zero => simp +contextual [Language.mem_one]
  | succ n ih =>
    rw [pow_succ', Language.mem_mul]
    constructor
    · rintro ⟨_, ⟨c, hc, rfl⟩, rest, hrest, rfl⟩
      obtain ⟨hlength, hall⟩ := ih.mp hrest
      simpa [hlength] using ⟨hc, hall⟩
    · rintro ⟨hlength, hall⟩
      obtain ⟨c, rest, rfl⟩ := List.exists_cons_of_length_eq_add_one hlength
      obtain ⟨hc, hall⟩ := List.forall_mem_cons.mp hall
      exact ⟨[c], ⟨c, hc, rfl⟩, rest, ih.mpr ⟨by simpa using hlength, hall⟩, rfl⟩

theorem mem_rounds_oneOf_iff {p : Char → Prop} {extra : Nat} :
    text ∈ rounds (oneOf p) (some extra) ↔ text.length ≤ extra ∧ ∀ c ∈ text, p c := by
  constructor
  · rintro ⟨n, hn, htext⟩
    obtain ⟨rfl, hall⟩ := mem_pow_oneOf_iff.mp htext
    exact ⟨hn, hall⟩
  · rintro ⟨hlength, hall⟩
    exact ⟨text.length, hlength, mem_pow_oneOf_iff.mpr ⟨rfl, hall⟩⟩

/-! ## Patterns without assertions -/

/-- The pattern has no assertions. -/
def IsPlain : Pattern → Prop
  | empty | chars _ => True
  | assertion _ => False
  | seq p q | alt p q => p.IsPlain ∧ q.IsPlain
  | rep p _ _ => p.IsPlain

/-- The words that a pattern without assertions matches. -/
def language : Pattern → Language Char
  | empty => 1
  | chars set => oneOf (set.contains · = true)
  | assertion _ => 0
  | seq p q => p.language * q.language
  | alt p q => p.language + q.language
  | rep p least extra? => p.language ^ least * rounds p.language extra?

variable {p q : Pattern} {before after : Option Char}

@[simp]
theorem language_char (c : Char) : (char c).language = oneOf (· = c) := by
  simp only [char, language, CharSet.contains_single_iff]

@[simp]
theorem language_optional : p.optional.language = 1 + p.language := by
  ext text
  simp only [optional, language, pow_zero, one_mul, Language.mem_add, Language.mem_one]
  have hzero : rounds p.language (some 0) = 1 := Set.ext fun _ => mem_rounds_zero_iff
  rw [mem_rounds_succ_iff, hzero, mul_one]

@[simp]
theorem language_star : p.star.language = p.language∗ := by
  simp only [star, language, rounds, pow_zero, one_mul]

@[simp]
theorem language_plus : p.plus.language = p.language * p.language∗ := by
  simp only [plus, language, rounds, pow_one]

/-! ### Matches are membership -/

section

variable (h : ∀ {before text after}, p.Matches before text after ↔ text ∈ l)
include h

theorem matches_rep_none_iff :
    (rep p 0 none).Matches before text after ↔ text ∈ l∗ := by
  constructor
  · intro hmatches
    generalize hrep : rep p 0 none = r at hmatches
    induction hmatches with
    | done => exact Language.nil_mem_kstar l
    | again first others _ ih =>
      cases hrep
      rw [← Language.one_add_self_mul_kstar_eq_kstar]
      exact .inr (Language.append_mem_mul (h.mp first) (ih rfl))
    | _ => cases hrep
  · rintro ⟨words, rfl, hwords⟩
    induction words generalizing before with
    | nil => exact .done
    | cons word words ih =>
      obtain ⟨hword, hwords⟩ := List.forall_mem_cons.mp hwords
      exact .again (h.mpr hword) (ih hwords)

theorem matches_rep_some_iff {extra : Nat} :
    (rep p 0 (some extra)).Matches before text after ↔ text ∈ rounds l (some extra) := by
  induction extra generalizing before text with
  | zero =>
    rw [mem_rounds_zero_iff]
    exact ⟨fun hmatches => by cases hmatches; rfl, fun heq => heq ▸ .done⟩
  | succ extra ih =>
    rw [mem_rounds_succ_iff, Language.mem_mul]
    constructor
    · intro hmatches
      cases hmatches with
      | done => exact .inl rfl
      | further first others => exact .inr ⟨_, h.mp first, _, ih.mp others, rfl⟩
    · rintro (rfl | ⟨u, hu, v, hv, rfl⟩)
      · exact .done
      · exact .further (h.mpr hu) (ih.mpr hv)

/-- A repetition whose pattern matches the words of a language. -/
theorem matches_rep_iff {least : Nat} {extra? : Option Nat} :
    (rep p least extra?).Matches before text after ↔ text ∈ l ^ least * rounds l extra? := by
  induction least generalizing before text with
  | zero =>
    rw [pow_zero, one_mul]
    cases extra? with
    | none => exact matches_rep_none_iff h
    | some extra => exact matches_rep_some_iff h
  | succ least ih =>
    rw [matches_needed_iff, pow_succ', mul_assoc, Language.mem_mul]
    simp only [h, ih]
    grind

end

theorem matches_iff_mem_language (h : p.IsPlain) :
    p.Matches before text after ↔ text ∈ p.language := by
  induction p generalizing before text after with
  | empty => exact matches_empty_iff
  | chars set => exact matches_chars_iff.trans (by simp [language, mem_oneOf_iff, and_comm])
  | assertion a => exact h.elim
  | seq p q ihp ihq =>
    rw [matches_seq_iff, language, Language.mem_mul]
    simp only [ihp h.1, ihq h.2]
    grind
  | alt p q ihp ihq =>
    rw [matches_alt_iff, language, Language.mem_add, ihp h.1, ihq h.2]
  | rep p least extra? ih => exact matches_rep_iff (ih h)

/-! ## Whole texts -/

/-- Patterns one after the other up to the end of the text. -/
theorem matches_toEnd_iff {parts : List Pattern} (h : ∀ part ∈ parts, part.IsPlain) :
    (sequence (parts ++ [assertion .textEnd])).Matches before text after ↔
      after = none ∧ text ∈ (parts.map language).prod := by
  induction parts generalizing before text with
  | nil =>
    change (assertion .textEnd).Matches before text after ↔ _
    rw [matches_assertion_iff]
    simp [Assertion.holds, Language.mem_one, and_comm]
  | cons part parts ih =>
    obtain ⟨hpart, hparts⟩ := List.forall_mem_cons.mp h
    change (part.followedBy (sequence (parts ++ [assertion .textEnd]))).Matches .. ↔ _
    rw [matches_followedBy_iff, matches_seq_iff, List.map_cons, List.prod_cons, Language.mem_mul]
    simp only [matches_iff_mem_language hpart, ih hparts]
    grind

theorem foundIn_whole_iff {parts : List Pattern} (h : ∀ part ∈ parts, part.IsPlain) :
    (sequence (assertion .textStart :: parts ++ [assertion .textEnd])).FoundIn text ↔
      text ∈ (parts.map language).prod := by
  have hwhole {front rest after} :
      (sequence (assertion .textStart :: parts ++ [assertion .textEnd])).Matches front rest after ↔
        front = none ∧ after = none ∧ rest ∈ (parts.map language).prod := by
    change ((assertion .textStart).followedBy (sequence (parts ++ [assertion .textEnd]))).Matches ..
      ↔ _
    rw [matches_followedBy_iff, matches_seq_iff]
    simp only [matches_assertion_iff, matches_toEnd_iff h]
    simp [Assertion.holds]
  simp only [FoundIn, MatchesWithin, MatchesFront, hwhole]
  constructor
  · rintro ⟨front, _, rfl, piece, rest, rfl, hfront, hrest, hpiece⟩
    rw [Option.or_none, List.getLast?_eq_none_iff] at hfront
    rw [List.head?_eq_none_iff] at hrest
    simpa [hfront, hrest] using hpiece
  · exact fun htext => ⟨[], text, rfl, text, [], by simp, rfl, rfl, htext⟩

end Pattern

end Conform.Regex
