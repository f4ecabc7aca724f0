import Conform.Proofs.Regex.Language
import Conform.Rule.Format
import Mathlib

/-!
# Email addresses

The rule on email addresses accepts the texts of one grammar: a local part and a domain with an at
sign between them, where the domain consists of labels with dots between them. The pattern of the
rule is put together by hand; what is read from the pattern as people write it is found in the same
texts.
-/

namespace Conform

open Grammar Regex
open scoped Computability

namespace EmailAddress

/-! ## The grammar -/

/-- The class `[a-zA-Z0-9]`. -/
def IsAlnum (c : Char) : Prop :=
  'a' ≤ c ∧ c ≤ 'z' ∨ 'A' ≤ c ∧ c ≤ 'Z' ∨ '0' ≤ c ∧ c ≤ '9'

/-- The characters of a local part. -/
def IsLocalChar (c : Char) : Prop :=
  IsAlnum c ∨ c ∈ ".!#$%&'*+/=?^_`\x7b|\x7d~-".toList

/-- One to 63 letters, digits and hyphens, with no hyphen at the ends. -/
structure IsLabel (text : List Char) : Prop where
  nonempty : 1 ≤ text.length
  bounded : text.length ≤ 63
  chars : ∀ c ∈ text, IsAlnum c ∨ c = '-'
  head : text.head? ≠ some '-'
  last : text.getLast? ≠ some '-'

/-- One or more labels with single dots between them. -/
def IsDomain (text : List Char) : Prop :=
  ∃ labels, labels ≠ [] ∧ (∀ label ∈ labels, IsLabel label) ∧ ['.'].intercalate labels = text

def IsAddress (text : List Char) : Prop :=
  ∃ front domain, front ≠ [] ∧ (∀ c ∈ front, IsLocalChar c) ∧ IsDomain domain ∧
    text = front ++ '@' :: domain

/-- The characters of ASCII that are neither spaces nor controls. -/
def IsVisible (c : Char) : Prop := '!' ≤ c ∧ c ≤ '~'

instance : DecidablePred IsVisible := fun _ => inferInstanceAs (Decidable (_ ∧ _))

/-! ## The languages of the parts -/

variable {c : Char} {text : List Char}

theorem contains_asciiAlnum_iff : CharSet.asciiAlnum.contains c = true ↔ IsAlnum c := by
  simp only [CharSet.asciiAlnum, CharSet.asciiDigit, CharSet.asciiAlpha, CharSet.asciiUpper,
    CharSet.asciiLower, CharSet.contains, Bool.or_eq_true, Bool.and_eq_true, decide_eq_true_eq,
    IsAlnum]
  grind

theorem contains_localChars_iff : localChars.contains c = true ↔ IsLocalChar c := by
  rw [localChars, CharSet.contains, Bool.or_eq_true, contains_asciiAlnum_iff,
    CharSet.contains_ofList_iff]
  simp only [List.mem_map, exists_exists_and_eq_and, CharSet.contains_single_iff, exists_eq_right',
    IsLocalChar]

theorem contains_labelChars_iff : labelChars.contains c = true ↔ IsAlnum c ∨ c = '-' := by
  rw [labelChars, CharSet.contains, Bool.or_eq_true, contains_asciiAlnum_iff,
    CharSet.contains_single_iff]

/-- A local part is not empty, and all its characters are of its class. -/
theorem mem_language_local_iff :
    text ∈ (Pattern.plus (.chars localChars)).language ↔
      text ≠ [] ∧ ∀ c ∈ text, IsLocalChar c := by
  simp only [Pattern.language_plus, Pattern.language, Language.mem_mul, mem_oneOf_iff,
    mem_kstar_oneOf_iff, contains_localChars_iff]
  constructor
  · rintro ⟨_, ⟨c, hc, rfl⟩, rest, hrest, rfl⟩
    simpa using ⟨hc, hrest⟩
  · rintro ⟨hne, hall⟩
    obtain ⟨c, rest, rfl⟩ := List.exists_cons_of_ne_nil hne
    obtain ⟨hc, hrest⟩ := List.forall_mem_cons.mp hall
    exact ⟨[c], ⟨c, hc, rfl⟩, rest, hrest, rfl⟩

theorem ne_hyphen_of_isAlnum (h : IsAlnum c) : c ≠ '-' := by
  rintro rfl
  exact absurd h (by unfold IsAlnum; decide)

/-- A label of one character has it at both ends. -/
theorem isLabel_singleton_iff : IsLabel [c] ↔ IsAlnum c := by
  constructor
  · intro h
    exact (h.chars c (by simp)).resolve_right fun heq => h.head (by simp [heq])
  · intro h
    have hne := ne_hyphen_of_isAlnum h
    constructor <;> simp [h, hne]

/-- A longer label has up to 61 characters between those at its ends. -/
theorem isLabel_ends_iff {first last : Char} {middle : List Char} :
    IsLabel (first :: (middle ++ [last])) ↔
      IsAlnum first ∧ IsAlnum last ∧ middle.length ≤ 61 ∧
        ∀ c ∈ middle, IsAlnum c ∨ c = '-' := by
  constructor
  · intro h
    have hfirst := (h.chars first (by simp)).resolve_right fun heq => h.head (by simp [heq])
    have hlast := (h.chars last (by simp)).resolve_right fun heq =>
      h.last (by simp [List.getLast?_cons, heq])
    have hlength := h.bounded
    simp only [List.length_cons, List.length_append, List.length_nil] at hlength
    exact ⟨hfirst, hlast, by omega, fun c hc => h.chars c (by simp [hc])⟩
  · rintro ⟨hfirst, hlast, hlength, hmiddle⟩
    have hne := ne_hyphen_of_isAlnum hfirst
    have hne' := ne_hyphen_of_isAlnum hlast
    constructor
    case nonempty => simp
    case bounded =>
      simp only [List.length_cons, List.length_append, List.length_nil]
      omega
    case chars => grind
    case head => simp [hne]
    case last => simp [List.getLast?_cons, hne']

/-- The pattern of a label takes up the character at the front and then, if there are more, those in
the middle and the one at the end. -/
theorem mem_language_label_iff : text ∈ label.language ↔ IsLabel text := by
  simp only [label, Pattern.language, Pattern.language_optional, Language.mem_mul,
    Language.mem_add, Language.mem_one, pow_zero, one_mul, Pattern.mem_rounds_oneOf_iff,
    mem_oneOf_iff, contains_asciiAlnum_iff, contains_labelChars_iff]
  constructor
  · rintro ⟨_, ⟨first, hfirst, rfl⟩, _, rfl | ⟨middle, hmiddle, _, ⟨last, hlast, rfl⟩, rfl⟩, rfl⟩
    · exact isLabel_singleton_iff.mpr hfirst
    · exact isLabel_ends_iff.mpr ⟨hfirst, hlast, hmiddle⟩
  · intro h
    obtain ⟨first, rest, rfl⟩ := List.exists_cons_of_ne_nil (List.ne_nil_of_length_pos h.nonempty)
    rcases List.eq_nil_or_concat rest with rfl | ⟨middle, last, rfl⟩
    · exact ⟨[first], ⟨first, isLabel_singleton_iff.mp h, rfl⟩, [], .inl rfl, rfl⟩
    · rw [List.concat_eq_append] at h ⊢
      obtain ⟨hfirst, hlast, hmiddle⟩ := isLabel_ends_iff.mp h
      exact ⟨[first], ⟨first, hfirst, rfl⟩, middle ++ [last],
        .inr ⟨middle, hmiddle, [last], ⟨last, hlast, rfl⟩, rfl⟩, rfl⟩

theorem mem_language_domain_iff : text ∈ domain.language ↔ IsDomain text := by
  have hdomain : domain.language = separated '.' label.language := by
    simp only [domain, Pattern.language, Pattern.language_star, Pattern.language_char, separated]
  rw [hdomain, mem_separated_iff]
  simp only [mem_language_label_iff, IsDomain]

/-- What the pattern has between the ends of the text. -/
def parts : List Pattern := [.plus (.chars localChars), .char '@', domain]

theorem pattern_eq :
    pattern = .sequence (.assertion .textStart :: parts ++ [.assertion .textEnd]) := rfl

theorem isPlain_of_mem_parts : ∀ part ∈ parts, part.IsPlain := by
  simp [parts, domain, label, Pattern.plus, Pattern.star, Pattern.optional, Pattern.char,
    Pattern.IsPlain]

theorem isFoundIn_pattern_iff {text : String} :
    pattern.isFoundIn text = true ↔ IsAddress text.toList := by
  rw [Pattern.isFoundIn_iff, pattern_eq, Pattern.foundIn_whole_iff isPlain_of_mem_parts]
  simp only [parts, List.map_cons, List.map_nil, List.prod_cons, List.prod_nil, mul_one,
    Language.mem_mul, mem_language_local_iff, mem_language_domain_iff, Pattern.language_char,
    mem_oneOf_iff]
  constructor
  · rintro ⟨front, ⟨hne, hfront⟩, _, ⟨_, ⟨_, rfl, rfl⟩, domain, hdomain, rfl⟩, heq⟩
    exact ⟨front, domain, hne, hfront, hdomain, heq.symm⟩
  · rintro ⟨front, domain, hne, hfront, hdomain, heq⟩
    exact ⟨front, ⟨hne, hfront⟩, _, ⟨['@'], ⟨'@', rfl, rfl⟩, domain, hdomain, rfl⟩, heq.symm⟩

/-- The search for the pattern decides whether a text is an address. -/
instance (text : String) : Decidable (IsAddress text.toList) :=
  decidable_of_iff _ isFoundIn_pattern_iff

example : IsAddress "first.last@mail-1.org".toList ∧ ¬IsAddress "first@mail-.org".toList := by
  decide +kernel

/-! ## The characters of an address -/

theorem IsAlnum.isVisible (h : IsAlnum c) : IsVisible c := by
  rcases h with ⟨hle, hge⟩ | ⟨hle, hge⟩ | ⟨hle, hge⟩ <;>
    exact ⟨Char.le_trans (by decide) hle, Char.le_trans hge (by decide)⟩

theorem IsLocalChar.isVisible (h : IsLocalChar c) : IsVisible c := by
  -- not a bounded quantifier, whose instance may be one that runs through all of `Char`
  have hmarks : ".!#$%&'*+/=?^_`\x7b|\x7d~-".toList.all (IsVisible ·) = true := by decide
  rcases h with halnum | hmark
  · exact halnum.isVisible
  · exact of_decide_eq_true (List.all_eq_true.mp hmarks c hmark)

theorem not_isLocalChar_at : ¬IsLocalChar '@' := by
  unfold IsLocalChar IsAlnum
  decide

/-- What stands in a domain could stand in a local part. -/
theorem IsDomain.isLocalChar (h : IsDomain text) (hc : c ∈ text) : IsLocalChar c := by
  obtain ⟨labels, -, hlabels, rfl⟩ := h
  by_cases hdot : c = '.'
  · exact .inr (by simp [hdot])
  · obtain ⟨label, hlabel, hc⟩ := (List.mem_intercalate_iff hdot).mp hc
    rcases (hlabels label hlabel).chars c hc with halnum | rfl
    · exact .inl halnum
    · exact .inr (by simp)

theorem IsAddress.count_at (h : IsAddress text) : text.count '@' = 1 := by
  obtain ⟨front, domain, -, hfront, hdomain, rfl⟩ := h
  have hnone : '@' ∉ front := fun hmem => not_isLocalChar_at (hfront _ hmem)
  have hnone' : '@' ∉ domain := fun hmem => not_isLocalChar_at (hdomain.isLocalChar hmem)
  simp [List.count_eq_zero.mpr hnone, List.count_eq_zero.mpr hnone']

theorem IsAddress.isVisible (h : IsAddress text) (hc : c ∈ text) : IsVisible c := by
  obtain ⟨front, domain, -, hfront, hdomain, rfl⟩ := h
  rcases List.mem_append.mp hc with hc | hc
  · exact (hfront c hc).isVisible
  · rcases List.mem_cons.mp hc with rfl | hc
    · exact ⟨by decide, by decide⟩
    · exact (hdomain.isLocalChar hc).isVisible

/-! ## The pattern as it is written -/

/-- The pattern of the rule as people write it. -/
def source : String :=
  "^[a-zA-Z0-9.!#$%&'*+/=?^_`\x7b|\x7d~-]+@[a-zA-Z0-9](?:[a-zA-Z0-9-]\x7b0,61\x7d[a-zA-Z0-9])?" ++
    "(?:\\.[a-zA-Z0-9](?:[a-zA-Z0-9-]\x7b0,61\x7d[a-zA-Z0-9])?)*$"

/-- The class in brackets of letters, digits and some other characters. -/
def classOf (others : String) : CharSet :=
  .ofList (.range 'a' 'z' :: .range 'A' 'Z' :: .range '0' '9' :: others.toList.map .single)

/-- The two parts of a label. -/
def labelTrees : List Tree :=
  [.set (classOf "") 2,
    .repeated (.group false (.sequence
      [.repeated (.set (classOf "-") 2) ⟨0, some 61, false⟩, .set (classOf "") 2]))
      ⟨0, some 1, false⟩]

/-- What is read from the written pattern. -/
def tree : Tree :=
  .sequence (.assertion .textStart ::
    .repeated (.set (classOf ".!#$%&'*+/=?^_`\x7b|\x7d~-") 2) ⟨1, none, false⟩ ::
    .set (.single '@') 0 :: labelTrees ++
    [.repeated (.group false (.sequence (.set (.single '.') 0 :: labelTrees))) ⟨0, none, false⟩,
      .assertion .textEnd])

theorem parse_source_eq_tree : Tree.parse source = .ok tree := by
  have hread : (Tree.parse source).toOption = some tree := by decide +kernel
  cases hparse : Tree.parse source with
  | error error => rw [hparse] at hread; cases hread
  | ok found => rw [hparse] at hread; rw [Option.some.inj hread]

/-- The forms of the two parts of a label. -/
def labelForms : List Form :=
  [.set [⟨48, 57⟩, ⟨65, 90⟩, ⟨97, 122⟩],
    .repeated (.sequence
      [.repeated (.set [⟨45, 45⟩, ⟨48, 57⟩, ⟨65, 90⟩, ⟨97, 122⟩]) 0 (some 61) false,
        .set [⟨48, 57⟩, ⟨65, 90⟩, ⟨97, 122⟩]]) 0 (some 1) false]

/-- The form of the written pattern, with sets as ranges of code points. -/
def form : Form :=
  .sequence (.assertion .textStart ::
    .repeated (.set [⟨33, 33⟩, ⟨35, 39⟩, ⟨42, 43⟩, ⟨45, 57⟩, ⟨61, 61⟩, ⟨63, 63⟩, ⟨65, 90⟩,
      ⟨94, 126⟩]) 1 none false ::
    .literal ['@'] :: labelForms ++
    [.repeated (.sequence (.literal ['.'] :: labelForms)) 0 none false, .assertion .textEnd])

theorem form_tree : tree.form = form := by cbv

/-- The written pattern is read, and there is room for it. -/
theorem parse_source : Pattern.parse source = .ok tree.pattern := by
  have hdepth : ¬Tree.depthLimit < tree.depth := by decide
  have hfits : tree.form.fits = true := by
    rw [form_tree]
    decide +kernel
  rw [Pattern.parse, parse_source_eq_tree]
  simp [bind, Except.bind, pure, Except.pure, hdepth, hfits]

theorem contains_classOf_iff {others : String} :
    (classOf others).contains c = true ↔ IsAlnum c ∨ c ∈ others.toList := by
  rw [classOf, CharSet.contains_ofList_iff]
  simp only [List.mem_cons, exists_eq_or_imp, List.mem_map, exists_exists_and_eq_and,
    CharSet.contains_single_iff, exists_eq_right', CharSet.contains, Bool.and_eq_true,
    decide_eq_true_eq, IsAlnum, or_assoc]

/-- The patterns of the two parts of a label. -/
def writtenLabel : List Pattern :=
  [.chars (classOf ""),
    .optional (.seq (.rep (.chars (classOf "-")) 0 (some 61)) (.chars (classOf "")))]

/-- What the written pattern has between the ends of the text. -/
def writtenParts : List Pattern :=
  .plus (.chars (classOf ".!#$%&'*+/=?^_`\x7b|\x7d~-")) :: .char '@' :: writtenLabel ++
    [.star (.sequence (.char '.' :: writtenLabel))]

theorem pattern_tree :
    tree.pattern = .sequence (.assertion .textStart :: writtenParts ++ [.assertion .textEnd]) := rfl

theorem isPlain_of_mem_writtenParts : ∀ part ∈ writtenParts, part.IsPlain := by
  simp [writtenParts, writtenLabel, Pattern.sequence, Pattern.followedBy, Pattern.plus,
    Pattern.star, Pattern.optional, Pattern.char, Pattern.IsPlain]

theorem prod_language_writtenLabel :
    (writtenLabel.map Pattern.language).prod = label.language := by
  have halnum (c : Char) : (classOf "").contains c = true ↔ IsAlnum c := by
    simp [contains_classOf_iff]
  have hhyphen (c : Char) : (classOf "-").contains c = true ↔ IsAlnum c ∨ c = '-' := by
    simp [contains_classOf_iff]
  simp only [writtenLabel, label, List.map_cons, List.map_nil, List.prod_cons, List.prod_nil,
    mul_one, Pattern.language, Pattern.language_optional, halnum, hhyphen, contains_asciiAlnum_iff,
    contains_labelChars_iff]

/-- The parts differ in how their classes are written and in how they are put together. -/
theorem prod_language_writtenParts :
    (writtenParts.map Pattern.language).prod = (parts.map Pattern.language).prod := by
  have hrest : (Pattern.sequence (.char '.' :: writtenLabel)).language =
      (Pattern.char '.').language * (writtenLabel.map Pattern.language).prod := by
    rw [writtenLabel, List.map_cons, List.map_singleton, List.prod_pair]
    rfl
  rw [prod_language_writtenLabel] at hrest
  simp only [writtenParts, parts, domain, List.cons_append, List.map_cons, List.map_append,
    List.map_nil, List.prod_cons, List.prod_append, List.prod_nil, mul_one,
    prod_language_writtenLabel, hrest, Pattern.language, Pattern.language_plus,
    Pattern.language_star, contains_classOf_iff, contains_localChars_iff, IsLocalChar]

/-- The written pattern is found in the same texts. -/
theorem isFoundIn_tree_iff {text : String} :
    tree.pattern.isFoundIn text = true ↔ pattern.isFoundIn text = true := by
  rw [Pattern.isFoundIn_iff, Pattern.isFoundIn_iff, pattern_tree, pattern_eq,
    Pattern.foundIn_whole_iff isPlain_of_mem_writtenParts,
    Pattern.foundIn_whole_iff isPlain_of_mem_parts, prod_language_writtenParts]

end EmailAddress

/-! ## The rule -/

theorem Value.isMatchedBy_iff {value : Value} {pattern : Pattern} :
    value.isMatchedBy pattern = true ↔
      ∃ text, value = .str text ∧ pattern.isFoundIn text = true := by
  cases value <;> simp [isMatchedBy]

namespace Rule

variable {field : String} {value tree : Value}

theorem apply_ofPredicate_eq_ok_iff {name : String} {failure : Failure} {accepts : Value → Bool} :
    (ofPredicate name failure accepts).apply field (some value) tree = .ok () ↔
      accepts value = true := by
  cases haccepts : accepts value <;>
    simp [apply, ofPredicate, ofValue, haccepts, Except.mapError]

/-- The rule accepts the texts that are addresses and nothing else, and so it does what the written
pattern says. What it accepts has no second at sign, no space, no line break, and no character
beyond ASCII. -/
structure TakesAddresses (rule : Rule) : Prop where
  accepts_iff : ∀ field value tree, rule.apply field (some value) tree = .ok () ↔
    ∃ text, value = .str text ∧ EmailAddress.IsAddress text.toList
  accepts_iff_isMatchedBy : ∃ pattern, Pattern.parse EmailAddress.source = .ok pattern ∧
    ∀ field value tree, rule.apply field (some value) tree = .ok () ↔
      value.isMatchedBy pattern = true
  count_at : ∀ field text tree, rule.apply field (some (.str text)) tree = .ok () →
    text.toList.count '@' = 1
  isVisible : ∀ field text tree, rule.apply field (some (.str text)) tree = .ok () →
    ∀ c ∈ text.toList, EmailAddress.IsVisible c

theorem takesAddresses_email : email.TakesAddresses := by
  have haccepts {field value tree} : email.apply field (some value) tree = .ok () ↔
      ∃ text, value = .str text ∧ EmailAddress.IsAddress text.toList := by
    rw [email, apply_ofPredicate_eq_ok_iff, Value.isMatchedBy_iff]
    simp only [EmailAddress.isFoundIn_pattern_iff]
  have haddress {field text tree} (h : email.apply field (some (.str text)) tree = .ok ()) :
      EmailAddress.IsAddress text.toList := by
    obtain ⟨_, heq, haddress⟩ := haccepts.mp h
    cases heq
    exact haddress
  constructor
  case accepts_iff => exact fun _ _ _ => haccepts
  case accepts_iff_isMatchedBy =>
    refine ⟨EmailAddress.tree.pattern, EmailAddress.parse_source, fun _ _ _ => ?_⟩
    rw [email, apply_ofPredicate_eq_ok_iff, Value.isMatchedBy_iff, Value.isMatchedBy_iff]
    simp only [EmailAddress.isFoundIn_tree_iff]
  case count_at => exact fun _ _ _ h => (haddress h).count_at
  case isVisible => exact fun _ _ _ h _ hc => (haddress h).isVisible hc

end Rule

end Conform
