import Conform.Proofs.Outcomes
import Conform.Proofs.Text.Pieces
import Conform.Spec.Token
import Mathlib.Computability.Language

/-!
# The grammar of specifications

Specifications are the words of a regular language:

* a specification is one or more tokens with bars between them,
* a token is a name and perhaps, after a colon, one or more arguments with commas between them,
* a name begins with a letter or underscore and goes on with letters, digits and underscores,
* an argument is any text without commas and bars.

The words of the language are the texts of lists of tokens, and reading inverts writing.
-/

namespace List

theorem intercalate_cons_eq {α : Type} (separator : α) (first : List α) (rest : List (List α)) :
    [separator].intercalate (first :: rest) = first ++ (rest.map (separator :: ·)).flatten := by
  induction rest generalizing first with
  | nil => simp
  | cons next rest ih => simp [intercalate_cons_cons, ih]

theorem mem_intercalate_iff {α : Type} {separator c : α} (h : c ≠ separator)
    {parts : List (List α)} : c ∈ [separator].intercalate parts ↔ ∃ part ∈ parts, c ∈ part := by
  cases parts with
  | nil => simp
  | cons first rest => simp [intercalate_cons_eq, h]

/-- Elements that are all images are the images of a list. -/
theorem exists_map_eq {α β : Type} {f : α → β} {p : α → Prop} {ys : List β}
    (h : ∀ y ∈ ys, ∃ x, p x ∧ f x = y) : ∃ xs : List α, (∀ x ∈ xs, p x) ∧ xs.map f = ys := by
  induction ys with
  | nil => exact ⟨[], by simp, rfl⟩
  | cons y rest ih =>
    obtain ⟨x, hx, rfl⟩ := h y (mem_cons_self ..)
    obtain ⟨xs, hxs, rfl⟩ := ih fun z hz => h z (mem_cons_of_mem _ hz)
    exact ⟨x :: xs, by simpa using ⟨hx, hxs⟩, rfl⟩

/-- Elements that are related to nothing but what they are images of. -/
theorem forall₂_iff_map_eq {α β : Type} {r : β → α → Prop} {f : α → β} {p : α → Prop}
    {ys : List β} {xs : List α} (h : ∀ y ∈ ys, ∀ x, r y x ↔ p x ∧ f x = y) :
    Forall₂ r ys xs ↔ (∀ x ∈ xs, p x) ∧ xs.map f = ys := by
  induction ys generalizing xs with
  | nil => cases xs <;> simp
  | cons y rest ih =>
    cases xs with
    | nil => simp
    | cons x xs =>
      have hx := h y (mem_cons_self ..) x
      have hrest := @ih xs fun z hz => h z (mem_cons_of_mem _ hz)
      rw [forall₂_cons, hx, hrest]
      grind

end List

namespace Char

theorem isAlpha_iff {c : Char} : c.isAlpha = true ↔ 'A' ≤ c ∧ c ≤ 'Z' ∨ 'a' ≤ c ∧ c ≤ 'z' := by
  change (decide ('A' ≤ c ∧ c ≤ 'Z') || (decide ('a' ≤ c) && decide (c ≤ 'z'))) = true ↔ _
  simp

theorem isDigit_iff {c : Char} : c.isDigit = true ↔ '0' ≤ c ∧ c ≤ '9' := by
  change (decide ('0' ≤ c) && decide (c ≤ '9')) = true ↔ _
  simp

end Char

namespace Conform

/-! ## The language -/

namespace Grammar

open scoped Computability

/-- The texts of one character of a class. -/
def oneOf (p : Char → Prop) : Language Char := {text | ∃ c, p c ∧ text = [c]}

/-- One or more texts of a language with separators between them. -/
def separated (separator : Char) (item : Language Char) : Language Char :=
  item * (oneOf (· = separator) * item)∗

/-- The class `[a-zA-Z_]`. -/
def IsNameStart (c : Char) : Prop := 'a' ≤ c ∧ c ≤ 'z' ∨ 'A' ≤ c ∧ c ≤ 'Z' ∨ c = '_'

instance : DecidablePred IsNameStart := fun _ => inferInstanceAs (Decidable (_ ∨ _))

/-- The class `[a-zA-Z0-9_]`. -/
def IsNameChar (c : Char) : Prop := IsNameStart c ∨ '0' ≤ c ∧ c ≤ '9'

instance : DecidablePred IsNameChar := fun _ => inferInstanceAs (Decidable (_ ∨ _))

def name : Language Char := oneOf IsNameStart * (oneOf IsNameChar)∗

def argument : Language Char := (oneOf fun c => c ≠ ',' ∧ c ≠ '|')∗

def token : Language Char := name * (1 + oneOf (· = ':') * separated ',' argument)

def specification : Language Char := separated '|' token

theorem mem_oneOf_iff {p : Char → Prop} {text : List Char} :
    text ∈ oneOf p ↔ ∃ c, p c ∧ text = [c] := Iff.rfl

theorem mem_kstar_oneOf_iff {p : Char → Prop} {text : List Char} :
    text ∈ (oneOf p)∗ ↔ ∀ c ∈ text, p c := by
  rw [Language.mem_kstar]
  constructor
  · rintro ⟨parts, rfl, hparts⟩ c hc
    obtain ⟨part, hpart, hc⟩ := List.mem_flatten.mp hc
    obtain ⟨d, hd, rfl⟩ := hparts part hpart
    rwa [List.mem_singleton.mp hc]
  · intro h
    refine ⟨text.map ([·]), by simp [← List.flatMap_def], fun part hpart => ?_⟩
    obtain ⟨c, hc, rfl⟩ := List.mem_map.mp hpart
    exact ⟨c, h c hc, rfl⟩

theorem mem_separated_iff {separator : Char} {item : Language Char} {text : List Char} :
    text ∈ separated separator item ↔
      ∃ parts, parts ≠ [] ∧ (∀ part ∈ parts, part ∈ item) ∧
        [separator].intercalate parts = text := by
  have htail : ∀ word, word ∈ oneOf (· = separator) * item ↔
      ∃ part ∈ item, separator :: part = word := by
    simp [Language.mem_mul, mem_oneOf_iff]
  constructor
  · intro h
    obtain ⟨first, hfirst, others, hothers, rfl⟩ := Language.mem_mul.mp h
    obtain ⟨words, rfl, hwords⟩ := Language.mem_kstar.mp hothers
    obtain ⟨rest, hrest, rfl⟩ := List.exists_map_eq fun word hword =>
      (htail word).mp (hwords word hword)
    exact ⟨first :: rest, by simp, by simpa using ⟨hfirst, hrest⟩,
      List.intercalate_cons_eq separator first rest⟩
  · rintro ⟨parts, hne, hparts, rfl⟩
    obtain ⟨first, rest, rfl⟩ := List.exists_cons_of_ne_nil hne
    rw [List.intercalate_cons_eq]
    refine Language.append_mem_mul (hparts first (List.mem_cons_self ..)) ?_
    refine Language.join_mem_kstar fun word hword => (htail word).mpr ?_
    obtain ⟨part, hpart, rfl⟩ := List.mem_map.mp hword
    exact ⟨part, hparts part (List.mem_cons_of_mem _ hpart), rfl⟩

theorem mem_argument_iff {text : List Char} : text ∈ argument ↔ ',' ∉ text ∧ '|' ∉ text := by
  rw [argument, mem_kstar_oneOf_iff]
  grind

theorem mem_name_iff {text : List Char} :
    text ∈ name ↔ ∃ c rest, text = c :: rest ∧ IsNameStart c ∧ ∀ d ∈ rest, IsNameChar d := by
  simp only [name, Language.mem_mul, mem_oneOf_iff, mem_kstar_oneOf_iff]
  constructor
  · rintro ⟨front, ⟨c, hc, rfl⟩, rest, hrest, rfl⟩
    exact ⟨c, rest, rfl, hc, hrest⟩
  · rintro ⟨c, rest, rfl, hc, hrest⟩
    exact ⟨[c], ⟨c, hc, rfl⟩, rest, hrest, rfl⟩

theorem isNameStart_iff {c : Char} : IsNameStart c ↔ c.isAlpha = true ∨ c = '_' := by
  rw [IsNameStart, Char.isAlpha_iff, or_assoc, or_left_comm]

theorem isNameChar_iff {c : Char} : IsNameChar c ↔ (c.isAlphanum || c == '_') = true := by
  change _ ↔ (c.isAlpha || c.isDigit || c == '_') = true
  rw [IsNameChar, isNameStart_iff, ← Char.isDigit_iff]
  grind

/-- The names of the grammar are the names of tokens. -/
theorem toList_mem_name_iff {text : String} : text.toList ∈ name ↔ Token.IsName text := by
  rw [mem_name_iff, Token.IsName]
  cases text.toList with
  | nil => simp
  | cons c rest => simp [isNameStart_iff, isNameChar_iff]

end Grammar

/-! ## Texts of tokens -/

namespace Token

/-- The name is a name of the grammar and the arguments can be written without escapes. -/
def IsGrammatical (token : Token) : Prop :=
  token.name.toList ∈ Grammar.name ∧
    ∀ arg ∈ token.args, ',' ∉ arg.raw.toList ∧ '|' ∉ arg.raw.toList

theorem toList_render (token : Token) :
    token.render.toList = token.name.toList ++
      if token.args = [] then []
      else ':' :: [','].intercalate (token.args.map (·.raw.toList)) := by
  rw [render]
  split <;> simp [String.toList_intercalate, Function.comp_def]

/-- The words of the grammar for tokens are the texts of grammatical tokens. -/
theorem mem_token_iff {text : List Char} :
    text ∈ Grammar.token ↔ ∃ token : Token, token.IsGrammatical ∧ token.render.toList = text := by
  rw [Grammar.token, Language.mem_mul]
  constructor
  · rintro ⟨name, hname, rest, hrest, rfl⟩
    rcases (Language.mem_add ..).mp hrest with hnone | hsome
    · refine ⟨⟨String.ofList name, []⟩, ⟨by simpa using hname, by simp⟩, ?_⟩
      rw [toList_render, (Language.mem_one _).mp hnone]
      simp
    · obtain ⟨colon, ⟨c, rfl, rfl⟩, args, hargs, rfl⟩ := Language.mem_mul.mp hsome
      obtain ⟨parts, hne, hparts, rfl⟩ := Grammar.mem_separated_iff.mp hargs
      refine ⟨⟨String.ofList name, parts.map fun part => ⟨String.ofList part⟩⟩, ⟨?_, ?_⟩, ?_⟩
      · simpa using hname
      · simpa [Grammar.mem_argument_iff] using hparts
      · simp [toList_render, hne, Function.comp_def]
  · rintro ⟨token, ⟨hname, hargs⟩, rfl⟩
    rw [toList_render]
    refine ⟨_, hname, _, ?_, rfl⟩
    rw [Language.mem_add]
    split
    · exact .inl rfl
    · rename_i hne
      refine .inr (Language.append_mem_mul (a := [':']) ⟨':', rfl, rfl⟩ ?_)
      refine Grammar.mem_separated_iff.mpr ⟨_, by simpa using hne, ?_, rfl⟩
      simpa [Grammar.mem_argument_iff] using hargs

theorem toList_renderSpec (tokens : List Token) :
    (renderSpec tokens).toList = ['|'].intercalate (tokens.map (·.render.toList)) := by
  simp [renderSpec, String.toList_intercalate, Function.comp_def]

theorem mem_specification_iff {spec : String} :
    spec.toList ∈ Grammar.specification ↔
      ∃ tokens, tokens ≠ [] ∧ (∀ t ∈ tokens, t.IsGrammatical) ∧ renderSpec tokens = spec := by
  rw [Grammar.specification, Grammar.mem_separated_iff]
  simp only [← String.toList_inj, toList_renderSpec]
  constructor
  · rintro ⟨parts, hne, hparts, heq⟩
    obtain ⟨tokens, htokens, rfl⟩ := List.exists_map_eq fun part hpart =>
      mem_token_iff.mp (hparts part hpart)
    exact ⟨tokens, by simpa using hne, htokens, heq⟩
  · rintro ⟨tokens, hne, htokens, heq⟩
    refine ⟨_, by simpa using hne, fun part hpart => ?_, heq⟩
    obtain ⟨token, htoken, rfl⟩ := List.mem_map.mp hpart
    exact mem_token_iff.mpr ⟨token, htokens token htoken, rfl⟩

/-! ## Reading tokens -/

theorem ne_of_mem_name {c : Char} {name : List Char} (h : name ∈ Grammar.name) (hc : c ∈ name) :
    c ≠ ':' ∧ c ≠ '|' := by
  have hclass : Grammar.IsNameChar c := by
    obtain ⟨first, rest, rfl, hfirst, hrest⟩ := Grammar.mem_name_iff.mp h
    rcases List.mem_cons.mp hc with rfl | hc
    · exact .inl hfirst
    · exact hrest c hc
  constructor <;> (rintro rfl; revert hclass; decide)

theorem bar_mem_render_iff {token : Token} (h : token.name.toList ∈ Grammar.name) :
    '|' ∈ token.render.toList ↔ ∃ arg ∈ token.args, '|' ∈ arg.raw.toList := by
  have hname : '|' ∉ token.name.toList := fun hc => (ne_of_mem_name h hc).2 rfl
  rw [toList_render]
  split
  · rename_i hnone
    simp [hname, hnone]
  · simp [hname, List.mem_intercalate_iff]

/-- What is wrong with a text in the place of a name. -/
def complaint (name : String) : String :=
  if name = "" then "missing rule name" else "rule names must match [a-zA-Z_][a-zA-Z0-9_]*"

/-- The arguments of a token that is read from a text. -/
def argsOf (text : String) : List Argument :=
  ((Text.cut ':' text).2.map fun args => (Text.pieces ',' args).map Argument.mk).getD []

theorem parse_eq (text : String) :
    parse text =
      if IsName (Text.upTo ':' text) then .ok ⟨Text.upTo ':' text, argsOf text⟩
      else .error (.malformedToken text (complaint (Text.upTo ':' text))) := by
  have hempty : ¬IsName "" := by simp [IsName]
  rw [← Text.fst_cut, parse, argsOf, complaint]
  split
  grind

/-- A token is read from the one text that it has. -/
theorem parse_eq_ok_iff {text : String} {token : Token} :
    parse text = .ok token ↔ token.name.toList ∈ Grammar.name ∧
      (∀ arg ∈ token.args, ',' ∉ arg.raw.toList) ∧ token.render = text := by
  constructor
  · intro h
    rw [parse_eq] at h
    split at h
    · rename_i hname
      cases h
      refine ⟨Grammar.toList_mem_name_iff.mpr hname, ?_⟩
      rcases Text.not_mem_or_eq_append ':' text with hcolon | ⟨name, args, hcolon, rfl⟩
      · simp [argsOf, Text.cut_of_not_mem hcolon, Text.upTo_of_not_mem hcolon, render]
      · have hpieces := Text.pieces_ne_nil ',' args
        have hcommas := Text.intercalate_pieces ',' args
        simp only [argsOf, Text.cut_append hcolon, Text.upTo_append hcolon, Option.map_some,
          Option.getD_some, List.forall_mem_map, render]
        refine ⟨fun piece => Text.not_mem_of_mem_pieces, ?_⟩
        rw [if_neg (by simpa using hpieces), List.map_map]
        simpa [Function.comp_def] using hcommas
    · cases h
  · rintro ⟨hname, hargs, rfl⟩
    have hcolon : ':' ∉ token.name.toList := fun hc => (ne_of_mem_name hname hc).1 rfl
    have hisName := Grammar.toList_mem_name_iff.mp hname
    rw [parse_eq, render]
    split
    · rename_i hnone
      rw [Text.upTo_of_not_mem hcolon, if_pos hisName, argsOf, Text.cut_of_not_mem hcolon]
      cases token
      simp_all
    · rename_i hsome
      have hpieces : Text.pieces ',' (",".intercalate (token.args.map Argument.raw)) =
          token.args.map Argument.raw :=
        Text.pieces_intercalate ',' (by simpa using hsome) (by simpa using hargs)
      rw [show ":" = String.singleton ':' from rfl, Text.upTo_append hcolon, if_pos hisName, argsOf,
        Text.cut_append hcolon]
      simp [hpieces, Function.comp_def]

/-- The text of a grammatical token is read as the token, and no other text without bars is. -/
theorem parse_eq_ok_iff_of_bar_not_mem {text : String} (h : '|' ∉ text.toList) {token : Token} :
    parse text = .ok token ↔ token.IsGrammatical ∧ token.render = text := by
  rw [parse_eq_ok_iff, IsGrammatical]
  constructor
  · rintro ⟨hname, hcommas, rfl⟩
    have hbars : ∀ arg ∈ token.args, '|' ∉ arg.raw.toList := by
      simpa [bar_mem_render_iff hname] using h
    exact ⟨⟨hname, fun arg harg => ⟨hcommas arg harg, hbars arg harg⟩⟩, rfl⟩
  · rintro ⟨⟨hname, hargs⟩, hrender⟩
    exact ⟨hname, fun arg harg => (hargs arg harg).1, hrender⟩

/-- The text of a token begins with a name, up to the first colon. -/
def IsNamed (text : String) : Prop := (Text.upTo ':' text).toList ∈ Grammar.name

theorem exists_parse_eq_ok_iff {text : String} :
    (∃ token, parse text = .ok token) ↔ IsNamed text := by
  rw [IsNamed, Grammar.toList_mem_name_iff, parse_eq]
  split <;> simp_all

theorem parse_of_not_isNamed {text : String} (h : ¬IsNamed text) :
    parse text = .error (.malformedToken text (complaint (Text.upTo ':' text))) := by
  rw [parse_eq, if_neg (mt Grammar.toList_mem_name_iff.mpr h)]

/-! ## Reading specifications -/

theorem parseSpec_of_ne_empty {spec : String} (h : spec ≠ "") :
    parseSpec spec = (Text.pieces '|' spec).mapM parse := by
  rw [parseSpec, if_neg h]

theorem parseSpec_append {spec other : String} {tokens others : List Token}
    (h : parseSpec spec = .ok tokens) (hother : parseSpec other = .ok others) :
    parseSpec (spec ++ "|" ++ other) = .ok (tokens ++ others) := by
  have hne : ∀ text read, parseSpec text = .ok read → text ≠ "" := by
    rintro _ read htext rfl
    cases htext
  have hspec := hne _ _ h
  rw [parseSpec_of_ne_empty hspec] at h
  rw [parseSpec_of_ne_empty (hne _ _ hother)] at hother
  rw [parseSpec_of_ne_empty (by simp), show "|" = String.singleton '|' from rfl,
    Text.pieces_append, List.mapM_append, h, hother]
  rfl

/-- Exactly the texts of lists of grammatical tokens are read, as these tokens. -/
theorem parseSpec_eq_ok_iff {spec : String} {tokens : List Token} :
    parseSpec spec = .ok tokens ↔
      tokens ≠ [] ∧ (∀ t ∈ tokens, t.IsGrammatical) ∧ renderSpec tokens = spec := by
  have hread : parseSpec spec = .ok tokens ↔ (Text.pieces '|' spec).mapM parse = .ok tokens := by
    by_cases h : spec = ""
    · have hempty : (Text.pieces '|' "").mapM parse =
          .error (.malformedToken "" "missing rule name") := rfl
      simp [h, parseSpec, hempty]
    · rw [parseSpec_of_ne_empty h]
  have hpieces : ∀ piece ∈ Text.pieces '|' spec, ∀ token, parse piece = .ok token ↔
      token.IsGrammatical ∧ token.render = piece := fun piece hpiece token =>
    parse_eq_ok_iff_of_bar_not_mem (Text.not_mem_of_mem_pieces hpiece)
  rw [hread, List.mapM_eq_ok_iff, List.forall₂_iff_map_eq hpieces, and_left_comm]
  refine and_congr_right fun htokens => ?_
  have hbars : ∀ part ∈ tokens.map render, '|' ∉ part.toList := by
    intro part hpart
    obtain ⟨token, htoken, rfl⟩ := List.mem_map.mp hpart
    obtain ⟨hname, hargs⟩ := htokens token htoken
    rw [bar_mem_render_iff hname]
    rintro ⟨arg, harg, hbar⟩
    exact (hargs arg harg).2 hbar
  rw [Text.eq_pieces_iff hbars, renderSpec]
  simp only [ne_eq, List.map_eq_nil_iff]
  exact Iff.rfl

/-- The first text that does not begin with a name is what is wrong with a specification. -/
theorem parseSpec_eq_error_iff {spec : String} (h : spec ≠ "") {error : SpecError} :
    parseSpec spec = .error error ↔
      ∃ before piece after, Text.pieces '|' spec = before ++ piece :: after ∧
        (∀ other ∈ before, IsNamed other) ∧ ¬IsNamed piece ∧
        error = .malformedToken piece (complaint (Text.upTo ':' piece)) := by
  have herror : ∀ piece, parse piece = .error error ↔
      ¬IsNamed piece ∧ error = .malformedToken piece (complaint (Text.upTo ':' piece)) := by
    intro piece
    by_cases hnamed : IsNamed piece
    · obtain ⟨token, htoken⟩ := exists_parse_eq_ok_iff.mpr hnamed
      simp [htoken, hnamed]
    · simp [parse_of_not_isNamed hnamed, hnamed, eq_comm]
  simp only [parseSpec_of_ne_empty h, List.mapM_eq_error_iff, exists_parse_eq_ok_iff, herror]

theorem exists_parseSpec_eq_error_iff {spec : String} (h : spec ≠ "") :
    (∃ error, parseSpec spec = .error error) ↔ ∃ piece ∈ Text.pieces '|' spec, ¬IsNamed piece := by
  have hnot : (∃ error, parseSpec spec = .error error) ↔
      ¬∃ tokens, parseSpec spec = .ok tokens := by
    cases parseSpec spec <;> simp
  rw [hnot, parseSpec_of_ne_empty h, List.exists_mapM_eq_ok_iff]
  simp only [exists_parse_eq_ok_iff, not_forall, exists_prop]

/-- A reader for the grammar. It accepts the words of the grammar and no others, and writing the
tokens that it reads gives the word back. An empty text is refused as such, and any other text for
the first piece between bars that does not begin with a name. -/
structure IsReader (read : String → Except SpecError (List Token)) : Prop where
  accepts_iff : ∀ spec, (∃ tokens, read spec = .ok tokens) ↔ spec.toList ∈ Grammar.specification
  render_read : ∀ spec tokens, read spec = .ok tokens → renderSpec tokens = spec
  read_render : ∀ tokens, tokens ≠ [] → (∀ t ∈ tokens, t.IsGrammatical) →
    read (renderSpec tokens) = .ok tokens
  empty_iff : ∀ spec, read spec = .error .emptySpec ↔ spec = ""
  fails_iff : ∀ spec, spec ≠ "" →
    ((∃ error, read spec = .error error) ↔ ∃ piece ∈ Text.pieces '|' spec, ¬IsNamed piece)
  blames_first : ∀ spec error, spec ≠ "" → read spec = .error error →
    ∃ before piece after reason, Text.pieces '|' spec = before ++ piece :: after ∧
      (∀ other ∈ before, IsNamed other) ∧ ¬IsNamed piece ∧
      error = .malformedToken piece reason

theorem isReader_parseSpec : IsReader parseSpec where
  accepts_iff spec := by simp only [parseSpec_eq_ok_iff, mem_specification_iff]
  render_read spec tokens h := (parseSpec_eq_ok_iff.mp h).2.2
  read_render tokens hne htokens := parseSpec_eq_ok_iff.mpr ⟨hne, htokens, rfl⟩
  empty_iff spec := by
    constructor
    · intro h
      by_contra hne
      obtain ⟨_, _, _, _, _, _, herror⟩ := (parseSpec_eq_error_iff hne).mp h
      cases herror
    · rintro rfl
      rfl
  fails_iff spec hne := exists_parseSpec_eq_error_iff hne
  blames_first spec error hne h := by
    obtain ⟨before, piece, after, hpieces, hbefore, hpiece, herror⟩ :=
      (parseSpec_eq_error_iff hne).mp h
    exact ⟨before, piece, after, _, hpieces, hbefore, hpiece, herror⟩

example : parseSpec "in_list:a,,b:c|bail|x:" =
    .ok [⟨"in_list", [⟨"a"⟩, ⟨""⟩, ⟨"b:c"⟩]⟩, ⟨"bail", []⟩, ⟨"x", [⟨""⟩]⟩] := by
  rfl

end Token

end Conform
