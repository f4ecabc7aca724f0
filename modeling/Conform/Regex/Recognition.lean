import Conform.Regex.Rounds
/-!
# What the search finds

The search finds a pattern in exactly the texts that contain a match of it (`isFoundIn_iff`). On
the way there: the places that are reached with a character are those from which a match can be
completed that has taken up the character (`completes_advance_iff`).
-/

namespace Conform.Regex.Pattern

variable {p q : Pattern} {before after : Option Char} {c : Char} {text : List Char}

/-! ## Completion -/

/-- A match that has reached one of the places can be completed with `text`, where `before` and
`after` are the characters around it. -/
def Completes : Pattern → Places → Option Char → List Char → Option Char → Prop
  | chars _, .taken, _, text, _ => text = []
  | seq p q, .parts x y, before, text, after =>
    (∃ u v, text = u ++ v ∧ p.Completes x before u (v.head?.or after) ∧
      q.Matches (u.getLast?.or before) v after) ∨ q.Completes y before text after
  | alt p q, .parts x y, before, text, after =>
    p.Completes x before text after ∨ q.Completes y before text after
  | rep p least extra?, .round l e x others, before, text, after =>
    (∃ u v, text = u ++ v ∧ p.Completes x before u (v.head?.or after) ∧
      (rep p l e).Matches (u.getLast?.or before) v after) ∨
      (rep p least extra?).Completes others before text after
  | _, _, _, _, _ => False

theorem not_completes_none : ¬ p.Completes .none before text after := by
  cases p <;> simp [Completes]

/-- The places in a repetition do not depend on how many rounds there are altogether. -/
theorem completes_rep_iff {x : Places} {l m : Nat} {e f : Option Nat} :
    (rep p l e).Completes x before text after ↔ (rep p m f).Completes x before text after := by
  induction x with
  | none | taken | parts => simp [Completes]
  | round _ _ _ _ _ ih => simp only [Completes, ih]

theorem completes_seq_ofParts_iff {x y : Places} :
    (seq p q).Completes (.ofParts x y) before text after ↔
      (seq p q).Completes (.parts x y) before text after := by
  unfold Places.ofParts
  split
  · simp [Completes, not_completes_none]
  · exact Iff.rfl

theorem completes_alt_ofParts_iff {x y : Places} :
    (alt p q).Completes (.ofParts x y) before text after ↔
      p.Completes x before text after ∨ q.Completes y before text after := by
  unfold Places.ofParts
  split
  · simp [Completes, not_completes_none]
  · exact Iff.rfl

/-- Rounds that another round covers can be left out. -/
theorem completes_round_of_covers {x others : Places} {least l m : Nat} {extra? e? f? : Option Nat}
    (wider : Places.covers m f? l e? = true)
    (h : (rep p least extra?).Completes (.round l e? x others) before text after) :
    (rep p least extra?).Completes (.round m f? x others) before text after := by
  rcases h with ⟨u, v, eq, first, rest⟩ | h
  · exact .inl ⟨u, v, eq, first, rest.widen wider⟩
  · exact .inr h

theorem completes_addRound_iff {x others : Places} {least l : Nat} {extra? e? : Option Nat} :
    (rep p least extra?).Completes (.addRound l e? x others) before text after ↔
      (rep p least extra?).Completes (.round l e? x others) before text after := by
  unfold Places.addRound
  split
  · simp [Completes, not_completes_none]
  · split
    · rename_i redundant
      obtain ⟨wider, same⟩ := Bool.and_eq_true_iff.mp redundant
      obtain rfl := eq_of_beq same
      refine ⟨.inr, fun h => h.elim (fun h => ?_) id⟩
      exact completes_round_of_covers wider (.inl h)
    · split
      · rename_i redundant
        obtain ⟨wider, same⟩ := Bool.and_eq_true_iff.mp redundant
        obtain rfl := eq_of_beq same
        refine ⟨fun h => h.imp_right .inr, fun h => h.elim .inl ?_⟩
        exact completes_round_of_covers wider
      · exact Iff.rfl
  · exact Iff.rfl

/-- A match can end if it can be completed with nothing. -/
theorem canEnd_iff {x : Places} :
    p.canEnd before after x = true ↔ p.Completes x before [] after := by
  induction x generalizing p after with
  | none => cases p <;> simp [canEnd, Completes]
  | taken => cases p <;> simp [canEnd, Completes]
  | parts x y ihx ihy =>
    cases p with
    | seq p q =>
      simp only [canEnd, Completes, Bool.or_eq_true, Bool.and_eq_true, ihx, ihy, isNullable_iff]
      refine or_congr_left ⟨fun h => ⟨[], [], rfl, h⟩, ?_⟩
      rintro ⟨u, v, eq, h⟩
      obtain ⟨rfl, rfl⟩ := List.append_eq_nil_iff.mp eq.symm
      exact h
    | alt p q => simp only [canEnd, Completes, Bool.or_eq_true, ihx, ihy]
    | empty | chars | assertion | rep => simp [canEnd, Completes]
  | round l e x others ihx ih =>
    cases p with
    | rep p least extra? =>
      have rest : (l == 0 || p.isNullable before after) = (rep p l e).isNullable before after := rfl
      simp only [canEnd, Completes, rest, Bool.or_eq_true, Bool.and_eq_true, ihx, ih,
        isNullable_iff]
      refine or_congr_left ⟨fun h => ⟨[], [], rfl, h⟩, ?_⟩
      rintro ⟨u, v, eq, h⟩
      obtain ⟨rfl, rfl⟩ := List.append_eq_nil_iff.mp eq.symm
      exact h
    | empty | chars | assertion | seq | alt => simp [canEnd, Completes]

/-! ## Steps -/

/-- A sequence that begins with a character does so in its first part, or in its second part if the
first one takes up nothing. -/
theorem exists_append_eq_cons_iff {F : List Char → List Char → Prop} :
    (∃ u v, c :: text = u ++ v ∧ F u v) ↔
      F [] (c :: text) ∨ ∃ u v, text = u ++ v ∧ F (c :: u) v := by
  constructor
  · rintro ⟨u, v, eq, h⟩
    cases u with
    | nil =>
      rw [List.nil_append] at eq
      exact .inl (eq ▸ h)
    | cons d u =>
      obtain ⟨rfl, rfl⟩ := List.cons.inj eq
      exact .inr ⟨u, v, rfl, h⟩
  · rintro (h | ⟨u, v, rfl, h⟩)
    · exact ⟨[], c :: text, rfl, h⟩
    · exact ⟨c :: u, v, rfl, h⟩

/-- The places that are entered with a character complete what begins with it. -/
theorem completes_enter_iff :
    p.Completes (p.enter before c) (some c) text after ↔ p.Matches before (c :: text) after := by
  induction p generalizing text after with
  | empty => simp [enter, Completes, matches_empty_iff]
  | chars set =>
    simp only [enter, matches_chars_iff]
    split
    · rename_i inside
      simp only [Completes]
      exact ⟨fun eq => ⟨c, eq ▸ rfl, inside⟩, fun ⟨_, eq, _⟩ => (List.cons.inj eq).2⟩
    · rename_i outside
      refine iff_of_false not_completes_none ?_
      rintro ⟨_, eq, inside⟩
      exact outside ((List.cons.inj eq).1 ▸ inside)
  | assertion a => simp [enter, Completes, matches_assertion_iff]
  | seq p q ihp ihq =>
    rw [enter, completes_seq_ofParts_iff, matches_seq_iff, exists_append_eq_cons_iff, or_comm]
    simp only [Completes, ihp, getLast?_cons_or]
    refine or_congr_right ?_
    cases nullable : p.isNullable before (some c) with
    | true => simp [ihq, isNullable_iff.mp nullable]
    | false => simp [not_completes_none, ← isNullable_iff, nullable]
  | alt p q ihp ihq => rw [enter, completes_alt_ofParts_iff, ihp, ihq, matches_alt_iff]
  | rep p least extra? ih =>
    rw [matches_rep_cons_iff, enter]
    split
    · rename_i eq
      simp [eq, not_completes_none]
    · rename_i eq
      rw [completes_addRound_iff]
      simp [Completes, ih, eq]

/-- The places that are reached with a character complete what the earlier places, or a match that
begins here, can be completed with after it. -/
theorem completes_advance_iff {x : Places} {entered : Bool} :
    p.Completes (p.advance before c x entered) (some c) text after ↔
      p.Completes x before (c :: text) after ∨
        entered = true ∧ p.Matches before (c :: text) after := by
  have fresh {p : Pattern} {x : Places} {text : List Char} {after : Option Char} {entered : Bool}
      (absent : ¬ p.Completes x before (c :: text) after) :
      p.Completes (if entered then p.enter before c else .none) (some c) text after ↔
        p.Completes x before (c :: text) after ∨
          entered = true ∧ p.Matches before (c :: text) after := by
    cases entered <;> simp [absent, completes_enter_iff, not_completes_none]
  induction x generalizing p text after entered with
  | none => cases p <;> exact fresh (by simp [Completes])
  | taken => cases p <;> exact fresh (by simp [Completes])
  | parts x y ihx ihy =>
    cases p with
    | seq p q =>
      rw [advance, completes_seq_ofParts_iff]
      simp only [Completes, matches_seq_iff, exists_append_eq_cons_iff, ihx, ihy,
        getLast?_cons_or, or_and_right, and_or_left, exists_or, Bool.or_eq_true, Bool.and_eq_true,
        canEnd_iff, isNullable_iff]
      simp only [List.head?_cons, Option.some_or, List.getLast?_nil, Option.none_or]
      constructor
      · rintro ((⟨u, v, h⟩ | ⟨u, v, h⟩) | h | h | h) <;> grind
      · grind
    | alt p q =>
      rw [advance, completes_alt_ofParts_iff, matches_alt_iff, and_or_left]
      simp only [ihx, ihy, Completes]
      exact or_or_or_comm ..
    | empty | chars | assertion | rep => exact fresh (by simp [Completes])
  | round l e x others ihx ih =>
    cases p with
    | rep p least extra? =>
      let Left (rounds : Nat × Option Nat) : Prop := ∃ u v, text = u ++ v ∧
        p.Matches before (c :: u) (v.head?.or after) ∧
        (rep p rounds.1 rounds.2).Matches (u.getLast?.or (some c)) v after
      have enters (l : Nat) (e : Option Nat) (goes : Bool) :
          (∃ rounds, onward? before c p l e goes = some rounds ∧ Left rounds) ↔
            goes = true ∧ (rep p l e).Matches before (c :: text) after := by
        cases goes <;> simp [onward?, matches_rep_cons_iff, Left]
      have later {goes : Bool} :
          (rep p least extra?).Completes ((rep p l e).advance before c others goes) (some c) text
            after ↔ (rep p least extra?).Completes others before (c :: text) after ∨
              goes = true ∧ (rep p l e).Matches before (c :: text) after :=
        completes_rep_iff.trans (ih.trans (or_congr_left completes_rep_iff))
      have former {b goes : Bool} :
          (rep p least extra?).Completes (.addRound l e (p.advance before c x b)
            ((rep p l e).advance before c others goes)) (some c) text after ↔
          ((∃ u v, text = u ++ v ∧ p.Completes x before (c :: u) (v.head?.or after) ∧
            (rep p l e).Matches (u.getLast?.or (some c)) v after) ∨ b = true ∧ Left (l, e)) ∨
          (rep p least extra?).Completes others before (c :: text) after ∨
          goes = true ∧ (rep p l e).Matches before (c :: text) after := by
        rw [completes_addRound_iff]
        simp only [Completes, ihx, later, or_and_right, and_or_left, exists_or, Left]
        refine or_congr_left (or_congr_right ?_)
        grind
      have onward := enters l e (p.canEnd before (some c) x)
      rw [Completes, exists_append_eq_cons_iff]
      simp only [advance, getLast?_cons_or, List.head?_cons, Option.some_or, List.getLast?_nil,
        Option.none_or, ← canEnd_iff, ← enters least]
      split
      · rename_i eq
        rw [former, eq]
        grind
      · rename_i l' e' eq
        split
        · rename_i same
          rw [former, eq]
          grind
        · rename_i other
          rw [completes_addRound_iff, Completes, former, eq]
          simp only [completes_enter_iff]
          grind
    | empty | chars | assertion | seq | alt => exact fresh (by simp [Completes])

/-! ## The search -/

/-- A match that has reached one of the places can be completed at the front of a text. -/
def CompletesFront (p : Pattern) (x : Places) (before : Option Char) (text : List Char) : Prop :=
  ∃ piece rest, text = piece ++ rest ∧ p.Completes x before piece rest.head?

theorem completesFront_nil_iff {x : Places} :
    p.CompletesFront x before [] ↔ p.canEnd before none x = true := by
  rw [canEnd_iff]
  constructor
  · rintro ⟨piece, rest, eq, matched⟩
    obtain ⟨rfl, rfl⟩ := List.append_eq_nil_iff.mp eq.symm
    exact matched
  · exact fun matched => ⟨[], [], rfl, matched⟩

theorem matchesFront_nil_iff : p.MatchesFront before [] ↔ p.isNullable before none = true := by
  rw [isNullable_iff]
  constructor
  · rintro ⟨piece, rest, eq, matched⟩
    obtain ⟨rfl, rfl⟩ := List.append_eq_nil_iff.mp eq.symm
    exact matched
  · exact fun matched => ⟨[], [], rfl, matched⟩

/-- What a match has reached at the front of a text, or begins there, ends there or goes on. -/
theorem completesFront_cons_iff {x : Places} :
    p.CompletesFront x before (c :: text) ∨ p.MatchesFront before (c :: text) ↔
      (p.canEnd before (some c) x = true ∨ p.isNullable before (some c) = true) ∨
        p.CompletesFront (p.advance before c x true) (some c) text := by
  simp only [CompletesFront, MatchesFront, exists_append_eq_cons_iff, completes_advance_iff,
    canEnd_iff, isNullable_iff, and_or_left, exists_or, List.head?_cons, true_and]
  exact or_or_or_comm ..

theorem matchesWithin_nil_iff : p.MatchesWithin before [] ↔ p.MatchesFront before [] := by
  constructor
  · rintro ⟨front, rest, eq, matched⟩
    obtain ⟨rfl, rfl⟩ := List.append_eq_nil_iff.mp eq.symm
    exact matched
  · exact fun matched => ⟨[], [], rfl, matched⟩

theorem matchesWithin_cons_iff :
    p.MatchesWithin before (c :: text) ↔
      p.MatchesFront before (c :: text) ∨ p.MatchesWithin (some c) text := by
  constructor
  · rintro ⟨front, rest, eq, matched⟩
    cases front with
    | nil =>
      rw [List.nil_append] at eq
      exact .inl (eq ▸ matched)
    | cons d front =>
      obtain ⟨rfl, rfl⟩ := List.cons.inj eq
      exact .inr ⟨front, rest, rfl, by rwa [getLast?_cons_or] at matched⟩
  · rintro (matched | ⟨front, rest, rfl, matched⟩)
    · exact ⟨[], c :: text, rfl, matched⟩
    · exact ⟨c :: front, rest, rfl, by rwa [getLast?_cons_or]⟩

/-- A search finds a match that has reached one of the places, or one that begins from here on. -/
theorem searchFrom_iff {x : Places} :
    p.searchFrom x before text = true ↔
      p.CompletesFront x before text ∨ p.MatchesWithin before text := by
  induction text generalizing x before with
  | nil =>
    rw [searchFrom, Bool.or_eq_true, completesFront_nil_iff, matchesWithin_nil_iff,
      matchesFront_nil_iff]
  | cons c text ih =>
    rw [searchFrom, Bool.or_eq_true, Bool.or_eq_true, ih, matchesWithin_cons_iff, ← or_assoc,
      ← or_assoc, completesFront_cons_iff]

theorem isFoundIn_iff {text : String} : p.isFoundIn text = true ↔ p.FoundIn text.toList := by
  simp [isFoundIn, searchFrom_iff, FoundIn, CompletesFront, not_completes_none]

end Conform.Regex.Pattern
