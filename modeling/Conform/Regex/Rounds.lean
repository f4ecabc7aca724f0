import Conform.Regex.Search
/-!
# Rounds

What it takes to match a composed pattern. A pattern matches the empty piece if it is nullable
(`isNullable_iff`), and a repetition that begins with a character goes through one round with it and
through the rounds that are left then (`matches_rep_cons_iff`).
-/

namespace Conform.Regex.Pattern

variable {p q : Pattern} {before after : Option Char} {c : Char} {text : List Char}

/-! ## Inversion -/

theorem matches_empty_iff : Matches empty before text after ↔ text = [] :=
  ⟨fun h => by cases h; rfl, fun h => h ▸ .empty⟩

theorem matches_chars_iff {set : CharSet} :
    Matches (chars set) before text after ↔ ∃ c, text = [c] ∧ set.contains c = true :=
  ⟨fun h => by cases h with | chars inside => exact ⟨_, rfl, inside⟩,
    fun ⟨_, eq, inside⟩ => eq ▸ .chars inside⟩

theorem matches_assertion_iff {a : Assertion} :
    Matches (assertion a) before text after ↔ text = [] ∧ a.holds before after = true :=
  ⟨fun h => by cases h with | assertion holds => exact ⟨rfl, holds⟩,
    fun ⟨eq, holds⟩ => eq ▸ .assertion holds⟩

theorem matches_seq_iff :
    Matches (seq p q) before text after ↔ ∃ u v, text = u ++ v ∧
      Matches p before u (v.head?.or after) ∧ Matches q (u.getLast?.or before) v after :=
  ⟨fun h => by cases h with | seq first second => exact ⟨_, _, rfl, first, second⟩,
    fun ⟨_, _, eq, first, second⟩ => eq ▸ .seq first second⟩

theorem matches_alt_iff :
    Matches (alt p q) before text after ↔
      Matches p before text after ∨ Matches q before text after := by
  constructor
  · intro h
    cases h with
    | left matched => exact .inl matched
    | right matched => exact .inr matched
  · rintro (h | h)
    · exact .left h
    · exact .right h

theorem matches_needed_iff {least : Nat} {extra? : Option Nat} :
    Matches (rep p (least + 1) extra?) before text after ↔ ∃ u v, text = u ++ v ∧
      Matches p before u (v.head?.or after) ∧
      Matches (rep p least extra?) (u.getLast?.or before) v after :=
  ⟨fun h => by cases h with | needed first others => exact ⟨_, _, rfl, first, others⟩,
    fun ⟨_, _, eq, first, others⟩ => eq ▸ .needed first others⟩

/-- Leaving out the empty pattern changes nothing. -/
theorem matches_followedBy_iff :
    Matches (p.followedBy q) before text after ↔ Matches (seq p q) before text after := by
  have empty_left {q : Pattern} :
      Matches (seq empty q) before text after ↔ Matches q before text after := by
    simp only [matches_seq_iff, matches_empty_iff]
    constructor
    · rintro ⟨u, v, rfl, rfl, h⟩
      exact h
    · exact fun h => ⟨[], text, rfl, rfl, h⟩
  have empty_right {p : Pattern} :
      Matches (seq p empty) before text after ↔ Matches p before text after := by
    simp only [matches_seq_iff, matches_empty_iff]
    constructor
    · rintro ⟨u, v, rfl, h, rfl⟩
      simpa using h
    · exact fun h => ⟨text, [], by simp, h, rfl⟩
  unfold followedBy
  split
  · exact empty_left.symm
  · exact empty_right.symm
  · exact Iff.rfl

/-! ## Empty matches -/

theorem isNullable_iff : p.isNullable before after = true ↔ Matches p before [] after := by
  induction p with
  | empty => simp [isNullable, matches_empty_iff]
  | chars set => simp [isNullable, matches_chars_iff]
  | assertion a => simp [isNullable, matches_assertion_iff]
  | seq p q ihp ihq =>
    simp only [isNullable, Bool.and_eq_true, ihp, ihq, matches_seq_iff]
    constructor
    · rintro ⟨first, second⟩
      exact ⟨[], [], rfl, first, second⟩
    · rintro ⟨u, v, eq, first, second⟩
      obtain ⟨rfl, rfl⟩ := List.append_eq_nil_iff.mp eq.symm
      exact ⟨first, second⟩
  | alt p q ihp ihq => simp [isNullable, ihp, ihq, matches_alt_iff]
  | rep p least extra? ih =>
    simp only [isNullable, Bool.or_eq_true, beq_iff_eq, ih]
    constructor
    · rintro (rfl | h)
      · exact .done
      · induction least with
        | zero => exact .done
        | succ least ih => exact matches_needed_iff.mpr ⟨[], [], rfl, h, ih⟩
    · intro h
      cases least with
      | zero => exact .inl rfl
      | succ least =>
        obtain ⟨u, v, eq, first, -⟩ := matches_needed_iff.mp h
        obtain ⟨rfl, rfl⟩ := List.append_eq_nil_iff.mp eq.symm
        exact .inr first

/-! ## Rounds of a repetition -/

theorem Matches.allow {extra : Nat} (h : Matches (rep p 0 (some extra)) before text after) :
    Matches (rep p 0 (some (extra + 1))) before text after := by
  induction extra generalizing before text with
  | zero => cases h; exact .done
  | succ extra ih =>
    cases h with
    | done => exact .done
    | further first others => exact .further first (ih others)

theorem Matches.allowMore {extra : Nat} (h : Matches (rep p 0 (some extra)) before text after)
    (more : Nat) : Matches (rep p 0 (some (extra + more))) before text after := by
  induction more with
  | zero => exact h
  | succ more ih => exact ih.allow

/-- Rounds that are needed can be taken as rounds that are allowed. -/
theorem Matches.relax {least : Nat} {extra? : Option Nat}
    (h : Matches (rep p least extra?) before text after) :
    Matches (rep p 0 (extra?.map (least + ·))) before text after := by
  induction least generalizing before text with
  | zero => cases extra? <;> simpa using h
  | succ least ih =>
    obtain ⟨u, v, rfl, first, others⟩ := matches_needed_iff.mp h
    have others := ih others
    cases extra? with
    | none => exact .again first others
    | some extra =>
      simp only [Option.map_some, Nat.succ_add] at others ⊢
      exact .further first others

theorem Matches.unbound {extra : Nat} (h : Matches (rep p 0 (some extra)) before text after) :
    Matches (rep p 0 none) before text after := by
  induction extra generalizing before text with
  | zero => cases h; exact .done
  | succ extra ih =>
    cases h with
    | done => exact .done
    | further first others => exact .again first (ih others)

/-- After one round on either side there is one round fewer to need. -/
theorem covers_of_succ {m l : Nat} {f? e? : Option Nat}
    (wider : Places.covers (m + 1) f? (l + 1) e? = true) : Places.covers m f? l e? = true := by
  match f?, e? with
  | none, none | none, some _ | some _, none =>
    simp only [Places.covers, Nat.add_le_add_iff_right] at wider ⊢
    exact wider
  | some f, some e =>
    simp only [Places.covers, Bool.and_eq_true, decide_eq_true_eq] at wider ⊢
    omega

/-- A repetition that needs fewer rounds and allows more of them matches more. -/
theorem Matches.widen {m l : Nat} {f? e? : Option Nat} (wider : Places.covers m f? l e? = true)
    (h : Matches (rep p l e?) before text after) : Matches (rep p m f?) before text after := by
  induction m generalizing l before text with
  | zero =>
    have h := h.relax
    match f?, e? with
    | none, none => exact h
    | none, some e => exact h.unbound
    | some _, none => simp [Places.covers] at wider
    | some f, some e =>
      simp only [Places.covers, Bool.and_eq_true, decide_eq_true_eq] at wider
      obtain ⟨more, eq⟩ := Nat.exists_eq_add_of_le wider.2
      rw [Nat.zero_add] at eq
      exact eq ▸ h.allowMore more
  | succ m ih =>
    cases l with
    | zero => simp [Places.covers] at wider
    | succ l =>
      obtain ⟨u, v, rfl, first, others⟩ := matches_needed_iff.mp h
      exact .needed first (ih (covers_of_succ wider) others)

/-- At most `least + extra + 1` rounds are either one fewer, or at least `least + 1` rounds. -/
theorem Matches.spend {least extra : Nat}
    (h : Matches (rep p 0 (some (least + 1 + extra))) before text after) :
    Matches (rep p 0 (some (least + extra))) before text after ∨
      Matches (rep p (least + 1) (some extra)) before text after := by
  induction least generalizing before text with
  | zero =>
    rw [Nat.zero_add, Nat.add_comm] at h
    cases h with
    | done => exact .inl .done
    | further first others => exact .inr (.needed first others)
  | succ least ih =>
    rw [show least + 1 + 1 + extra = least + 1 + extra + 1 by omega] at h
    cases h with
    | done => exact .inl .done
    | further first others =>
      rcases ih others with fewer | enough
      · refine .inl ?_
        rw [show least + 1 + extra = least + extra + 1 by omega]
        exact .further first fewer
      · exact .inr (.needed first enough)

theorem getLast?_cons_or (before : Option Char) (c : Char) (u : List Char) :
    (c :: u).getLast?.or before = u.getLast?.or (some c) := by
  cases u with
  | nil => rfl
  | cons d u => simp [List.getLast?_cons]

/-- Empty rounds in front make up for rounds that are missing. -/
theorem Matches.pad {least : Nat} {extra? : Option Nat} {u v : List Char}
    (nullable : Matches p before [] (some c)) (first : Matches p before (c :: u) (v.head?.or after))
    (others : Matches (rep p 0 (extra?.map (least + ·))) (u.getLast?.or (some c)) v after) :
    Matches (rep p (least + 1) extra?) before (c :: (u ++ v)) after := by
  induction least with
  | zero =>
    refine Matches.needed (u := c :: u) first ?_
    rw [getLast?_cons_or]
    cases extra? <;> simpa using others
  | succ least ih =>
    have padded (h : Matches (rep p (least + 1) extra?) before (c :: (u ++ v)) after) :
        Matches (rep p (least + 1 + 1) extra?) before (c :: (u ++ v)) after :=
      Matches.needed (u := []) nullable h
    cases extra? with
    | none => exact padded (ih others)
    | some extra =>
      rcases Matches.spend others with fewer | enough
      · exact padded (ih fewer)
      · refine Matches.needed (u := c :: u) first ?_
        rw [getLast?_cons_or]
        exact enough

theorem Matches.after_empty_round {least : Nat} {extra? : Option Nat} {rounds : Nat × Option Nat}
    (eq : nextRounds true least extra? = some rounds)
    (h : Matches (rep p rounds.1 rounds.2) before text after) :
    Matches (rep p 0 (extra?.map (least + ·))) before text after := by
  match least, extra? with
  | 0, none =>
    cases eq
    exact h
  | 0, some 0 => cases eq
  | 0, some (extra + 1) =>
    cases eq
    simpa using h.allow
  | least + 1, none =>
    cases eq
    exact h
  | least + 1, some extra =>
    cases eq
    simpa [Nat.succ_add] using h.allow

/-- A repetition that begins with a character goes through a round that takes up the character, and
through the rounds that are left then. -/
theorem matches_rep_cons_iff {least : Nat} {extra? : Option Nat} {w : List Char} :
    Matches (rep p least extra?) before (c :: w) after ↔
      ∃ rounds, nextRounds (p.isNullable before (some c)) least extra? = some rounds ∧
        ∃ u v, w = u ++ v ∧ Matches p before (c :: u) (v.head?.or after) ∧
          Matches (rep p rounds.1 rounds.2) (u.getLast?.or (some c)) v after := by
  constructor
  · intro h
    generalize eqr : rep p least extra? = r at h
    generalize eqt : c :: w = text at h
    induction h generalizing least extra? with
    | empty | chars | assertion | seq | left | right | done => cases eqr <;> cases eqt
    | @needed before u v after p' least' extra?' first others ihf ih =>
      obtain ⟨rfl, rfl, rfl⟩ := Pattern.rep.inj eqr
      cases u with
      | nil =>
        rw [List.nil_append] at eqt
        subst eqt
        have nullable : p.isNullable before (some c) = true := isNullable_iff.mpr first
        obtain ⟨rounds, eq, u, v, rfl, first', others'⟩ := ih rfl rfl
        refine ⟨_, by rw [nextRounds, nullable, if_pos rfl], u, v, rfl, first', ?_⟩
        exact others'.after_empty_round (nullable ▸ eq)
      | cons d u =>
        obtain ⟨rfl, rfl⟩ := List.cons.inj eqt
        rw [getLast?_cons_or] at others
        cases nullable : p.isNullable before (some c) with
        | false => exact ⟨(least', extra?), by simp [nextRounds], u, v, rfl, first, others⟩
        | true => exact ⟨_, by rw [nextRounds, if_pos rfl], u, v, rfl, first, others.relax⟩
    | @further before u v after p' extra first others ihf ih =>
      obtain ⟨rfl, rfl, rfl⟩ := Pattern.rep.inj eqr
      refine ⟨(0, some extra), by rw [nextRounds], ?_⟩
      cases u with
      | nil =>
        rw [List.nil_append] at eqt
        subst eqt
        obtain ⟨rounds, eq, u, v, rfl, first', others'⟩ := ih rfl rfl
        refine ⟨u, v, rfl, first', ?_⟩
        cases extra with
        | zero => cases eq
        | succ extra =>
          cases eq
          exact others'.allow
      | cons d u =>
        obtain ⟨rfl, rfl⟩ := List.cons.inj eqt
        rw [getLast?_cons_or] at others
        exact ⟨u, v, rfl, first, others⟩
    | @again before u v after p' first others ihf ih =>
      obtain ⟨rfl, rfl, rfl⟩ := Pattern.rep.inj eqr
      cases u with
      | nil =>
        rw [List.nil_append] at eqt
        subst eqt
        exact ih rfl rfl
      | cons d u =>
        obtain ⟨rfl, rfl⟩ := List.cons.inj eqt
        rw [getLast?_cons_or] at others
        exact ⟨(0, none), by rw [nextRounds], u, v, rfl, first, others⟩
  · rintro ⟨rounds, eq, u, v, rfl, first, others⟩
    rw [← getLast?_cons_or before] at others
    match least, extra? with
    | 0, none =>
      cases eq
      exact Matches.again (u := c :: u) first others
    | 0, some 0 => cases eq
    | 0, some (extra + 1) =>
      cases eq
      exact Matches.further (u := c :: u) first others
    | least + 1, extra? =>
      cases nullable : p.isNullable before (some c) with
      | false =>
        rw [nullable] at eq
        cases eq
        exact Matches.needed (u := c :: u) first others
      | true =>
        rw [nullable] at eq
        cases eq
        rw [getLast?_cons_or] at others
        exact Matches.pad (isNullable_iff.mp nullable) first others

end Conform.Regex.Pattern
