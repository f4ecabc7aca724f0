import Conform.Proofs.Number.Rounding
import Conform.Proofs.Spec.Arguments
import Conform.Proofs.Spec.Builtin
import Conform.Rule.Size

/-!
# Sizes of whole numbers

The size rules compare whole numbers after both sides have been rounded to 53 bits. So they compare
by value exactly where rounding does not make a bound equal to a number on its wrong side.
-/

namespace Conform

open Binary64

/-! ## What the rules compare -/

/-- A chain that is not nullable accepts what all its rules accept. -/
theorem Chain.messages_eq_nil_iff {chain : Chain} (h : chain.nullable = false) {field : String}
    {value tree : Value} :
    chain.messages field (some value) tree = .ok [] ↔
      ∀ rule ∈ chain.rules, rule.apply field (some value) tree = .ok () := by
  have hview : chain.view (some value) = some value := by
    cases value <;> simp [view, h]
  rw [messages, hview, run_eq_ok_nil_iff]
  simp

/-- A rule on sizes accepts the values that have a size and one that it accepts. -/
theorem Rule.apply_ofSize_eq_ok_iff {name words : String} {bounds : List (String × Binary64)}
    {accepts : Binary64 → Bool} {field : String} {value tree : Value} :
    (ofSize name words bounds accepts).apply field (some value) tree = .ok () ↔
      ∃ measured, value.measure? = some measured ∧ accepts measured.1 = true := by
  cases hmeasure : value.measure? with
  | none => simp [apply, ofSize, ofValue, hmeasure, Except.mapError]
  | some measured =>
    cases haccepts : accepts measured.1 <;>
      simp [apply, ofSize, ofValue, hmeasure, haccepts, Except.mapError]

namespace Registry

/-- The specification compiles against the built-in registry, and its chain accepts the whole number
just when the condition holds. -/
def AcceptsIff (spec : String) (number : Int) (condition : Prop) : Prop :=
  ∃ chain, builtin.compile spec = .ok chain ∧
    ∀ field tree, chain.messages field (some (.num (.int number))) tree = .ok [] ↔ condition

/-- There is one condition for which a chain accepts a number. -/
theorem AcceptsIff.iff {spec : String} {number : Int} {condition other : Prop}
    (h : AcceptsIff spec number condition) :
    AcceptsIff spec number other ↔ (condition ↔ other) := by
  obtain ⟨chain, hchain, hcondition⟩ := h
  constructor
  · rintro ⟨chain', hchain', hother⟩
    rw [hchain] at hchain'
    cases hchain'
    exact (hcondition "" .null).symm.trans (hother "" .null)
  · intro heq
    exact ⟨chain, hchain, fun field tree => (hcondition field tree).trans heq⟩

theorem acceptsIff_of_compile {spec name words : String} {bounds : List (String × Binary64)}
    {accepts : Binary64 → Bool}
    (h : builtin.compile spec = .ok { rules := [.ofSize name words bounds accepts] })
    (number : Int) : AcceptsIff spec number (accepts (.ofInt number) = true) := by
  refine ⟨_, h, fun field tree => ?_⟩
  rw [Chain.messages_eq_nil_iff rfl, List.forall_mem_singleton, Rule.apply_ofSize_eq_ok_iff]
  simp [Value.measure?, Number.toBinary64]

/-! ## Specifications of size rules -/

theorem get?_builtin_min : builtin.get? "min" = some (Arguments.oneNumber "min" .min) :=
  get?_builtin (by simp only [builtinRules, List.mem_cons, true_or, or_true])

theorem get?_builtin_max : builtin.get? "max" = some (Arguments.oneNumber "max" .max) :=
  get?_builtin (by simp only [builtinRules, List.mem_cons, true_or, or_true])

theorem get?_builtin_size : builtin.get? "size" = some (Arguments.oneNumber "size" .size) :=
  get?_builtin (by simp only [builtinRules, List.mem_cons, true_or, or_true])

theorem get?_builtin_between :
    builtin.get? "between" = some (Arguments.twoNumbers "between" .between) :=
  get?_builtin (by simp only [builtinRules, List.mem_cons, true_or, or_true])

section

variable {name low high text : String} {chain : Chain}

/-- A specification of a rule with one bound compiles when the bound is a number. -/
theorem compile_number_eq_ok_iff {make : Binary64 → Rule}
    (hget : builtin.get? name = some (Arguments.oneNumber name make)) (hname : Token.IsName name)
    (hmodifier : name ≠ "bail" ∧ name ≠ "nullable")
    (htext : ',' ∉ text.toList ∧ '|' ∉ text.toList) :
    builtin.compile (name ++ ":" ++ text) = .ok chain ↔
      ∃ x, (⟨text⟩ : Argument).number? = some x ∧ { rules := [make x] } = chain := by
  rw [compile_oneNumber hget hname hmodifier htext]
  simp only [← @Arguments.number_eq_ok_iff name]
  cases Arguments.number name ⟨text⟩ <;> simp [Except.map]

theorem compile_min_eq_ok_iff (h : ',' ∉ text.toList ∧ '|' ∉ text.toList) :
    builtin.compile ("min:" ++ text) = .ok chain ↔
      ∃ x, (⟨text⟩ : Argument).number? = some x ∧ { rules := [.min x] } = chain :=
  compile_number_eq_ok_iff get?_builtin_min (by decide) (by decide) h

theorem compile_max_eq_ok_iff (h : ',' ∉ text.toList ∧ '|' ∉ text.toList) :
    builtin.compile ("max:" ++ text) = .ok chain ↔
      ∃ x, (⟨text⟩ : Argument).number? = some x ∧ { rules := [.max x] } = chain :=
  compile_number_eq_ok_iff get?_builtin_max (by decide) (by decide) h

theorem compile_size_eq_ok_iff (h : ',' ∉ text.toList ∧ '|' ∉ text.toList) :
    builtin.compile ("size:" ++ text) = .ok chain ↔
      ∃ x, (⟨text⟩ : Argument).number? = some x ∧ { rules := [.size x] } = chain :=
  compile_number_eq_ok_iff get?_builtin_size (by decide) (by decide) h

/-- A range compiles when its bounds are numbers that are not reversed. -/
theorem compile_between_eq_ok_iff (hlow : ',' ∉ low.toList ∧ '|' ∉ low.toList)
    (hhigh : ',' ∉ high.toList ∧ '|' ∉ high.toList) :
    builtin.compile ("between:" ++ low ++ "," ++ high) = .ok chain ↔
      ∃ x y, (⟨low⟩ : Argument).number? = some x ∧ (⟨high⟩ : Argument).number? = some y ∧
        x.le y = true ∧ { rules := [.between x y] } = chain := by
  have hcompile : builtin.compile ("between:" ++ low ++ "," ++ high) = _ :=
    compile_twoNumbers get?_builtin_between (by decide) (by decide) hlow hhigh
  have hmade := @Arguments.twoNumbers_eq_ok_iff "between" .between ⟨low⟩ ⟨high⟩
  rw [hcompile]
  constructor
  · intro h
    cases hrule : Arguments.twoNumbers "between" .between [⟨low⟩, ⟨high⟩] with
    | error error => rw [hrule] at h; cases h
    | ok rule =>
      obtain ⟨x, y, hx, hy, hle, rfl⟩ := hmade.mp hrule
      rw [hrule] at h
      cases h
      exact ⟨x, y, hx, hy, hle, rfl⟩
  · rintro ⟨x, y, hx, hy, hle, rfl⟩
    rw [hmade.mpr ⟨x, y, hx, hy, hle, rfl⟩]
    rfl

end

end Registry

/-- The numbers that are held are within reach of the format. -/
theorem Number.IsHeld.log2_le {n : Int} (h : IsHeld n) : n.natAbs.log2 ≤ 1000 := by
  have hsmall : n.natAbs < 2 ^ 64 := by
    obtain ⟨hlow, hhigh⟩ | ⟨hlow, hhigh⟩ := h <;> omega
  obtain hzero | hpos := Nat.eq_zero_or_pos n.natAbs
  · simp [hzero]
  · have hlog := (Nat.log2_lt (Nat.ne_of_gt hpos)).mpr hsmall
    omega

namespace Registry

variable {n a b v : Int}

theorem acceptsIff_min (hn : Number.IsSigned64 n) (hv : Number.IsHeld v) :
    AcceptsIff ("min:" ++ toString n) v (rounded n ≤ rounded v) := by
  have hheld : Number.IsHeld n := .inl hn
  have hcompile := (compile_min_eq_ok_iff (Argument.separators_not_mem_ofInt n)).mpr
    ⟨_, Argument.number?_ofInt hn, rfl⟩
  have haccepts := acceptsIff_of_compile hcompile v
  rwa [le_ofInt_iff hheld.log2_le hv.log2_le] at haccepts

theorem acceptsIff_max (hn : Number.IsSigned64 n) (hv : Number.IsHeld v) :
    AcceptsIff ("max:" ++ toString n) v (rounded v ≤ rounded n) := by
  have hheld : Number.IsHeld n := .inl hn
  have hcompile := (compile_max_eq_ok_iff (Argument.separators_not_mem_ofInt n)).mpr
    ⟨_, Argument.number?_ofInt hn, rfl⟩
  have haccepts := acceptsIff_of_compile hcompile v
  rwa [le_ofInt_iff hv.log2_le hheld.log2_le] at haccepts

theorem acceptsIff_size (hn : Number.IsSigned64 n) (hv : Number.IsHeld v) :
    AcceptsIff ("size:" ++ toString n) v (rounded v = rounded n) := by
  have hheld : Number.IsHeld n := .inl hn
  have hcompile := (compile_size_eq_ok_iff (Argument.separators_not_mem_ofInt n)).mpr
    ⟨_, Argument.number?_ofInt hn, rfl⟩
  have haccepts := acceptsIff_of_compile hcompile v
  rwa [same_ofInt_iff hv.log2_le hheld.log2_le] at haccepts

theorem acceptsIff_between (ha : Number.IsSigned64 a) (hb : Number.IsSigned64 b)
    (hv : Number.IsHeld v) (hab : a ≤ b) :
    AcceptsIff ("between:" ++ toString a ++ "," ++ toString b) v
      (rounded a ≤ rounded v ∧ rounded v ≤ rounded b) := by
  have hlow : Number.IsHeld a := .inl ha
  have hhigh : Number.IsHeld b := .inl hb
  have hordered := (le_ofInt_iff hlow.log2_le hhigh.log2_le).mpr (rounded_mono hab)
  have hcompile := (compile_between_eq_ok_iff (Argument.separators_not_mem_ofInt a)
    (Argument.separators_not_mem_ofInt b)).mpr
    ⟨_, _, Argument.number?_ofInt ha, Argument.number?_ofInt hb, hordered, rfl⟩
  have haccepts := acceptsIff_of_compile hcompile v
  rwa [Bool.and_eq_true, le_ofInt_iff hlow.log2_le hv.log2_le,
    le_ofInt_iff hv.log2_le hhigh.log2_le] at haccepts

/-- Bounds are found to be reversed when they still are after rounding. -/
theorem compile_between_eq_error_iff (ha : Number.IsSigned64 a) (hb : Number.IsSigned64 b) :
    (∃ error, builtin.compile ("between:" ++ toString b ++ "," ++ toString a) = .error error) ↔
      rounded a < rounded b := by
  have hlow : Number.IsHeld a := .inl ha
  have hhigh : Number.IsHeld b := .inl hb
  have hiff := le_ofInt_iff hhigh.log2_le hlow.log2_le
  have hok {chain} :
      builtin.compile ("between:" ++ toString b ++ "," ++ toString a) = .ok chain ↔ _ :=
    compile_between_eq_ok_iff (Argument.separators_not_mem_ofInt b)
      (Argument.separators_not_mem_ofInt a)
  constructor
  · rintro ⟨error, herror⟩
    by_contra hge
    have hordered := hiff.mpr (Int.not_lt.mp hge)
    have hcompile := hok.mpr
      ⟨_, _, Argument.number?_ofInt hb, Argument.number?_ofInt ha, hordered, rfl⟩
    cases herror.symm.trans hcompile
  · intro hlt
    cases hcompile : builtin.compile ("between:" ++ toString b ++ "," ++ toString a) with
    | error error => exact ⟨error, rfl⟩
    | ok chain =>
      obtain ⟨x, y, hx, hy, hle, -⟩ := hok.mp hcompile
      cases (Argument.number?_ofInt hb).symm.trans hx
      cases (Argument.number?_ofInt ha).symm.trans hy
      exact absurd (hiff.mp hle) (Int.not_le.mpr hlt)

/-- The size rules with these bounds, written in decimal, compare the whole number by value, and
reversed bounds are refused. -/
structure ComparesByValue (n a b v : Int) : Prop where
  min : AcceptsIff ("min:" ++ toString n) v (n ≤ v)
  max : AcceptsIff ("max:" ++ toString n) v (v ≤ n)
  size : AcceptsIff ("size:" ++ toString n) v (v = n)
  between : AcceptsIff ("between:" ++ toString a ++ "," ++ toString b) v (a ≤ v ∧ v ≤ b)
  reversed : a < b →
    ∃ error, builtin.compile ("between:" ++ toString b ++ "," ++ toString a) = .error error

/-- Rounding to 53 bits makes no bound equal to a number on its wrong side. -/
structure RoundsApart (n a b v : Int) : Prop where
  bound : rounded n = rounded v → n = v
  low : rounded a = rounded v → a ≤ v
  high : rounded v = rounded b → v ≤ b
  range : rounded a = rounded b → a = b

/-- Below `2 ^ 53` no bound is equal to another number after rounding. -/
theorem roundsApart_of_lt (hn : n.natAbs < 2 ^ 53) (ha : a.natAbs < 2 ^ 53)
    (hb : b.natAbs < 2 ^ 53) (v : Int) : RoundsApart n a b v where
  bound h := eq_of_rounded_eq hn h
  low h := (eq_of_rounded_eq ha h).le
  high h := (eq_of_rounded_eq hb h.symm).ge
  range h := eq_of_rounded_eq ha h

/-- The size rules compare whole numbers by value exactly where rounding keeps them apart. -/
theorem comparesByValue_iff_roundsApart (hn : Number.IsSigned64 n) (ha : Number.IsSigned64 a)
    (hb : Number.IsSigned64 b) (hv : Number.IsHeld v) (hab : a ≤ b) :
    ComparesByValue n a b v ↔ RoundsApart n a b v := by
  constructor
  · rintro ⟨hmin, hmax, -, hbetween, hreversed⟩
    rw [(acceptsIff_min hn hv).iff] at hmin
    rw [(acceptsIff_max hn hv).iff] at hmax
    rw [(acceptsIff_between ha hb hv hab).iff] at hbetween
    rw [compile_between_eq_error_iff ha hb] at hreversed
    have hlow : rounded a ≤ rounded b := rounded_mono hab
    constructor
    case bound => omega
    case low => omega
    case high => omega
    case range => omega
  · rintro ⟨hbound, hlow, hhigh, hrange⟩
    constructor
    case min => exact (acceptsIff_min hn hv).iff.mpr (rounded_le_iff fun h => (hbound h).le)
    case max => exact (acceptsIff_max hn hv).iff.mpr (rounded_le_iff fun h => (hbound h.symm).ge)
    case size =>
      exact (acceptsIff_size hn hv).iff.mpr ⟨fun h => (hbound h.symm).symm, congrArg rounded⟩
    case between =>
      exact (acceptsIff_between ha hb hv hab).iff.mpr
        (and_congr (rounded_le_iff hlow) (rounded_le_iff hhigh))
    case reversed =>
      intro hlt
      have hle := rounded_mono hab
      exact (compile_between_eq_error_iff ha hb).mpr (lt_of_le_of_ne hle (mt hrange hlt.ne))

theorem comparesByValue_iff_roundsApart_of_small_bounds :
    ComparesByValue 9007199254740991 (-5) 7 18446744073709551615 :=
  (comparesByValue_iff_roundsApart (by decide) (by decide) (by decide) (by decide) (by decide)).mpr
    (roundsApart_of_lt (by decide) (by decide) (by decide) _)

/-- One more than `2 ^ 53` is accepted as at most `2 ^ 53`, and the two make a range in either
order. -/
theorem not_comparesByValue_of_large_bounds :
    Number.IsSigned64 9007199254740992 ∧ Number.IsSigned64 9007199254740993 ∧
      Number.IsHeld 9007199254740993 ∧
      ¬ComparesByValue 9007199254740992 9007199254740992 9007199254740993 9007199254740993 := by
  have hn : Number.IsSigned64 9007199254740992 := by decide
  have hv : Number.IsHeld 9007199254740993 := by decide
  refine ⟨hn, by decide, hv, fun h => ?_⟩
  have hmax := (acceptsIff_max hn hv).iff.mp h.max
  exact absurd (hmax.mp (by decide)) (by decide)

end Registry

end Conform
