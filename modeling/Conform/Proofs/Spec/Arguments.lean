import Conform.Proofs.Spec.Compilation
import Conform.Spec.Builtin

/-!
# Whole numbers as arguments

A whole number that is written in decimal is an argument without separators, and it is read back as
itself. So a specification of one token with such arguments compiles to the rule of that token.
-/

namespace Conform

/-! ## Decimal texts -/

/-- The decimal text of a whole number: the digits of its absolute value, behind a minus if it is
negative. -/
theorem Numeral.toList_toString (n : Int) :
    (toString n).toList =
      if n < 0 then '-' :: Nat.toDigits 10 n.natAbs else Nat.toDigits 10 n.natAbs := by
  cases n with
  | ofNat m =>
    have hnonneg : ¬Int.ofNat m < 0 := Int.not_lt.mpr (Int.natCast_nonneg m)
    rw [if_neg hnonneg]
    simp [toString, Int.repr]
  | negSucc m =>
    rw [if_pos (Int.negSucc_lt_zero m)]
    simp [toString, Int.repr]

theorem Numeral.mem_toString {c : Char} {n : Int} (h : c ∈ (toString n).toList) :
    c = '-' ∨ c.isDigit = true := by
  have hdigit : ∀ m : Nat, c ∈ Nat.toDigits 10 m → c.isDigit = true := fun m hm =>
    Nat.isDigit_of_mem_toDigits (by decide) (by decide) hm
  rw [toList_toString] at h
  split at h
  · obtain rfl | h := List.mem_cons.mp h
    · exact .inl rfl
    · exact .inr (hdigit _ h)
  · exact .inr (hdigit _ h)

/-- A digit is no sign. -/
theorem Numeral.sign_toDigits (m : Nat) :
    sign (Nat.toDigits 10 m) = (false, Nat.toDigits 10 m) := by
  cases hdigits : Nat.toDigits 10 m with
  | nil => exact absurd hdigits Nat.toDigits_ne_nil
  | cons c rest =>
    have hdigit : c.isDigit = true :=
      Nat.isDigit_of_mem_toDigits (by decide) (by decide) (hdigits ▸ List.mem_cons_self ..)
    unfold sign
    split
    · rename_i heq
      cases heq
      cases hdigit
    · rename_i heq
      cases heq
      cases hdigit
    · rfl

/-- The decimal text of a whole number is read back to it. -/
theorem Numeral.integer?_toString (n : Int) : integer? (toString n).toList = some n := by
  rw [toList_toString]
  split
  · have hvalue : -(n.natAbs : Int) = n := by omega
    simp only [integer?, sign, natural?_toDigits]
    exact congrArg some hvalue
  · have hvalue : (n.natAbs : Int) = n := by omega
    simp only [integer?, sign_toDigits, natural?_toDigits]
    exact congrArg some hvalue

namespace Argument

/-- The argument that says the whole number. -/
def ofInt (n : Int) : Argument := ⟨toString n⟩

theorem reading_ofInt {n : Int} (h : Number.IsSigned64 n) : (ofInt n).reading = .int n := by
  unfold reading ofInt
  rw [Numeral.integer?_toString, Option.filter_some, if_pos (decide_eq_true h)]

theorem number?_ofInt {n : Int} (h : Number.IsSigned64 n) :
    (ofInt n).number? = some (.ofInt n) := by
  unfold number?
  rw [reading_ofInt h]

theorem not_mem_ofInt {c : Char} (hsign : c ≠ '-') (hdigit : c.isDigit = false) (n : Int) :
    c ∉ (ofInt n).raw.toList := by
  intro h
  obtain rfl | hd := Numeral.mem_toString h
  · exact hsign rfl
  · rw [hdigit] at hd
    cases hd

/-- A whole number holds none of the characters that end an argument. -/
theorem separators_not_mem_ofInt (n : Int) :
    ',' ∉ (ofInt n).raw.toList ∧ '|' ∉ (ofInt n).raw.toList :=
  ⟨not_mem_ofInt (by decide) (by decide) n, not_mem_ofInt (by decide) (by decide) n⟩

end Argument

namespace Arguments

variable {rule : String}

theorem number_eq_ok_iff {argument : Argument} {x : Binary64} :
    number rule argument = .ok x ↔ argument.number? = some x := by
  unfold number
  cases argument.number? <;> simp

/-- Two bounds are taken when both are numbers and they are not reversed. -/
theorem twoNumbers_eq_ok_iff {make : Binary64 → Binary64 → Rule} {low high : Argument}
    {made : Rule} :
    twoNumbers rule make [low, high] = .ok made ↔
      ∃ x y, low.number? = some x ∧ high.number? = some y ∧ x.le y = true ∧ make x y = made := by
  simp only [← @number_eq_ok_iff rule]
  rw [twoNumbers]
  cases number rule low with
  | error error => simp [bind, Except.bind]
  | ok x =>
    cases number rule high with
    | error error => simp [bind, Except.bind]
    | ok y =>
      cases hle : x.le y <;>
        simp [bind, Except.bind, hle, pure, Except.pure, throw, throwThe, MonadExceptOf.throw]

end Arguments

/-! ## Specifications of one token -/

namespace Token

/-- A token that can be written is read back. -/
theorem parseSpec_render {token : Token} (h : token.IsGrammatical) :
    parseSpec token.render = .ok [token] := by
  refine parseSpec_eq_ok_iff.mpr ⟨by simp, by simpa using h, ?_⟩
  rw [renderSpec, List.map_cons, List.map_nil, String.intercalate_singleton]

end Token

namespace Registry

variable {registry : Registry}

/-- The chain of a single token that is no modifier has the rule of the token. -/
theorem compileTokens_singleton {token : Token} (h : ¬token.IsModifier) :
    registry.compileTokens [token] =
      (registry.construct token).map fun rule => ({ rules := [rule] } : Chain) := by
  obtain ⟨hbail, hnullable⟩ := not_or.mp h
  rw [compileTokens_cons, addToken_of_not_isModifier h]
  cases registry.construct token with
  | error error => rfl
  | ok rule => simp [Except.map, Except.bind, compileTokens, chainOf, hbail, hnullable, pure,
      Except.pure]

/-- A specification of one rule compiles to that rule. -/
theorem compile_render {token : Token} (h : token.IsGrammatical) (hmodifier : ¬token.IsModifier) :
    registry.compile token.render =
      (registry.construct token).map fun rule => ({ rules := [rule] } : Chain) := by
  rw [compile_of_parseSpec (Token.parseSpec_render h)]
  exact compileTokens_singleton hmodifier

variable {name : String}

/-- A specification of a rule with one number. -/
theorem compile_oneNumber {make : Binary64 → Rule}
    (hget : registry.get? name = some (Arguments.oneNumber name make)) (hname : Token.IsName name)
    (hmodifier : name ≠ "bail" ∧ name ≠ "nullable") {text : String}
    (htext : ',' ∉ text.toList ∧ '|' ∉ text.toList) :
    registry.compile (name ++ ":" ++ text) =
      (Arguments.number name ⟨text⟩).map fun x => ({ rules := [make x] } : Chain) := by
  have hspec : name ++ ":" ++ text = Token.render ⟨name, [⟨text⟩]⟩ := by simp [Token.render]
  have hgrammatical : Token.IsGrammatical ⟨name, [⟨text⟩]⟩ :=
    ⟨Grammar.toList_mem_name_iff.mpr hname, by simpa using htext⟩
  rw [hspec, compile_render hgrammatical (not_or.mpr hmodifier), construct, hget]
  dsimp only [Arguments.oneNumber]
  cases Arguments.number name ⟨text⟩ <;> rfl

/-- A specification of a rule with two bounds. -/
theorem compile_twoNumbers {make : Binary64 → Binary64 → Rule}
    (hget : registry.get? name = some (Arguments.twoNumbers name make)) (hname : Token.IsName name)
    (hmodifier : name ≠ "bail" ∧ name ≠ "nullable") {low high : String}
    (hlow : ',' ∉ low.toList ∧ '|' ∉ low.toList) (hhigh : ',' ∉ high.toList ∧ '|' ∉ high.toList) :
    registry.compile (name ++ ":" ++ low ++ "," ++ high) =
      (Arguments.twoNumbers name make [⟨low⟩, ⟨high⟩]).map fun rule =>
        ({ rules := [rule] } : Chain) := by
  have hspec : name ++ ":" ++ low ++ "," ++ high = Token.render ⟨name, [⟨low⟩, ⟨high⟩]⟩ := by
    simp [Token.render, String.append_assoc]
  have hgrammatical : Token.IsGrammatical ⟨name, [⟨low⟩, ⟨high⟩]⟩ :=
    ⟨Grammar.toList_mem_name_iff.mpr hname, by simpa using ⟨hlow, hhigh⟩⟩
  rw [hspec, compile_render hgrammatical (not_or.mpr hmodifier), construct, hget]

end Registry

end Conform
