import Conform.Proofs.Spec.Grammar
import Conform.Spec.Registry

/-!
# Compiled specifications

Every token is compiled by itself, to a mode or to a rule, and a chain is put together from what its
tokens give. So modifiers may stand anywhere, and specifications with a bar between them compile to
the chains of both.
-/

namespace Conform

/-- A modifier sets a mode of the chain; every other token stands for a rule. -/
def Token.IsModifier (token : Token) : Prop := token.name = "bail" ∨ token.name = "nullable"

instance : DecidablePred Token.IsModifier := fun _ => inferInstanceAs (Decidable (_ ∨ _))

namespace Chain

@[simp] theorem append_empty (chain : Chain) : chain ++ ({} : Chain) = chain := by
  simp [append_eq]

instance : Std.Associative (fun first second : Chain => first ++ second) := ⟨append_assoc⟩

theorem foldl_append_eq (chain : Chain) (chains : List Chain) :
    chains.foldl (· ++ ·) chain = chain ++ chains.foldl (· ++ ·) {} := by
  have hassoc : chains.foldl (fun first second : Chain => first ++ second) (chain ++ {}) =
      chain ++ chains.foldl (· ++ ·) {} := List.foldl_assoc
  rwa [append_empty] at hassoc

end Chain

namespace Registry

variable {registry : Registry} {token : Token} {tokens : List Token}

/-- The token is a modifier with arguments, or its rule cannot be constructed, for this error. -/
def Refuses (registry : Registry) (token : Token) (error : SpecError) : Prop :=
  token.IsModifier ∧ token.args ≠ [] ∧
      error = .invalidArgument token.name "modifier takes no arguments" ∨
    ¬token.IsModifier ∧ registry.construct token = .error error

/-! ## Token by token -/

/-- What a token adds to a chain does not depend on the chain. -/
theorem addToken_eq (registry : Registry) (chain : Chain) (token : Token) :
    registry.addToken chain token = (registry.addToken {} token).map (chain ++ ·) := by
  unfold addToken
  split
  · split
    · simp [Except.map, Chain.append_eq]
    · rfl
  · cases registry.construct token with
    | error error => rfl
    | ok rule => simp [Except.map, Chain.append_eq, Chain.push]

/-- The chains of single tokens are put together one after another. -/
theorem foldlM_addToken_eq_mapM (registry : Registry) (chain : Chain) (tokens : List Token) :
    tokens.foldlM registry.addToken chain =
      (tokens.mapM (registry.addToken {})).map (·.foldl (· ++ ·) chain) := by
  rw [← List.foldlM_map_eq_mapM]
  congr
  funext chain token
  exact addToken_eq registry chain token

/-- Tokens add to a chain the chain that they make by themselves. -/
theorem foldlM_addToken (registry : Registry) (chain : Chain) (tokens : List Token) :
    tokens.foldlM registry.addToken chain = (registry.compileTokens tokens).map (chain ++ ·) := by
  rw [compileTokens, foldlM_addToken_eq_mapM, foldlM_addToken_eq_mapM]
  cases tokens.mapM (registry.addToken {}) with
  | error error => rfl
  | ok chains => exact congrArg Except.ok (Chain.foldl_append_eq chain chains)

theorem compileTokens_cons (registry : Registry) (token : Token) (rest : List Token) :
    registry.compileTokens (token :: rest) =
      (registry.addToken {} token).bind fun chain =>
        (registry.compileTokens rest).map (chain ++ ·) := by
  simp only [← foldlM_addToken]
  rfl

theorem compileTokens_append (registry : Registry) (tokens others : List Token) :
    registry.compileTokens (tokens ++ others) =
      (registry.compileTokens tokens).bind fun chain =>
        (registry.compileTokens others).map (chain ++ ·) := by
  simp only [← foldlM_addToken]
  rw [compileTokens, List.foldlM_append]
  rfl

/-! ## Refused tokens -/

theorem addToken_eq_error_iff {error : SpecError} :
    registry.addToken {} token = .error error ↔ registry.Refuses token error := by
  unfold addToken Refuses Token.IsModifier
  split
  · split <;> simp_all [eq_comm]
  · cases hrule : registry.construct token <;> simp_all [Except.map]

theorem exists_addToken_eq_ok_iff :
    (∃ chain, registry.addToken {} token = .ok chain) ↔ ∀ error, ¬registry.Refuses token error := by
  simp only [← addToken_eq_error_iff]
  cases registry.addToken {} token <;> simp

theorem exists_compileTokens_eq_ok_iff :
    (∃ chain, registry.compileTokens tokens = .ok chain) ↔
      ∀ t ∈ tokens, ∀ error, ¬registry.Refuses t error := by
  simp only [← exists_addToken_eq_ok_iff]
  rw [← List.exists_mapM_eq_ok_iff, compileTokens, foldlM_addToken_eq_mapM]
  cases tokens.mapM (registry.addToken {}) <;> simp [Except.map]

/-- The error is that of the first token that is refused. -/
theorem compileTokens_eq_error_iff {error : SpecError} :
    registry.compileTokens tokens = .error error ↔
      ∃ before token after, tokens = before ++ token :: after ∧
        (∀ t ∈ before, ∀ e, ¬registry.Refuses t e) ∧ registry.Refuses token error := by
  simp only [← exists_addToken_eq_ok_iff]
  simp only [← addToken_eq_error_iff]
  rw [← List.mapM_eq_error_iff, compileTokens, foldlM_addToken_eq_mapM]
  cases tokens.mapM (registry.addToken {}) <;> simp [Except.map]

/-! ## Modes and rules -/

/-- No modifier among the tokens has arguments. -/
def HasBareModifiers (tokens : List Token) : Prop := ∀ t ∈ tokens, t.IsModifier → t.args = []

/-- The chain with the given rules whose modes are those that the tokens name. -/
def chainOf (tokens : List Token) (rules : List Rule) : Chain where
  rules
  bail := tokens.any (·.name = "bail")
  nullable := tokens.any (·.name = "nullable")

theorem addToken_of_isModifier (hmodifier : token.IsModifier) (hbare : token.args = []) :
    registry.addToken {} token = .ok (chainOf [token] []) := by
  unfold Token.IsModifier at hmodifier
  rw [addToken, if_pos hmodifier, if_pos hbare]
  simp [chainOf]

theorem addToken_of_not_isModifier (h : ¬token.IsModifier) :
    registry.addToken {} token =
      (registry.construct token).map fun rule => chainOf [token] [rule] := by
  unfold Token.IsModifier at h
  rw [addToken, if_neg h]
  have hmake : Chain.push {} = fun rule => chainOf [token] [rule] := by
    funext rule
    obtain ⟨hbail, hnullable⟩ := not_or.mp h
    simp [Chain.push, chainOf, hbail, hnullable]
  rw [hmake]

theorem chainOf_append (tokens others : List Token) (rules more : List Rule) :
    chainOf tokens rules ++ chainOf others more = chainOf (tokens ++ others) (rules ++ more) := by
  simp [chainOf, Chain.append_eq]

/-- Tokens that name the same modifiers set the same modes. -/
theorem chainOf_congr {others : List Token}
    (h : ∀ name, (∃ t ∈ tokens, t.IsModifier ∧ t.name = name) ↔
      ∃ t ∈ others, t.IsModifier ∧ t.name = name) :
    chainOf tokens = chainOf others := by
  have hmode : ∀ name, name = "bail" ∨ name = "nullable" →
      tokens.any (·.name = name) = others.any (·.name = name) := by
    intro name hname
    have hnames : ∀ ts : List Token, ts.any (·.name = name) = true ↔
        ∃ t ∈ ts, t.IsModifier ∧ t.name = name := by
      intro ts
      simp only [List.any_eq_true, decide_eq_true_eq, Token.IsModifier]
      refine exists_congr fun t => and_congr_right fun _ => ⟨?_, And.right⟩
      rintro rfl
      exact ⟨hname, rfl⟩
    rw [Bool.eq_iff_iff, hnames, hnames, h]
  funext rules
  rw [chainOf, chainOf, hmode "bail" (.inl rfl), hmode "nullable" (.inr rfl)]

/-- The rules of a chain are those of the tokens that are not modifiers, in order. The modifiers set
the modes, wherever they stand. -/
theorem compileTokens_of_bare (h : HasBareModifiers tokens) :
    registry.compileTokens tokens =
      ((tokens.filter (¬·.IsModifier)).mapM registry.construct).map (chainOf tokens) := by
  induction tokens with
  | nil => rfl
  | cons token rest ih =>
    rw [compileTokens_cons, ih fun t ht => h t (List.mem_cons_of_mem _ ht)]
    by_cases hmodifier : token.IsModifier
    · have hbare := h token (List.mem_cons_self ..) hmodifier
      rw [addToken_of_isModifier hmodifier hbare,
        List.filter_cons_of_neg (by simpa using hmodifier)]
      cases (rest.filter (¬·.IsModifier)).mapM registry.construct with
      | error error => rfl
      | ok rules => exact congrArg Except.ok (chainOf_append [token] rest [] rules)
    · rw [addToken_of_not_isModifier hmodifier,
        List.filter_cons_of_pos (by simpa using hmodifier), List.mapM_cons]
      cases registry.construct token with
      | error error => rfl
      | ok rule =>
        cases (rest.filter (¬·.IsModifier)).mapM registry.construct with
        | error error => rfl
        | ok rules => exact congrArg Except.ok (chainOf_append [token] rest [rule] rules)

theorem hasBareModifiers_of_not_refuses (h : ∀ t ∈ tokens, ∀ error, ¬registry.Refuses t error) :
    HasBareModifiers tokens := by
  intro t ht hmodifier
  by_contra hargs
  exact h t ht _ (.inl ⟨hmodifier, hargs, rfl⟩)

theorem compileTokens_eq_ok_iff {chain : Chain} :
    registry.compileTokens tokens = .ok chain ↔
      (∀ t ∈ tokens, ∀ error, ¬registry.Refuses t error) ∧
        List.Forall₂ (fun token rule => registry.construct token = .ok rule)
          (tokens.filter (¬·.IsModifier)) chain.rules ∧
        (chain.bail = true ↔ ∃ t ∈ tokens, t.name = "bail") ∧
        (chain.nullable = true ↔ ∃ t ∈ tokens, t.name = "nullable") := by
  constructor
  · intro h
    have hnone := exists_compileTokens_eq_ok_iff.mp ⟨chain, h⟩
    rw [compileTokens_of_bare (hasBareModifiers_of_not_refuses hnone)] at h
    cases hrules : (tokens.filter (¬·.IsModifier)).mapM registry.construct with
    | error error => rw [hrules] at h; cases h
    | ok rules =>
      rw [hrules] at h
      cases h
      exact ⟨hnone, List.mapM_eq_ok_iff.mp hrules, by simp [chainOf], by simp [chainOf]⟩
  · rintro ⟨hnone, hrules, hbail, hnullable⟩
    rw [compileTokens_of_bare (hasBareModifiers_of_not_refuses hnone),
      List.mapM_eq_ok_iff.mpr hrules]
    obtain ⟨rules, bail, nullable⟩ := chain
    have hbail' : tokens.any (·.name = "bail") = bail := by
      rw [Bool.eq_iff_iff, hbail]
      simp
    have hnullable' : tokens.any (·.name = "nullable") = nullable := by
      rw [Bool.eq_iff_iff, hnullable]
      simp
    simp only [Except.map, chainOf, hbail', hnullable']

/-! ## Specifications with a bar between them -/

theorem compile_of_parseSpec {spec : String} (h : Token.parseSpec spec = .ok tokens) :
    registry.compile spec = registry.compileTokens tokens := by
  rw [compile, h]
  rfl

theorem exists_of_compile_eq_ok {spec : String} {chain : Chain}
    (h : registry.compile spec = .ok chain) :
    ∃ tokens, Token.parseSpec spec = .ok tokens ∧ registry.compileTokens tokens = .ok chain := by
  cases hspec : Token.parseSpec spec with
  | error error => rw [compile, hspec] at h; cases h
  | ok tokens => exact ⟨tokens, rfl, compile_of_parseSpec hspec ▸ h⟩

/-- Every rule of a compiled chain is that of a token of its specification. -/
theorem exists_token_of_mem_rules {spec : String} {chain : Chain}
    (h : registry.compile spec = .ok chain) {rule : Rule} (hrule : rule ∈ chain.rules) :
    ∃ tokens, Token.parseSpec spec = .ok tokens ∧
      ∃ token ∈ tokens, registry.construct token = .ok rule := by
  obtain ⟨tokens, hspec, hchain⟩ := exists_of_compile_eq_ok h
  obtain ⟨-, hrules, -⟩ := compileTokens_eq_ok_iff.mp hchain
  obtain ⟨token, htoken, hconstruct⟩ := hrules.exists_of_mem_right hrule
  exact ⟨tokens, hspec, token, (List.mem_filter.mp htoken).1, hconstruct⟩

theorem compile_append {spec other : String} {chain more : Chain}
    (h : registry.compile spec = .ok chain) (hother : registry.compile other = .ok more) :
    registry.compile (spec ++ "|" ++ other) = .ok (chain ++ more) := by
  obtain ⟨tokens, hspec, hchain⟩ := exists_of_compile_eq_ok h
  obtain ⟨others, hother, hmore⟩ := exists_of_compile_eq_ok hother
  rw [compile_of_parseSpec (Token.parseSpec_append hspec hother), compileTokens_append, hchain,
    hmore]
  rfl

theorem compile_intercalate {spec : String} {chain : Chain} {specs : List String}
    {chains : List Chain} (h : registry.compile spec = .ok chain)
    (hspecs : List.Forall₂ (fun s c => registry.compile s = .ok c) specs chains) :
    registry.compile ("|".intercalate (spec :: specs)) = .ok (chains.foldl (· ++ ·) chain) := by
  induction hspecs generalizing spec chain with
  | nil => exact h
  | cons hnext _ ih => exact ih (compile_append h hnext)

/-! ## Reserved names -/

theorem compileTokens_congr {other : Registry}
    (h : ∀ name, name ≠ "bail" → name ≠ "nullable" → registry.get? name = other.get? name)
    (tokens : List Token) : registry.compileTokens tokens = other.compileTokens tokens := by
  have hadd : registry.addToken = other.addToken := by
    funext chain token
    unfold addToken
    split
    · rfl
    · rename_i hname
      obtain ⟨hbail, hnullable⟩ := not_or.mp hname
      rw [construct, construct, h token.name hbail hnullable]
  rw [compileTokens, compileTokens, hadd]

/-- A compiler of tokens. It fails with the first token that is refused, and otherwise gives the
rules of the tokens in order and the modes that they name. It matters only which modifiers there
are, and not where they stand or how often; what a registry binds to their names does not matter. -/
structure IsCompiler (compile : Registry → List Token → Except SpecError Chain) : Prop where
  error_iff : ∀ registry tokens error, compile registry tokens = .error error ↔
    ∃ before token after, tokens = before ++ token :: after ∧
      (∀ t ∈ before, ∀ e, ¬registry.Refuses t e) ∧ registry.Refuses token error
  ok_iff : ∀ registry tokens chain, compile registry tokens = .ok chain ↔
    (∀ t ∈ tokens, ∀ error, ¬registry.Refuses t error) ∧
      List.Forall₂ (fun token rule => registry.construct token = .ok rule)
        (tokens.filter (¬·.IsModifier)) chain.rules ∧
      (chain.bail = true ↔ ∃ t ∈ tokens, t.name = "bail") ∧
      (chain.nullable = true ↔ ∃ t ∈ tokens, t.name = "nullable")
  free_placement : ∀ registry tokens others, HasBareModifiers tokens → HasBareModifiers others →
    tokens.filter (¬·.IsModifier) = others.filter (¬·.IsModifier) →
    (∀ name, (∃ t ∈ tokens, t.IsModifier ∧ t.name = name) ↔
      ∃ t ∈ others, t.IsModifier ∧ t.name = name) →
    compile registry tokens = compile registry others
  reserved : ∀ registry other : Registry,
    (∀ name, name ≠ "bail" → name ≠ "nullable" → registry.get? name = other.get? name) →
    ∀ tokens, compile registry tokens = compile other tokens

theorem isCompiler_compileTokens : IsCompiler compileTokens where
  error_iff registry tokens error := compileTokens_eq_error_iff
  ok_iff registry tokens chain := compileTokens_eq_ok_iff
  free_placement registry tokens others htokens hothers hfilter hnames := by
    rw [compileTokens_of_bare htokens, compileTokens_of_bare hothers, hfilter, chainOf_congr hnames]
  reserved registry other h := compileTokens_congr h

end Registry

end Conform
