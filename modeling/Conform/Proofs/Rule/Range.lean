import Conform.Proofs.Rule.Size

/-!
# Ranges

The size rules agree with each other. A range is what its two bounds say, an exact size is a range
of one number, and a range is refused when it is declared just if no value could lie in it. The
bounds are compared as they are held, so it does not matter how their texts are rounded.
-/

namespace Conform

/-! ## Finite numbers -/

namespace Binary64

variable {x y z : Binary64}

theorem IsFinite.le_refl (h : x.IsFinite) : x.le x = true := by
  cases x with
  | finite negative significand exponent => rw [le, decide_eq_true_iff]
  | nan | infinite => cases h

/-- What lies between finite numbers is finite. -/
theorem IsFinite.le_trans (hx : x.IsFinite) (hz : z.IsFinite) (hxy : x.le y = true)
    (hyz : y.le z = true) : x.le z = true := by
  cases x with
  | nan | infinite => cases hx
  | finite =>
    cases z with
    | nan | infinite => cases hz
    | finite =>
      cases y with
      | nan => cases hxy
      | infinite negative =>
        cases negative with
        | true => cases hxy
        | false => cases hyz
      | finite =>
        rw [le, decide_eq_true_iff] at hxy hyz ⊢
        exact hxy.trans hyz

theorem isFinite_of_toRat? {q : ℚ} (h : x.toRat? = some q) : x.IsFinite := by
  cases x with
  | finite => trivial
  | nan | infinite => cases h

end Binary64

namespace Argument

variable {argument : Argument}

theorem isSigned64_of_reading {n : Int} (h : argument.reading = .int n) : Number.IsSigned64 n := by
  unfold reading at h
  split at h
  · rename_i m hm
    cases h
    exact of_decide_eq_true (Option.filter_eq_some_iff.mp hm).2
  · split at h <;> cases h

theorem isFinite_of_reading {x : Binary64} (h : argument.reading = .real x) : x.IsFinite := by
  unfold reading at h
  split at h
  · cases h
  · split at h
    · rename_i y hy
      cases h
      exact of_decide_eq_true (Option.filter_eq_some_iff.mp hy).2
    · cases h

/-- The number that an argument denotes is finite. -/
theorem isFinite_of_number? {x : Binary64} (h : argument.number? = some x) : x.IsFinite := by
  rw [number?] at h
  cases hreading : argument.reading with
  | int n =>
    rw [hreading] at h
    cases h
    have hheld : Number.IsHeld n := .inl (isSigned64_of_reading hreading)
    exact Binary64.isFinite_of_toRat? (Binary64.toRat?_ofInt hheld.log2_le)
  | real y =>
    rw [hreading] at h
    cases h
    exact isFinite_of_reading hreading
  | text =>
    rw [hreading] at h
    cases h

end Argument

/-! ## Rules -/

namespace Rule

variable {low high exact : Binary64} {field : String} {value tree : Value}

theorem apply_between_eq_ok_iff :
    (between low high).apply field (some value) tree = .ok () ↔
      ∃ measured, value.measure? = some measured ∧ low.le measured.1 = true ∧
        measured.1.le high = true := by
  unfold between
  simp only [apply_ofSize_eq_ok_iff, Bool.and_eq_true]

theorem apply_min_and_max_iff :
    (min low).apply field (some value) tree = .ok () ∧
        (max high).apply field (some value) tree = .ok () ↔
      (between low high).apply field (some value) tree = .ok () := by
  unfold min max
  simp only [apply_ofSize_eq_ok_iff, apply_between_eq_ok_iff]
  constructor
  · rintro ⟨⟨measured, hmeasure, hlow⟩, other, hother, hhigh⟩
    rw [hmeasure] at hother
    cases hother
    exact ⟨measured, hmeasure, hlow, hhigh⟩
  · rintro ⟨measured, hmeasure, hlow, hhigh⟩
    exact ⟨⟨measured, hmeasure, hlow⟩, measured, hmeasure, hhigh⟩

theorem apply_size_eq_ok_iff :
    (size exact).apply field (some value) tree = .ok () ↔
      (between exact exact).apply field (some value) tree = .ok () := by
  unfold size between
  simp only [apply_ofSize_eq_ok_iff, Binary64.same, Bool.and_comm]

end Rule

/-! ## Specifications -/

namespace Registry

/-- The specification compiles against the built-in registry. -/
def Compiles (spec : String) : Prop := ∃ chain, builtin.compile spec = .ok chain

/-- The specification compiles, and its chain finds nothing wrong with the value of the field. -/
def Accepts (spec field : String) (value tree : Value) : Prop :=
  ∃ chain, builtin.compile spec = .ok chain ∧ chain.messages field (some value) tree = .ok []

/-- A value between two bounds. -/
def betweenSpec (low high : String) : String := "between:" ++ low ++ "," ++ high

/-- Two bounds, one after the other. -/
def boundsSpec (low high : String) : String := "min:" ++ low ++ "|max:" ++ high

theorem accepts_iff_of_compile {spec : String} {rules : List Rule}
    (h : builtin.compile spec = .ok { rules }) {field : String} {value tree : Value} :
    Accepts spec field value tree ↔
      ∀ rule ∈ rules, rule.apply field (some value) tree = .ok () := by
  have hmessages : ({ rules } : Chain).messages field (some value) tree = .ok [] ↔
      ∀ rule ∈ rules, rule.apply field (some value) tree = .ok () := Chain.messages_eq_nil_iff rfl
  rw [Accepts, ← hmessages, h]
  simp

section

variable {low high text : String}

theorem compile_betweenSpec_eq_ok_iff (hlow : ',' ∉ low.toList ∧ '|' ∉ low.toList)
    (hhigh : ',' ∉ high.toList ∧ '|' ∉ high.toList) {chain : Chain} :
    builtin.compile (betweenSpec low high) = .ok chain ↔
      ∃ x y, (⟨low⟩ : Argument).number? = some x ∧ (⟨high⟩ : Argument).number? = some y ∧
        x.le y = true ∧ { rules := [.between x y] } = chain :=
  compile_between_eq_ok_iff hlow hhigh

theorem compiles_betweenSpec_iff {x y : Binary64} (hlow : ',' ∉ low.toList ∧ '|' ∉ low.toList)
    (hhigh : ',' ∉ high.toList ∧ '|' ∉ high.toList) (hx : (⟨low⟩ : Argument).number? = some x)
    (hy : (⟨high⟩ : Argument).number? = some y) :
    Compiles (betweenSpec low high) ↔ x.le y = true := by
  rw [Compiles]
  simp [compile_betweenSpec_eq_ok_iff hlow hhigh, hx, hy]

/-- Two bounds compile when both are numbers, also if no number lies between them. -/
theorem compile_boundsSpec {x y : Binary64} (hlow : ',' ∉ low.toList ∧ '|' ∉ low.toList)
    (hhigh : ',' ∉ high.toList ∧ '|' ∉ high.toList) (hx : (⟨low⟩ : Argument).number? = some x)
    (hy : (⟨high⟩ : Argument).number? = some y) :
    builtin.compile (boundsSpec low high) = .ok { rules := [.min x, .max y] } := by
  have hspec : boundsSpec low high = "min:" ++ low ++ "|" ++ ("max:" ++ high) := by
    have hbar : "|max:" = "|" ++ "max:" := rfl
    simp only [boundsSpec, hbar, String.append_assoc]
  have hmin := (compile_min_eq_ok_iff hlow).mpr ⟨x, hx, rfl⟩
  have hmax := (compile_max_eq_ok_iff hhigh).mpr ⟨y, hy, rfl⟩
  rw [hspec, compile_append hmin hmax]
  rfl

theorem accepts_boundsSpec_iff {x y : Binary64}
    (h : builtin.compile (boundsSpec low high) = .ok { rules := [.min x, .max y] })
    {field : String} {value tree : Value} :
    Accepts (boundsSpec low high) field value tree ↔
      (Rule.between x y).apply field (some value) tree = .ok () := by
  rw [accepts_iff_of_compile h, List.forall_mem_cons, List.forall_mem_singleton]
  exact Rule.apply_min_and_max_iff

end

/-! ## Agreement -/

/-- The size rules with these texts as bounds agree. Whether a specification compiles is told apart
from what its chain accepts. -/
structure SizesAgree (low high : String) : Prop where
  between_bounds : Compiles (betweenSpec low high) →
    Compiles (boundsSpec low high) ∧ ∀ field value tree,
      Accepts (betweenSpec low high) field value tree ↔
        Accepts (boundsSpec low high) field value tree
  between_size : Compiles ("size:" ++ low) →
    Compiles (betweenSpec low low) ∧ ∀ field value tree,
      Accepts (betweenSpec low low) field value tree ↔ Accepts ("size:" ++ low) field value tree
  /-- A range that is refused is one in which no value lies, and the other way round. -/
  reversed_iff : Compiles ("min:" ++ low) → Compiles ("max:" ++ high) →
    Compiles (boundsSpec low high) ∧
      (¬Compiles (betweenSpec low high) ↔
        ∀ field value tree, ¬Accepts (boundsSpec low high) field value tree)

theorem sizesAgree {low high : String} (hlow : ',' ∉ low.toList ∧ '|' ∉ low.toList)
    (hhigh : ',' ∉ high.toList ∧ '|' ∉ high.toList) : SizesAgree low high := by
  constructor
  case between_bounds =>
    rintro ⟨_, hbetween⟩
    obtain ⟨x, y, hx, hy, -, rfl⟩ := (compile_betweenSpec_eq_ok_iff hlow hhigh).mp hbetween
    have hbounds := compile_boundsSpec hlow hhigh hx hy
    refine ⟨⟨_, hbounds⟩, fun field value tree => ?_⟩
    rw [accepts_iff_of_compile hbetween, List.forall_mem_singleton, accepts_boundsSpec_iff hbounds]
  case between_size =>
    rintro ⟨_, hsize⟩
    obtain ⟨x, hx, rfl⟩ := (compile_size_eq_ok_iff hlow).mp hsize
    have hle := (Argument.isFinite_of_number? hx).le_refl
    have hbetween := (compile_betweenSpec_eq_ok_iff hlow hlow).mpr ⟨x, x, hx, hx, hle, rfl⟩
    refine ⟨⟨_, hbetween⟩, fun field value tree => ?_⟩
    rw [accepts_iff_of_compile hbetween, accepts_iff_of_compile hsize, List.forall_mem_singleton,
      List.forall_mem_singleton]
    exact Rule.apply_size_eq_ok_iff.symm
  case reversed_iff =>
    rintro ⟨_, hmin⟩ ⟨_, hmax⟩
    obtain ⟨x, hx, rfl⟩ := (compile_min_eq_ok_iff hlow).mp hmin
    obtain ⟨y, hy, rfl⟩ := (compile_max_eq_ok_iff hhigh).mp hmax
    have hbounds := compile_boundsSpec hlow hhigh hx hy
    rw [compiles_betweenSpec_iff hlow hhigh hx hy]
    refine ⟨⟨_, hbounds⟩, fun hreversed field value tree haccepts => ?_, fun hnone hle => ?_⟩
    · rw [accepts_boundsSpec_iff hbounds, Rule.apply_between_eq_ok_iff] at haccepts
      obtain ⟨measured, -, hfrom, hto⟩ := haccepts
      exact hreversed ((Argument.isFinite_of_number? hx).le_trans (Argument.isFinite_of_number? hy)
        hfrom hto)
    · -- the lower bound itself lies in the range
      refine hnone "" (.num (.real x)) .null ?_
      rw [accepts_boundsSpec_iff hbounds, Rule.apply_between_eq_ok_iff]
      exact ⟨(x, ""), rfl, (Argument.isFinite_of_number? hx).le_refl, hle⟩

theorem sizesAgree_of_reversed_bounds :
    let low := "1e2"
    let high := "99.5"
    (',' ∉ low.toList ∧ '|' ∉ low.toList) ∧ (',' ∉ high.toList ∧ '|' ∉ high.toList) ∧
      SizesAgree low high ∧
      ∀ field value tree, ¬Accepts (boundsSpec low high) field value tree := by
  intro low high
  have hlow : ',' ∉ low.toList ∧ '|' ∉ low.toList := by decide
  have hhigh : ',' ∉ high.toList ∧ '|' ∉ high.toList := by decide
  have hx : (⟨low⟩ : Argument).number? = some (.finite false 7036874417766400 (-46)) := by
    decide +kernel
  have hy : (⟨high⟩ : Argument).number? = some (.finite false 7001690045677568 (-46)) := by
    decide +kernel
  have hagree := sizesAgree hlow hhigh
  have hmin : Compiles ("min:" ++ low) := ⟨_, (compile_min_eq_ok_iff hlow).mpr ⟨_, hx, rfl⟩⟩
  have hmax : Compiles ("max:" ++ high) := ⟨_, (compile_max_eq_ok_iff hhigh).mpr ⟨_, hy, rfl⟩⟩
  have hreversed : ¬Compiles (betweenSpec low high) := fun hcompiles =>
    absurd ((compiles_betweenSpec_iff hlow hhigh hx hy).mp hcompiles) (by decide +kernel)
  exact ⟨hlow, hhigh, hagree, (hagree.reversed_iff hmin hmax).2.mp hreversed⟩

end Registry

end Conform
