import Conform.Number.Binary64
import Mathlib.Algebra.Order.Field.Power
import Mathlib.Data.Rat.Cast.Order
import Mathlib.Tactic.Ring

/-!
# Whole numbers as binary numbers

A whole number is rounded to 53 significant bits. Rounding keeps the order, and below `2 ^ 53` it
changes nothing; above, neighbours can become equal.
-/

namespace Conform.Binary64

/-! ## The nearest multiple -/

/-- No multiple of the denominator is nearer: the distance is at most half of it. -/
theorem nearest_spec (num : Nat) {den : Nat} (hden : 0 < den) :
    2 * (nearest num den * den) ≤ 2 * num + den ∧ 2 * num ≤ 2 * (nearest num den * den) + den := by
  have hdivision : den * (num / den) + num % den = num := Nat.div_add_mod num den
  have hremainder : num % den < den := Nat.mod_lt num hden
  have hnext : (num / den + 1) * den = den * (num / den) + den := by ring
  have hsame : num / den * den = den * (num / den) := Nat.mul_comm ..
  unfold nearest
  dsimp only
  split
  · omega
  · split
    · omega
    · obtain heven | hodd : num / den % 2 = 0 ∨ num / den % 2 = 1 := by omega
      · rw [heven, Nat.add_zero]
        omega
      · rw [hodd]
        omega

theorem nearest_mono {m n den : Nat} (hden : 0 < den) (h : m ≤ n) :
    nearest m den ≤ nearest n den := by
  by_contra hless
  -- a whole step down is more than the two distances together allow, unless the numbers are equal
  have hstep : (nearest n den + 1) * den ≤ nearest m den * den :=
    Nat.mul_le_mul_right den (by omega)
  have hm := (nearest_spec m hden).1
  have hn := (nearest_spec n hden).2
  have hexpand : (nearest n den + 1) * den = nearest n den * den + den := by ring
  have hequal : m = n := by omega
  subst hequal
  exact hless (Nat.le_refl _)

theorem nearest_mul (k : Nat) {den : Nat} (hden : 0 < den) : nearest (k * den) den = k := by
  simp [nearest, Nat.mul_div_cancel _ hden, hden]

@[simp] theorem nearest_one (n : Nat) : nearest n 1 = n := by
  simpa using nearest_mul n Nat.one_pos

theorem le_nearest {k num den : Nat} (hden : 0 < den) (h : k * den ≤ num) :
    k ≤ nearest num den := by
  have hmono := nearest_mono hden h
  rwa [nearest_mul k hden] at hmono

theorem nearest_le {k num den : Nat} (hden : 0 < den) (h : num ≤ k * den) :
    nearest num den ≤ k := by
  have hmono := nearest_mono hden h
  rwa [nearest_mul k hden] at hmono

/-! ## Rounding to 53 bits -/

/-- The weight of the last of the 53 bits that are kept; numbers with fewer bits are kept whole. -/
def lastBit (n : Nat) : Nat := 2 ^ (n.log2 - 52)

/-- The number with 53 significant bits that is nearest to a natural number; a tie goes to the even
significand. -/
def roundNat (n : Nat) : Nat := nearest n (lastBit n) * lastBit n

/-- The number with 53 significant bits that is nearest to a whole number. -/
def rounded (n : Int) : Int := n.sign * roundNat n.natAbs

theorem lastBit_pos (n : Nat) : 0 < lastBit n := Nat.two_pow_pos _

/-- Rounding stays between the powers of two around a number. -/
theorem roundNat_bounds {n : Nat} (hn : n ≠ 0) :
    2 ^ n.log2 ≤ roundNat n ∧ roundNat n ≤ 2 ^ (n.log2 + 1) := by
  have hlow : 2 ^ n.log2 ≤ n := Nat.log2_self_le hn
  have hhigh : n < 2 ^ (n.log2 + 1) := Nat.lt_log2_self
  rw [roundNat, lastBit]
  by_cases hbits : 52 ≤ n.log2
  · have hpos : 0 < 2 ^ (n.log2 - 52) := Nat.two_pow_pos _
    have hfirst : 2 ^ n.log2 = 2 ^ 52 * 2 ^ (n.log2 - 52) := by
      rw [← pow_add, Nat.add_sub_cancel' hbits]
    have hlast : 2 ^ (n.log2 + 1) = 2 ^ 53 * 2 ^ (n.log2 - 52) := by
      rw [← pow_add]
      congr 1
      omega
    constructor
    · rw [hfirst] at hlow ⊢
      exact Nat.mul_le_mul_right _ (le_nearest hpos hlow)
    · rw [hlast] at hhigh ⊢
      exact Nat.mul_le_mul_right _ (nearest_le hpos hhigh.le)
  · rw [Nat.sub_eq_zero_of_le (by omega), pow_zero, nearest_one, Nat.mul_one]
    exact ⟨hlow, hhigh.le⟩

@[simp] theorem roundNat_zero : roundNat 0 = 0 := rfl

theorem roundNat_mono {m n : Nat} (h : m ≤ n) : roundNat m ≤ roundNat n := by
  by_cases hm : m = 0
  · rw [hm, roundNat_zero]
    exact Nat.zero_le _
  have hn : n ≠ 0 := by omega
  have hlog : m.log2 ≤ n.log2 := (Nat.le_log2 hn).mpr ((Nat.log2_self_le hm).trans h)
  obtain hless | hequal := Nat.lt_or_eq_of_le hlog
  · -- a power of two lies between them
    calc roundNat m ≤ 2 ^ (m.log2 + 1) := (roundNat_bounds hm).2
      _ ≤ 2 ^ n.log2 := Nat.pow_le_pow_right (by decide) hless
      _ ≤ roundNat n := (roundNat_bounds hn).1
  · have hbit : lastBit m = lastBit n := by rw [lastBit, lastBit, hequal]
    rw [roundNat, roundNat, hbit]
    exact Nat.mul_le_mul_right _ (nearest_mono (lastBit_pos n) h)

/-- Numbers with at most 53 bits are kept. -/
theorem roundNat_of_lt {n : Nat} (h : n < 2 ^ 53) : roundNat n = n := by
  by_cases hn : n = 0
  · rw [hn, roundNat_zero]
  · have hlog : n.log2 < 53 := (Nat.log2_lt hn).mpr h
    rw [roundNat, lastBit, Nat.sub_eq_zero_of_le (by omega), pow_zero, nearest_one, Nat.mul_one]

theorem rounded_mono {m n : Int} (h : m ≤ n) : rounded m ≤ rounded n := by
  unfold rounded
  obtain hm | rfl | hm := Int.lt_trichotomy m 0
  · rw [Int.sign_eq_neg_one_of_neg hm]
    obtain hn | rfl | hn := Int.lt_trichotomy n 0
    · rw [Int.sign_eq_neg_one_of_neg hn]
      have hmono := roundNat_mono (show n.natAbs ≤ m.natAbs by omega)
      omega
    · simp
    · rw [Int.sign_eq_one_of_pos hn]
      omega
  · have hn : 0 ≤ n.sign := Int.sign_nonneg_iff.mpr h
    simpa using Int.mul_nonneg hn (Int.natCast_nonneg _)
  · rw [Int.sign_eq_one_of_pos hm, Int.sign_eq_one_of_pos (by omega)]
    have hmono := roundNat_mono (show m.natAbs ≤ n.natAbs by omega)
    omega

/-- Rounding can mislead a comparison only by making numbers equal. -/
theorem rounded_le_iff {m n : Int} (h : rounded m = rounded n → m ≤ n) :
    rounded m ≤ rounded n ↔ m ≤ n := by
  refine ⟨fun hle => ?_, rounded_mono⟩
  by_contra hless
  have hge := rounded_mono (Int.not_le.mp hless).le
  exact hless (h (le_antisymm hle hge))

theorem rounded_of_lt {n : Int} (h : n.natAbs < 2 ^ 53) : rounded n = n := by
  rw [rounded, roundNat_of_lt h]
  exact Int.sign_mul_natAbs n

/-- A number with at most 53 bits is what no other number is rounded to. -/
theorem eq_of_rounded_eq {m n : Int} (hm : m.natAbs < 2 ^ 53) (h : rounded m = rounded n) :
    m = n := by
  by_cases hn : n.natAbs < 2 ^ 53
  · rwa [rounded_of_lt hm, rounded_of_lt hn] at h
  · have hlarge : 2 ^ 53 ≤ roundNat n.natAbs := by
      have hmono := roundNat_mono (Nat.le_of_not_lt hn)
      have hpower : roundNat (2 ^ 53) = 2 ^ 53 := by decide
      rwa [hpower] at hmono
    rw [rounded_of_lt hm] at h
    have habs : m.natAbs = n.sign.natAbs * roundNat n.natAbs := by
      rw [h, rounded, Int.natAbs_mul, Int.natAbs_natCast]
    have hsign : n.sign.natAbs = 1 := by
      rw [Int.natAbs_sign, if_neg (by omega)]
    rw [hsign, Nat.one_mul] at habs
    omega

/-! ## The numbers that are held -/

theorem power_natCast (base n : Nat) : power base n = (base ^ n, 1) := by
  simp [power]

theorem power_neg_natCast (base n : Nat) : power base (-n) = (1, base ^ n) := by
  simp [power]

/-- The quotient of the two naturals is the power. -/
theorem power_two_div (exponent : Int) :
    ((power 2 exponent).1 : ℚ) / (power 2 exponent).2 = 2 ^ exponent := by
  obtain ⟨n, rfl | rfl⟩ := Int.eq_nat_or_neg exponent
  · simp [power_natCast]
  · simp [power_neg_natCast]

theorem ratio_eq (negative : Bool) (significand : Nat) (exponent : Int) :
    ratio negative significand exponent =
      (if negative then -1 else 1) * (significand * 2 ^ exponent) := by
  rw [ratio, ← power_two_div]
  dsimp only
  rw [Rat.mkRat_eq_div]
  push_cast
  rw [mul_div_assoc, mul_div_assoc]

/-- The first guess is right: a whole number is not below the power of two of its own length. -/
theorem exponentFor_one {n : Nat} (hn : n ≠ 0) : exponentFor n 1 = n.log2 - 52 := by
  have hlow : 2 ^ n.log2 ≤ n := Nat.log2_self_le hn
  have hguess : ¬n * (power 2 ((n.log2 : Int) - 53)).2 <
      significandBound * (1 * (power 2 ((n.log2 : Int) - 53)).1) := by
    obtain ⟨k, hk⟩ | ⟨k, hk⟩ : (∃ k : Nat, n.log2 = 53 + k) ∨ ∃ k : Nat, 53 = n.log2 + k := by
      obtain h | h := Nat.le_total 53 n.log2
      · exact .inl (Nat.exists_eq_add_of_le h)
      · exact .inr (Nat.exists_eq_add_of_le h)
    · have hcast : (n.log2 : Int) - 53 = k := by omega
      rw [hcast, power_natCast]
      rw [hk, pow_add] at hlow
      simp only [significandBound]
      omega
    · have hcast : (n.log2 : Int) - 53 = -k := by omega
      rw [hcast, power_neg_natCast]
      have hscaled : 2 ^ n.log2 * 2 ^ k ≤ n * 2 ^ k := Nat.mul_le_mul_right _ hlow
      rw [← pow_add, ← hk] at hscaled
      simp only [significandBound]
      omega
  have hlog : (Nat.log2 1 : Int) = 0 := rfl
  have hexponent : (n.log2 : Int) - 0 - 52 - 1 = n.log2 - 53 := by omega
  rw [exponentFor, hlog, hexponent]
  dsimp only
  rw [if_neg hguess]
  omega

/-- The significand that is held stands for the rounded number. -/
theorem nearest_mul_two_zpow (n : Nat) :
    (nearest (n * (power 2 ((n.log2 : Int) - 52)).2) (1 * (power 2 ((n.log2 : Int) - 52)).1) : ℚ) *
      2 ^ ((n.log2 : Int) - 52) = roundNat n := by
  obtain hbits | hbits := Nat.le_total 52 n.log2
  · obtain ⟨k, hk⟩ := Nat.exists_eq_add_of_le hbits
    have hcast : (n.log2 : Int) - 52 = k := by omega
    have hlast : lastBit n = 2 ^ k := by rw [lastBit, hk, Nat.add_sub_cancel_left]
    rw [hcast, power_natCast, roundNat, hlast]
    simp
  · obtain ⟨k, hk⟩ := Nat.exists_eq_add_of_le hbits
    have hcast : (n.log2 : Int) - 52 = -k := by omega
    have hlast : lastBit n = 1 := by rw [lastBit, Nat.sub_eq_zero_of_le hbits, pow_zero]
    rw [hcast, power_neg_natCast, roundNat, hlast]
    simp

/-- A whole number in reach of the format is held as the rounded number. -/
theorem toRat?_ofQuotient_one (negative : Bool) {n : Nat} (hn : n ≠ 0) (hlog : n.log2 ≤ 1000) :
    (ofQuotient negative n 1).toRat? =
      some ((if negative then -1 else 1) * (roundNat n : ℚ)) := by
  have hvalue := nearest_mul_two_zpow n
  rw [ofQuotient, if_neg hn, exponentFor_one hn]
  dsimp only
  generalize nearest _ _ = significand at hvalue
  split
  · rename_i hcarry
    -- the significand has grown to 54 bits, of which the last is zero
    have hhalf : ((significandBound / 2 : Nat) : ℚ) * 2 = significandBound := by
      norm_num [significandBound]
    rw [if_neg (by omega), toRat?, ratio_eq, ← hvalue, hcarry, ← hhalf]
    dsimp only
    rw [zpow_add_one₀ two_ne_zero, mul_comm _ (2 : ℚ), mul_assoc]
  · rw [if_neg (by omega), toRat?, ratio_eq, hvalue]

theorem toRat?_ofInt {n : Int} (hlog : n.natAbs.log2 ≤ 1000) :
    (ofInt n).toRat? = some (rounded n : ℚ) := by
  by_cases hn : n = 0
  · have hzero : ofInt 0 = .finite false 0 (-1074) := rfl
    rw [hn, hzero, toRat?, ratio_eq]
    simp [rounded]
  · rw [ofInt, toRat?_ofQuotient_one _ (by omega) hlog, rounded]
    obtain hneg | hpos : n < 0 ∨ 0 < n := by omega
    · simp [hneg, Int.sign_eq_neg_one_of_neg hneg]
    · simp [Int.not_lt.mpr hpos.le, Int.sign_eq_one_of_pos hpos]

theorem le_iff_of_toRat? {a b : Binary64} {x y : ℚ} (ha : a.toRat? = some x)
    (hb : b.toRat? = some y) : a.le b = true ↔ x ≤ y := by
  cases a with
  | finite negative significand exponent =>
    cases b with
    | finite negative' significand' exponent' =>
      cases ha
      cases hb
      rw [le, decide_eq_true_iff]
    | nan | infinite => cases hb
  | nan | infinite => cases ha

/-- Whole numbers are compared as what they are rounded to. -/
theorem le_ofInt_iff {m n : Int} (hm : m.natAbs.log2 ≤ 1000) (hn : n.natAbs.log2 ≤ 1000) :
    (ofInt m).le (ofInt n) = true ↔ rounded m ≤ rounded n := by
  rw [le_iff_of_toRat? (toRat?_ofInt hm) (toRat?_ofInt hn)]
  exact_mod_cast Iff.rfl

theorem same_ofInt_iff {m n : Int} (hm : m.natAbs.log2 ≤ 1000) (hn : n.natAbs.log2 ≤ 1000) :
    (ofInt m).same (ofInt n) = true ↔ rounded m = rounded n := by
  rw [same, Bool.and_eq_true, le_ofInt_iff hm hn, le_ofInt_iff hn hm]
  omega

end Conform.Binary64
