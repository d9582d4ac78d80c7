import Mathlib.Algebra.Order.Field.Power
import TypeRegistry.Proofs.Number.Interval

/-!
# Doubles as they are built

The exponent of the double nearest to a fraction is chosen from the lengths of numerator and
denominator, and raised by one if that leaves too many digits.  So the mantissa has 53 bits, or fewer
and the exponent is the least one, and where it is rounded up to 54 bits it is halved.

Main results:

- Theorem `exponentFor_spec`: the size of a fraction in units of the power of two that is chosen.
- Theorem `ofRatio_isCanonical`, `ofDecimal_isCanonical`: the doubles nearest to fractions and
  decimals are canonical.
-/

namespace TypeRegistry.Double

/-- A fraction lies between the powers of two that the lengths of its two numbers give. -/
theorem ratio_between_powers {num den : Nat} (hnum : 0 < num) (hden : 0 < den) :
    (2 : ℚ) ^ ((Nat.log2 num : Int) - Nat.log2 den - 1) ≤ num / den ∧
      (num : ℚ) / den < 2 ^ ((Nat.log2 num : Int) - Nat.log2 den + 1) := by
  have hbetween {n : Nat} (hpos : 0 < n) :
      (2 : ℚ) ^ (Nat.log2 n : Int) ≤ n ∧ (n : ℚ) < 2 ^ ((Nat.log2 n : Int) + 1) := by
    constructor
    · rw [zpow_natCast]
      exact_mod_cast Nat.log2_self_le hpos.ne'
    · have hlt : n < 2 ^ (Nat.log2 n + 1) := Nat.lt_log2_self
      exact_mod_cast hlt
  obtain ⟨hlow, hhigh⟩ := hbetween hnum
  obtain ⟨hlow', hhigh'⟩ := hbetween hden
  have hdenQ : (0 : ℚ) < den := by exact_mod_cast hden
  constructor
  · rw [le_div_iff₀ hdenQ]
    calc (2 : ℚ) ^ ((Nat.log2 num : Int) - Nat.log2 den - 1) * den
        ≤ 2 ^ ((Nat.log2 num : Int) - Nat.log2 den - 1) * 2 ^ ((Nat.log2 den : Int) + 1) := by
          gcongr
      _ = 2 ^ (Nat.log2 num : Int) := by
          rw [← zpow_add₀ two_ne_zero]
          congr 1
          omega
      _ ≤ num := hlow
  · rw [div_lt_iff₀ hdenQ]
    calc (num : ℚ) < 2 ^ ((Nat.log2 num : Int) + 1) := hhigh
      _ = 2 ^ ((Nat.log2 num : Int) - Nat.log2 den + 1) * 2 ^ (Nat.log2 den : Int) := by
          rw [← zpow_add₀ two_ne_zero]
          congr 1
          omega
      _ ≤ 2 ^ ((Nat.log2 num : Int) - Nat.log2 den + 1) * den := by gcongr

/-- In units of the power of two that is chosen a fraction has 53 bits, or fewer and the power is
the least one. -/
theorem exponentFor_spec {num den : Nat} (hnum : 0 < num) (hden : 0 < den) :
    leastExponent ≤ exponentFor num den ∧
      (num : ℚ) / den / 2 ^ exponentFor num den < 2 ^ 53 ∧
      (2 ^ 52 ≤ (num : ℚ) / den / 2 ^ exponentFor num den ∨
        exponentFor num den = leastExponent) := by
  obtain ⟨hlow, hhigh⟩ := ratio_between_powers hnum hden
  have htest (guess : Int) : (scaleDown num den guess).1 / (scaleDown num den guess).2 <
      Nat.pow 2 53 ↔ (num : ℚ) / den / 2 ^ guess < 2 ^ 53 := by
    obtain ⟨hpos, hvalue⟩ := scaleDown_spec num hden guess
    rw [Nat.div_lt_iff_lt_mul hpos, ← hvalue, div_lt_iff₀ (by exact_mod_cast hpos)]
    exact_mod_cast Iff.rfl
  rw [exponentFor]
  simp only [htest]
  split
  next hsmall =>
    refine ⟨le_max_left _ _, hsmall, ?_⟩
    rcases max_cases leastExponent ((Nat.log2 num : Int) - (Nat.log2 den : Int) - 53) with
      ⟨hguess, -⟩ | ⟨hguess, -⟩
    · exact .inr hguess
    · rw [hguess]
      left
      rw [le_div_iff₀ (zpow_pos two_pos _)]
      calc (2 : ℚ) ^ 52 * 2 ^ ((Nat.log2 num : Int) - Nat.log2 den - 53)
          = 2 ^ ((Nat.log2 num : Int) - Nat.log2 den - 1) := by
            rw [← zpow_natCast, ← zpow_add₀ two_ne_zero]
            congr 1
            push_cast
            omega
        _ ≤ num / den := hlow
  next hlarge =>
    have hguess := le_max_left leastExponent ((Nat.log2 num : Int) - (Nat.log2 den : Int) - 53)
    have hlog := le_max_right leastExponent ((Nat.log2 num : Int) - (Nat.log2 den : Int) - 53)
    generalize max leastExponent ((Nat.log2 num : Int) - (Nat.log2 den : Int) - 53) = guess at *
    have hpow : (0 : ℚ) < 2 ^ guess := zpow_pos two_pos _
    rw [not_lt, le_div_iff₀ hpow] at hlarge
    have hnext : (2 : ℚ) ^ (guess + 1) = 2 ^ guess * 2 := zpow_add_one₀ two_ne_zero guess
    refine ⟨by omega, ?_, .inl ?_⟩
    · rw [div_lt_iff₀ (by positivity)]
      calc (num : ℚ) / den < 2 ^ ((Nat.log2 num : Int) - Nat.log2 den + 1) := hhigh
        _ ≤ 2 ^ (53 + (guess + 1)) := zpow_le_zpow_right₀ one_le_two (by omega)
        _ = 2 ^ 53 * 2 ^ (guess + 1) := by
          rw [zpow_add₀ two_ne_zero]
          norm_num
    · rw [le_div_iff₀ (by positivity), hnext]
      linarith

/-- The double nearest to a fraction is canonical. -/
theorem ofRatio_isCanonical (negative : Bool) (num : Nat) {den : Nat} (hden : 0 < den) :
    (ofRatio negative num den).IsCanonical := by
  rw [ofRatio]
  split
  next => exact ⟨by norm_num, le_refl _, by decide, .inr rfl⟩
  next hnum =>
    obtain ⟨hleast, hhigh, hlow⟩ := exponentFor_spec (Nat.pos_of_ne_zero hnum) hden
    obtain ⟨hpos, hvalue⟩ := scaleDown_spec num hden (exponentFor num den)
    have hposQ : (0 : ℚ) < (scaleDown num den (exponentFor num den)).2 := by exact_mod_cast hpos
    rw [← hvalue] at hhigh hlow
    rw [div_lt_iff₀ hposQ] at hhigh
    rw [le_div_iff₀ hposQ] at hlow
    norm_cast at hhigh hlow
    rw [← Nat.div_lt_iff_lt_mul hpos] at hhigh
    rw [← Nat.le_div_iff_mul_le hpos] at hlow
    have hrounded := roundHalfEven_cases (scaleDown num den (exponentFor num den)).1
      (scaleDown num den (exponentFor num den)).2
    have hfinite {mantissa : Nat} {exponent : Int} (hbits : mantissa < 2 ^ 53)
        (hexponent : leastExponent ≤ exponent)
        (hfull : 2 ^ 52 ≤ mantissa ∨ exponent = leastExponent) :
        (if greatestExponent < exponent then infinity negative
          else finite negative mantissa exponent).IsCanonical := by
      split
      next => trivial
      next hgreatest => exact ⟨hbits, hexponent, not_lt.1 hgreatest, hfull⟩
    simp only [Nat.pow_eq]
    split
    next => exact hfinite (by norm_num) (by omega) (.inl le_rfl)
    next hcarry => exact hfinite (by omega) hleast (hlow.imp_left fun hlow => by omega)

/-- The double nearest to a decimal is canonical. -/
theorem ofDecimal_isCanonical (negative : Bool) (digits : Nat) (exponent : Int) :
    (ofDecimal negative digits exponent).IsCanonical := by
  have hzero : (finite negative 0 leastExponent).IsCanonical :=
    ⟨by norm_num, le_rfl, by decide, .inr rfl⟩
  simp only [ofDecimal]
  split
  next => exact hzero
  next =>
    split
    next => trivial
    next =>
      split
      next => exact hzero
      next =>
        split
        next => exact ofRatio_isCanonical negative digits (Nat.pow_pos (by decide))
        next => exact ofRatio_isCanonical negative _ Nat.one_pos

end TypeRegistry.Double
