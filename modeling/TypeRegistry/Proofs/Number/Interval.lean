import Mathlib.Data.Nat.Cast.Order.Field
import Mathlib.Tactic.Linarith
import Mathlib.Tactic.Positivity
import Mathlib.Tactic.Ring
import TypeRegistry.Number.Shortest

/-!
# The reals that round to a double

A double is written by a decimal that rounds to it.  What rounds to a double lies in an interval
around it, which reaches half way to the next doubles; the ends belong to it if the mantissa is
even.  The intervals of two doubles have no point in common, so a decimal that rounds to a double
rounds to no other.

The search for a decimal goes through seventeen grids, from coarse to fine, and takes the nearest
point of the last one without a test.  It need not be tested: a grid of seventeen digits is fine
enough for the nearest point to lie in the interval of every double.

Main results:

- Definition `IsCanonical`: a double as it is built, with 53 bits or the least exponent.
- Definition `InInterval`: a rational rounds to a double.
- Theorem `roundsBack_iff`: the test of a decimal.
- Theorem `InInterval.unique`: a rational rounds to one double.
- Theorem `shortestDigits_inInterval`: the decimal that is found rounds to the double.
-/

namespace TypeRegistry.Double

/-- A double is canonical if it is infinite or not a number, or its mantissa has 53 bits, or fewer
and the exponent is the least one. -/
def IsCanonical : Double → Prop
  | finite _ mantissa exponent =>
    mantissa < 2 ^ 53 ∧ leastExponent ≤ exponent ∧ exponent ≤ greatestExponent ∧
      (2 ^ 52 ≤ mantissa ∨ exponent = leastExponent)
  | _ => True

/-- A whole number in units of a power of ten. -/
def decimal (digits : Nat) (place : Int) : ℚ :=
  digits * (10 : ℚ) ^ place

/-! ## Fractions -/

/-- A fraction that is divided by a power of two. -/
theorem scaleDown_spec (num : Nat) {den : Nat} (hden : 0 < den) (exponent : Int) :
    0 < (scaleDown num den exponent).2 ∧
      ((scaleDown num den exponent).1 : ℚ) / (scaleDown num den exponent).2 =
        num / den / (2 : ℚ) ^ exponent := by
  rw [scaleDown]
  split
  next hneg =>
    refine ⟨hden, ?_⟩
    obtain ⟨places, rfl⟩ : ∃ places : Nat, exponent = -places := ⟨(-exponent).toNat, by omega⟩
    simp only [Nat.pow_eq, neg_neg, Int.toNat_natCast, Nat.cast_mul, Nat.cast_pow, zpow_neg,
      zpow_natCast, Nat.cast_ofNat, div_inv_eq_mul]
    ring
  next hpos =>
    obtain ⟨places, rfl⟩ : ∃ places : Nat, exponent = places := ⟨exponent.toNat, by omega⟩
    simp only [Nat.pow_eq, Int.toNat_natCast, Nat.cast_mul, Nat.cast_pow, zpow_natCast,
      Nat.cast_ofNat]
    exact ⟨Nat.mul_pos hden (Nat.two_pow_pos _), (div_div _ _ _).symm⟩

/-- The fraction of a double. -/
theorem toRatio_spec (mantissa : Nat) (exponent : Int) :
    0 < (toRatio mantissa exponent).2 ∧
      ((toRatio mantissa exponent).1 : ℚ) / (toRatio mantissa exponent).2 =
        mantissa * (2 : ℚ) ^ exponent := by
  obtain ⟨hpos, hvalue⟩ := scaleDown_spec mantissa Nat.one_pos (-exponent)
  exact ⟨hpos, by rw [toRatio, hvalue, Nat.cast_one, div_one, zpow_neg, div_inv_eq_mul]⟩

/-- A fraction in units of a power of ten. -/
theorem inUnits_spec (num : Nat) {den : Nat} (hden : 0 < den) (place : Int) :
    0 < (inUnits num den place).2 ∧
      ((inUnits num den place).1 : ℚ) / (inUnits num den place).2 =
        num / den / (10 : ℚ) ^ place := by
  rw [inUnits]
  split
  next hneg =>
    refine ⟨hden, ?_⟩
    obtain ⟨places, rfl⟩ : ∃ places : Nat, place = -places := ⟨(-place).toNat, by omega⟩
    simp only [Nat.pow_eq, neg_neg, Int.toNat_natCast, Nat.cast_mul, Nat.cast_pow, zpow_neg,
      zpow_natCast, Nat.cast_ofNat, div_inv_eq_mul]
    ring
  next hpos =>
    obtain ⟨places, rfl⟩ : ∃ places : Nat, place = places := ⟨place.toNat, by omega⟩
    simp only [Nat.pow_eq, Int.toNat_natCast, Nat.cast_mul, Nat.cast_pow, zpow_natCast,
      Nat.cast_ofNat]
    exact ⟨Nat.mul_pos hden (Nat.pow_pos (by decide)), (div_div _ _ _).symm⟩

/-! ## Intervals -/

/-- The lower end of what rounds to a double. -/
def lowEnd (mantissa : Nat) (exponent : Int) : ℚ :=
  (4 * mantissa - gapBelow mantissa exponent : Nat) * (2 : ℚ) ^ (exponent - 2)

/-- The upper end of what rounds to a double. -/
def highEnd (mantissa : Nat) (exponent : Int) : ℚ :=
  (4 * mantissa + 2 : Nat) * (2 : ℚ) ^ (exponent - 2)

/-- A rational rounds to `mantissa * 2 ^ exponent`: it lies between the ends, which count if the
mantissa is even. -/
def InInterval (mantissa : Nat) (exponent : Int) (q : ℚ) : Prop :=
  if mantissa % 2 = 0 then lowEnd mantissa exponent ≤ q ∧ q ≤ highEnd mantissa exponent
  else lowEnd mantissa exponent < q ∧ q < highEnd mantissa exponent

/-- What lies strictly between the ends rounds to a double. -/
theorem inInterval_of_between {mantissa : Nat} {exponent : Int} {q : ℚ}
    (hlow : lowEnd mantissa exponent < q) (hhigh : q < highEnd mantissa exponent) :
    InInterval mantissa exponent q := by
  rw [InInterval]
  split
  · exact ⟨hlow.le, hhigh.le⟩
  · exact ⟨hlow, hhigh⟩

/-- Zero rounds to no other double. -/
theorem InInterval.pos {mantissa : Nat} {exponent : Int} {q : ℚ} (hpos : 0 < mantissa)
    (h : InInterval mantissa exponent q) : 0 < q := by
  have hlow : 0 < lowEnd mantissa exponent := by
    have hgap : gapBelow mantissa exponent ≤ 2 := by
      rw [gapBelow]
      split <;> decide
    refine mul_pos ?_ (zpow_pos two_pos _)
    exact_mod_cast (by omega)
  rw [InInterval] at h
  split at h
  · exact hlow.trans_le h.1
  · exact hlow.trans h.1

/-- A decimal is tested by cross-multiplication. -/
theorem roundsBack_iff (mantissa : Nat) (exponent : Int) (digits : Nat) (place : Int) :
    roundsBack mantissa exponent digits place = true ↔
      InInterval mantissa exponent (decimal digits place) := by
  obtain ⟨hunit, hunitValue⟩ := toRatio_spec 1 (exponent - 2)
  rw [Nat.cast_one, one_mul] at hunitValue
  obtain ⟨num, den, hpair, hden, hvalue⟩ : ∃ num den : Nat,
      (if place < 0 then (digits, Nat.pow 10 (-place).toNat)
        else (digits * Nat.pow 10 place.toNat, 1)) = (num, den) ∧ 0 < den ∧
      (num : ℚ) / den = decimal digits place := by
    by_cases hneg : place < 0
    · refine ⟨_, _, if_pos hneg, Nat.pow_pos (by decide), ?_⟩
      obtain ⟨places, rfl⟩ : ∃ places : Nat, place = -places := ⟨(-place).toNat, by omega⟩
      simp [decimal, div_eq_mul_inv]
    · refine ⟨_, _, if_neg hneg, Nat.one_pos, ?_⟩
      obtain ⟨places, rfl⟩ : ∃ places : Nat, place = places := ⟨place.toNat, by omega⟩
      simp [decimal]
  have hunit : (0 : ℚ) < (toRatio 1 (exponent - 2)).2 := by exact_mod_cast hunit
  have hden : (0 : ℚ) < den := by exact_mod_cast hden
  have hle (n : Nat) : n * (toRatio 1 (exponent - 2)).1 * den ≤
      num * (toRatio 1 (exponent - 2)).2 ↔
        n * (2 : ℚ) ^ (exponent - 2) ≤ decimal digits place := by
    rw [← hunitValue, ← hvalue, ← mul_div_assoc, div_le_div_iff₀ hunit hden]
    exact_mod_cast Iff.rfl
  have hge (n : Nat) : num * (toRatio 1 (exponent - 2)).2 ≤
      n * (toRatio 1 (exponent - 2)).1 * den ↔
        decimal digits place ≤ n * (2 : ℚ) ^ (exponent - 2) := by
    rw [← hunitValue, ← hvalue, ← mul_div_assoc, div_le_div_iff₀ hden hunit]
    exact_mod_cast Iff.rfl
  simp only [roundsBack, hpair, InInterval, lowEnd, highEnd]
  split
  · rw [Bool.and_eq_true, decide_eq_true_eq, decide_eq_true_eq, hle, hge]
  · rw [Bool.and_eq_true, decide_eq_true_eq, decide_eq_true_eq, ← not_le, ← not_le, hle, hge,
      not_le, not_le]

/-! ## Intervals have no point in common -/

/-- The gap below a double is a quarter or a half. -/
theorem gapBelow_le (mantissa : Nat) (exponent : Int) :
    1 ≤ gapBelow mantissa exponent ∧ gapBelow mantissa exponent ≤ 2 := by
  rw [gapBelow]
  split <;> decide

/-- The gap below a double is a half unless the double is a power of two with a smaller exponent
below it. -/
theorem gapBelow_eq_two {mantissa : Nat} {exponent : Int}
    (h : mantissa = 2 ^ 52 → exponent = leastExponent ∨ exponent < leastExponent) :
    gapBelow mantissa exponent = 2 := by
  rw [gapBelow, if_neg]
  rintro ⟨hmantissa, hexponent⟩
  have := h hmantissa
  omega

/-- Of two doubles with one exponent no rational rounds to both. -/
theorem not_inInterval_of_mantissa_lt {m n : Nat} {e : Int} {q : ℚ} (hlt : m < n)
    (hgap : gapBelow n e = 2) (hm : InInterval m e q) : ¬ InInterval n e q := by
  intro hn
  have hpow : (0 : ℚ) < (2 : ℚ) ^ (e - 2) := zpow_pos two_pos _
  have hends : highEnd m e ≤ lowEnd n e := by
    rw [highEnd, lowEnd, hgap]
    exact mul_le_mul_of_nonneg_right (by exact_mod_cast (by omega)) hpow.le
  have hstrict (hfar : m + 1 < n) : highEnd m e < lowEnd n e := by
    rw [highEnd, lowEnd, hgap]
    exact mul_lt_mul_of_pos_right (by exact_mod_cast (by omega)) hpow
  simp only [InInterval] at hm hn
  -- Neighbours meet in one point, which belongs to the one with the even mantissa.
  rcases Nat.mod_two_eq_zero_or_one m with hmod | hmod <;>
    rcases Nat.mod_two_eq_zero_or_one n with hmod' | hmod' <;>
    simp only [hmod, hmod', if_true, one_ne_zero, if_false] at hm hn
  · have := hstrict (by omega)
    linarith
  · linarith
  · linarith
  · linarith

/-- Of two doubles with different exponents no rational rounds to both. -/
theorem not_inInterval_of_exponent_lt {m n : Nat} {d e : Int} {q : ℚ} (hlt : d < e)
    (hleast : leastExponent ≤ d) (hm : m < 2 ^ 53) (hn : 2 ^ 52 ≤ n) (hq : InInterval m d q) :
    ¬ InInterval n e q := by
  intro hq'
  have hpow : (0 : ℚ) < (2 : ℚ) ^ (d - 2) := zpow_pos two_pos _
  have hlow : (2 ^ 55 - 2 : ℚ) * (2 : ℚ) ^ (d - 2) ≤ lowEnd n e := by
    have hfour : 2 ^ 54 - 1 ≤ 4 * n - gapBelow n e := by
      obtain ⟨-, htwo⟩ := gapBelow_le n e
      rcases Nat.eq_or_lt_of_le hn with rfl | hgreater
      · have hone : gapBelow (2 ^ 52) e = 1 := if_pos ⟨rfl, by omega⟩
        omega
      · omega
    have hdouble : 2 * (2 : ℚ) ^ (d - 2) ≤ (2 : ℚ) ^ (e - 2) := by
      rw [← zpow_one_add₀ two_ne_zero]
      exact zpow_le_zpow_right₀ one_le_two (by omega)
    calc (2 ^ 55 - 2 : ℚ) * (2 : ℚ) ^ (d - 2) = (2 ^ 54 - 1) * (2 * (2 : ℚ) ^ (d - 2)) := by ring
      _ ≤ (2 ^ 54 - 1) * (2 : ℚ) ^ (e - 2) := mul_le_mul_of_nonneg_left hdouble (by norm_num)
      _ ≤ lowEnd n e := by
        refine mul_le_mul_of_nonneg_right ?_ (zpow_pos two_pos _).le
        have hcast : ((2 ^ 54 - 1 : Nat) : ℚ) ≤ (4 * n - gapBelow n e : Nat) := by
          exact_mod_cast hfour
        calc (2 ^ 54 - 1 : ℚ) = ((2 ^ 54 - 1 : Nat) : ℚ) := by norm_num
          _ ≤ _ := hcast
  have hhigh (h : 4 * m + 2 ≤ 2 ^ 55 - 2) : highEnd m d ≤ (2 ^ 55 - 2 : ℚ) * (2 : ℚ) ^ (d - 2) := by
    refine mul_le_mul_of_nonneg_right ?_ hpow.le
    calc ((4 * m + 2 : Nat) : ℚ) ≤ ((2 ^ 55 - 2 : Nat) : ℚ) := by exact_mod_cast h
      _ = 2 ^ 55 - 2 := by norm_num
  have hends := (hhigh (by omega)).trans hlow
  have hends' : lowEnd n e ≤ q := by
    rw [InInterval] at hq'
    split at hq'
    · exact hq'.1
    · exact hq'.1.le
  rw [InInterval] at hq
  split at hq
  next heven =>
    -- An even mantissa is less than the greatest one, so the ends do not meet.
    have hstrict : highEnd m d < (2 ^ 55 - 2 : ℚ) * (2 : ℚ) ^ (d - 2) := by
      refine mul_lt_mul_of_pos_right ?_ hpow
      calc ((4 * m + 2 : Nat) : ℚ) < ((2 ^ 55 - 2 : Nat) : ℚ) := by
            exact_mod_cast (by omega : 4 * m + 2 < 2 ^ 55 - 2)
        _ = 2 ^ 55 - 2 := by norm_num
    linarith
  next => linarith

/-- A rational rounds to one double. -/
theorem InInterval.unique {s t : Bool} {m n : Nat} {d e : Int} {q : ℚ}
    (hm : IsCanonical (finite s m d)) (hn : IsCanonical (finite t n e))
    (hq : InInterval m d q) (hq' : InInterval n e q) : m = n ∧ d = e := by
  obtain ⟨hm, hd, -, hfull⟩ := hm
  obtain ⟨hn, he, -, hfull'⟩ := hn
  rcases lt_trichotomy d e with hlt | rfl | hlt
  · exact absurd hq' (not_inInterval_of_exponent_lt hlt hd hm
      (hfull'.resolve_right (by omega)) hq)
  · rcases lt_trichotomy m n with hless | rfl | hless
    · exact absurd hq' (not_inInterval_of_mantissa_lt hless (gapBelow_eq_two (by omega)) hq)
    · exact ⟨rfl, rfl⟩
    · exact absurd hq (not_inInterval_of_mantissa_lt hless (gapBelow_eq_two (by omega)) hq')
  · exact absurd hq (not_inInterval_of_exponent_lt hlt he hn (hfull.resolve_right (by omega)) hq')

/-! ## The finest grid -/

/-- The nearest whole number is the quotient or the next one. -/
theorem roundHalfEven_cases (num den : Nat) :
    roundHalfEven num den = num / den ∨ roundHalfEven num den = num / den + 1 := by
  simp only [roundHalfEven]
  split
  · exact .inl rfl
  · split
    · exact .inr rfl
    · split
      · exact .inl rfl
      · exact .inr rfl

/-- The nearest whole number is at most a half away. -/
theorem roundHalfEven_near (num : Nat) {den : Nat} (hden : 0 < den) :
    |(roundHalfEven num den : ℚ) - num / den| ≤ 1 / 2 := by
  have hdenQ : (0 : ℚ) < den := by exact_mod_cast hden
  have hdiv : num = den * (num / den) + num % den := (Nat.div_add_mod num den).symm
  have hvalue : (num : ℚ) / den = (num / den : Nat) + (num % den : Nat) / den := by
    rw [div_eq_iff hdenQ.ne', add_mul, div_mul_cancel₀ _ hdenQ.ne', mul_comm]
    exact_mod_cast hdiv
  have hless : (num % den : Nat) < (den : ℚ) := by exact_mod_cast Nat.mod_lt _ hden
  have hnonneg : (0 : ℚ) ≤ (num % den : Nat) := Nat.cast_nonneg _
  rw [hvalue, abs_le]
  have hdown (h : 2 * (num % den) ≤ den) :
      -(1 / 2) ≤ ((num / den : Nat) : ℚ) - ((num / den : Nat) + (num % den : Nat) / den) ∧
        ((num / den : Nat) : ℚ) - ((num / den : Nat) + (num % den : Nat) / den) ≤ 1 / 2 := by
    have hhalf : ((num % den : Nat) : ℚ) / den ≤ 1 / 2 := by
      rw [div_le_div_iff₀ hdenQ two_pos]
      exact_mod_cast (by omega)
    have := div_nonneg hnonneg hdenQ.le
    constructor <;> linarith
  have hup (h : den ≤ 2 * (num % den)) :
      -(1 / 2) ≤ ((num / den + 1 : Nat) : ℚ) - ((num / den : Nat) + (num % den : Nat) / den) ∧
        ((num / den + 1 : Nat) : ℚ) - ((num / den : Nat) + (num % den : Nat) / den) ≤ 1 / 2 := by
    have hhalf : 1 / 2 ≤ ((num % den : Nat) : ℚ) / den := by
      rw [div_le_div_iff₀ two_pos hdenQ]
      exact_mod_cast (by omega)
    have hone : ((num % den : Nat) : ℚ) / den ≤ 1 := (div_le_one hdenQ).2 hless.le
    push_cast
    constructor <;> linarith
  simp only [roundHalfEven]
  split
  · exact hdown (by omega)
  · split
    · exact hup (by omega)
    · split
      · exact hdown (by omega)
      · exact hup (by omega)

/-- The least power of ten that is looked for is found if it is in reach. -/
theorem leadingZeros_reaches {num den fuel k : Nat} (h : den ≤ num * 10 ^ (k + fuel)) :
    den ≤ num * 10 ^ leadingZeros num den fuel k := by
  induction fuel generalizing k with
  | zero => exact h
  | succ fuel ih =>
    rw [leadingZeros]
    split
    next hfound => exact hfound
    next => exact ih (by rwa [Nat.add_right_comm, Nat.add_assoc])

/-- The power of ten at the leading digit of a fraction is at most the fraction. -/
theorem pow_leadingPlace_le {num den : Nat} (hden : 0 < den) (h : den ≤ num * 10 ^ (1 + 400)) :
    (10 : ℚ) ^ leadingPlace num den ≤ num / den := by
  have hdenQ : (0 : ℚ) < den := by exact_mod_cast hden
  rw [leadingPlace]
  split
  next hle =>
    have hpos : 0 < num / den := Nat.div_pos hle hden
    obtain ⟨count, hcount⟩ : ∃ count, digitCount (num / den) = count + 1 :=
      ⟨_, (Nat.sub_add_cancel Nat.length_toDigits_pos).symm⟩
    have hbelow : 10 ^ count ≤ num / den := by
      rcases Nat.eq_zero_or_pos count with rfl | hcountPos
      · exact hpos
      · have hlong := (Nat.length_toDigits_le_iff (n := num / den) (b := 10) (by decide)
          hcountPos).not.1 (by rw [digitCount] at hcount; omega)
        omega
    rw [hcount]
    push_cast
    rw [add_sub_cancel_right, zpow_natCast]
    calc (10 : ℚ) ^ count = ((10 ^ count : Nat) : ℚ) := by push_cast; rfl
      _ ≤ (num / den : Nat) := by exact_mod_cast hbelow
      _ ≤ num / den := Nat.cast_div_le
  next =>
    have hreach : den ≤ num * 10 ^ leadingZeros num den 400 1 := leadingZeros_reaches h
    rw [zpow_neg, zpow_natCast, inv_le_iff_one_le_mul₀ (by positivity), div_mul_eq_mul_div,
      one_le_div hdenQ]
    exact_mod_cast hreach

/-- The nearest point of a grid of seventeen digits rounds to the double. -/
theorem inInterval_of_near {m digits : Nat} {e place : Int} {negative : Bool}
    (hcanonical : IsCanonical (finite negative m e)) (hpos : 0 < m)
    (hplace : (10 : ℚ) ^ (place + 16) ≤ m * (2 : ℚ) ^ e)
    (hnear : |decimal digits place - m * (2 : ℚ) ^ e| ≤ (10 : ℚ) ^ place / 2) :
    InInterval m e (decimal digits place) := by
  have hpow : (0 : ℚ) < (2 : ℚ) ^ (e - 2) := zpow_pos two_pos _
  have hvalue : (m : ℚ) * (2 : ℚ) ^ e = 4 * m * (2 : ℚ) ^ (e - 2) := by
    rw [show e = e - 2 + 2 by omega, zpow_add₀ two_ne_zero, add_sub_cancel_right]
    norm_num
    ring
  have hgrid : (10 : ℚ) ^ place * 10 ^ 16 ≤ 4 * m * (2 : ℚ) ^ (e - 2) := by
    rw [← hvalue]
    calc (10 : ℚ) ^ place * 10 ^ 16 = (10 : ℚ) ^ (place + 16) := by
          rw [zpow_add₀ (by norm_num)]
          norm_num
      _ ≤ _ := hplace
  -- Half a step of the grid is less than the gap below, a quarter only for a power of two.
  have hgap : (10 : ℚ) ^ place / 2 < gapBelow m e * (2 : ℚ) ^ (e - 2) := by
    have hbits : (4 * m : ℚ) < 2 * 10 ^ 16 * gapBelow m e := by
      obtain ⟨hone, htwo⟩ := gapBelow_le m e
      have hsmall := hcanonical.1
      have hnat : 4 * m < 2 * 10 ^ 16 * gapBelow m e := by
        by_cases hmantissa : m = 2 ^ 52
        · omega
        · have hhalf : gapBelow m e = 2 := gapBelow_eq_two fun h => absurd h hmantissa
          omega
      exact_mod_cast hnat
    have := mul_lt_mul_of_pos_right hbits hpow
    linarith
  have hgapHigh : (gapBelow m e : ℚ) ≤ 2 := by exact_mod_cast (gapBelow_le m e).2
  have hcast : ((4 * m - gapBelow m e : Nat) : ℚ) = 4 * m - gapBelow m e := by
    have := (gapBelow_le m e).2
    rw [Nat.cast_sub (by omega)]
    push_cast
    rfl
  rw [hvalue, abs_le] at hnear
  apply inInterval_of_between
  · rw [lowEnd, hcast, sub_mul]
    linarith
  · rw [highEnd]
    push_cast
    have := mul_le_mul_of_nonneg_right hgapHigh hpow.le
    linarith

/-! ## The search -/

/-- What a grid offers rounds to the double. -/
theorem inInterval_of_onGrid? {m digits : Nat} {e place : Int}
    (h : onGrid? m e place = some digits) : InInterval m e (decimal digits place) := by
  rw [← roundsBack_iff]
  simp only [onGrid?] at h
  split at h
  next hbelow habove =>
    rw [← Option.some.inj h]
    rcases roundHalfEven_cases (inUnits (toRatio m e).1 (toRatio m e).2 place).1
      (inUnits (toRatio m e).1 (toRatio m e).2 place).2 with heq | heq
    · rw [heq]
      exact hbelow
    · rw [heq]
      exact habove
  next hbelow _ =>
    rw [← Option.some.inj h]
    exact hbelow
  next _ habove =>
    rw [← Option.some.inj h]
    exact habove
  next => cases h

/-- What a search finds rounds to the double if the finest grid has seventeen digits. -/
theorem searchGrids_inInterval {m : Nat} {e : Int} {negative : Bool}
    (hcanonical : IsCanonical (finite negative m e)) (hpos : 0 < m) {grids : Nat} {place : Int}
    (hplace : (10 : ℚ) ^ (place - grids + 16) ≤ m * (2 : ℚ) ^ e) :
    InInterval m e (decimal (searchGrids m e grids place).1 (searchGrids m e grids place).2) := by
  induction grids generalizing place with
  | zero =>
    obtain ⟨hden, hvalue⟩ := toRatio_spec m e
    obtain ⟨hunits, hscaled⟩ := inUnits_spec (toRatio m e).1 hden place
    have hten : (0 : ℚ) < (10 : ℚ) ^ place := zpow_pos (by norm_num) _
    rw [Nat.cast_zero, sub_zero] at hplace
    refine inInterval_of_near hcanonical hpos hplace ?_
    have hnear := roundHalfEven_near (inUnits (toRatio m e).1 (toRatio m e).2 place).1 hunits
    rw [hscaled, hvalue, div_eq_mul_inv] at hnear
    simp only [searchGrids, decimal]
    have hmul := mul_le_mul_of_nonneg_right hnear hten.le
    rw [← abs_of_pos hten, ← abs_mul, abs_of_pos hten, sub_mul, mul_assoc,
      inv_mul_cancel₀ hten.ne', mul_one] at hmul
    linarith
  | succ grids ih =>
    rw [searchGrids]
    split
    next digits hfound => exact inInterval_of_onGrid? hfound
    next =>
      refine ih ?_
      rw [Nat.cast_succ] at hplace
      rwa [show place - 1 - (grids : Int) + 16 = place - (grids + 1) + 16 by omega]

/-- The decimal that is found for a double rounds to it. -/
theorem shortestDigits_inInterval {m : Nat} {e : Int} {negative : Bool}
    (hcanonical : IsCanonical (finite negative m e)) (hpos : 0 < m) :
    InInterval m e (decimal (shortestDigits m e).1 (shortestDigits m e).2) := by
  obtain ⟨hden, hvalue⟩ := toRatio_spec m e
  have hdenQ : (0 : ℚ) < (toRatio m e).2 := by exact_mod_cast hden
  refine searchGrids_inInterval hcanonical hpos ?_
  rw [Nat.cast_ofNat, sub_add_cancel, ← hvalue]
  apply pow_leadingPlace_le hden
  -- No positive double is so small that its leading digit is out of reach.
  have hreach : (2 : ℚ) ^ 1074 ≤ 10 ^ (1 + 400) :=
    calc (2 : ℚ) ^ 1074 = (2 ^ 3) ^ 358 := by rw [← pow_mul]
      _ ≤ 10 ^ 358 := pow_le_pow_left₀ (by norm_num) (by norm_num) _
      _ ≤ 10 ^ (1 + 400) := pow_le_pow_right₀ (by norm_num) (by norm_num)
  have hsmall : (1 : ℚ) ≤ m * (2 : ℚ) ^ e * 10 ^ (1 + 400) := by
    have hone : (1 : ℚ) ≤ m := by exact_mod_cast hpos
    calc (1 : ℚ) ≤ (2 : ℚ) ^ leastExponent * 10 ^ (1 + 400) := by
          rw [leastExponent, zpow_neg, ← div_eq_inv_mul, one_le_div (zpow_pos two_pos _)]
          exact_mod_cast hreach
      _ ≤ (2 : ℚ) ^ e * 10 ^ (1 + 400) := mul_le_mul_of_nonneg_right
          (zpow_le_zpow_right₀ one_le_two hcanonical.2.1) (by positivity)
      _ ≤ m * (2 : ℚ) ^ e * 10 ^ (1 + 400) := by
          refine mul_le_mul_of_nonneg_right ?_ (by positivity)
          exact le_mul_of_one_le_left (zpow_pos two_pos _).le hone
  rw [← hvalue, div_mul_eq_mul_div, one_le_div hdenQ] at hsmall
  exact_mod_cast hsmall

end TypeRegistry.Double
