import Mathlib.Algebra.Order.Field.Power
import Mathlib.Data.Rat.Cast.Order
import Mathlib.Tactic.Linarith
import Mathlib.Tactic.NormNum
import TypeRegistry.Number.Double

/-!
# Integers as doubles

The value of a dyadic number is a rational, and the order of values is that of rationals.  An
integer of at most 53 bits has a double of the same value: its binary digits are moved to the left
until there are 53 of them, and the exponent makes up for it, so nothing is rounded.

Main results:

- Theorem `Exact.lt_dyadic`: the order of dyadic values is that of rationals.
- Theorem `Double.exists_ofInt?`: an integer of magnitude at most `2 ^ 53` has its own double.
- Theorems `Exact.lt_ofInt_of_le`, `Exact.ofInt_lt_of_le`: integer bounds that are weaker hold too.
-/

namespace TypeRegistry

namespace Exact

/-! ## Values as rationals -/

/-- The rational that a whole number times a power of two is. -/
def rational (whole exponent : Int) : ℚ :=
  whole * (2 : ℚ) ^ exponent

/-- A whole number with a lowered exponent stands for the same value. -/
theorem lowered_eq (whole : Int) {exponent common : Int} (h : common ≤ exponent) :
    (lowered whole exponent common : ℚ) = rational whole exponent / (2 : ℚ) ^ common := by
  have hnat : ((exponent - common).toNat : Int) = exponent - common := by
    apply Int.toNat_of_nonneg
    omega
  have hpow : ((Nat.pow 2 (exponent - common).toNat : Nat) : ℚ) =
      (2 : ℚ) ^ (exponent - common) := by
    rw [← hnat, zpow_natCast, hnat]
    exact Nat.cast_pow 2 _
  rw [lowered, rational, Int.cast_mul, Int.cast_natCast, hpow, zpow_sub₀ two_ne_zero, mul_div_assoc]

/-- The order of dyadic values is the order of the rationals that they are. -/
theorem lt_dyadic (m d n e : Int) :
    (dyadic m d).lt (dyadic n e) = decide (rational m d < rational n e) := by
  have hpos : (0 : ℚ) < (2 : ℚ) ^ min d e := zpow_pos two_pos _
  have hiff : lowered m d (min d e) < lowered n e (min d e) ↔ rational m d < rational n e := by
    rw [← Int.cast_lt (R := ℚ), lowered_eq m (min_le_left d e), lowered_eq n (min_le_right d e),
      div_lt_div_iff_of_pos_right hpos]
  rw [lt, decide_eq_decide]
  exact hiff

@[simp]
theorem rational_zero_exponent (n : Int) : rational n 0 = n := by
  rw [rational, zpow_zero, mul_one]

/-- What is less than an integer is less than every greater integer. -/
theorem lt_ofInt_of_le {x : Exact} {m n : Int} (h : x.lt (ofInt m) = true) (hle : m ≤ n) :
    x.lt (ofInt n) = true := by
  cases x with
  | dyadic whole exponent =>
    rw [ofInt, lt_dyadic, decide_eq_true_eq, rational_zero_exponent] at h ⊢
    exact lt_of_lt_of_le h (Int.cast_le.2 hle)
  | infinite negative => exact h
  | undefined => exact h

/-- What is greater than an integer is greater than every smaller integer. -/
theorem ofInt_lt_of_le {x : Exact} {m n : Int} (h : (ofInt n).lt x = true) (hle : m ≤ n) :
    (ofInt m).lt x = true := by
  cases x with
  | dyadic whole exponent =>
    rw [ofInt, lt_dyadic, decide_eq_true_eq, rational_zero_exponent] at h ⊢
    exact lt_of_le_of_lt (Int.cast_le.2 hle) h
  | infinite negative => exact h
  | undefined => exact h

end Exact

namespace Double

/-! ## Doubles of integers -/

/-- The rational that a finite double is. -/
def value? : Double → Option ℚ
  | finite negative mantissa exponent =>
    some (Exact.rational (if negative then -(mantissa : Int) else mantissa) exponent)
  | _ => none

/-- The order of finite doubles is the order of the rationals that they are. -/
theorem lt_ofDouble {x y : Double} {a b : ℚ} (hx : x.value? = some a) (hy : y.value? = some b) :
    (Exact.ofDouble x).lt (Exact.ofDouble y) = decide (a < b) := by
  cases x with
  | finite s m d =>
    cases y with
    | finite t n e =>
      cases hx
      cases hy
      exact Exact.lt_dyadic _ _ _ _
    | infinity => cases hy
    | nan => cases hy
  | infinity => cases hx
  | nan => cases hx

/-- Rounding a whole number leaves it as it is. -/
@[simp]
theorem roundHalfEven_one (n : Nat) : roundHalfEven n 1 = n := by
  simp [roundHalfEven, Nat.mod_one]

/-- A whole number with an exponent of at most zero is multiplied by the power of two. -/
theorem scaleDown_one_neg (n places : Nat) :
    scaleDown n 1 (-(places : Int)) = (n * 2 ^ places, 1) := by
  rw [scaleDown]
  split
  · simp
  next h =>
    obtain rfl : places = 0 := by omega
    simp

/-- A whole number of at most 53 bits is written with 53 bits. -/
theorem exponentFor_one {n : Nat} (hpos : 0 < n) (hlt : n < 2 ^ 53) :
    exponentFor n 1 = -((52 - Nat.log2 n : Nat) : Int) := by
  have hlog : Nat.log2 n < 53 := (Nat.log2_lt hpos.ne').2 hlt
  have hguess : max leastExponent ((Nat.log2 n : Int) - (Nat.log2 1 : Int) - 53) =
      -((53 - Nat.log2 n : Nat) : Int) := by
    rw [leastExponent, show Nat.log2 1 = 0 from rfl]
    omega
  have hbits : 2 ^ 53 ≤ n * 2 ^ (53 - Nat.log2 n) := by
    calc 2 ^ 53 = 2 ^ Nat.log2 n * 2 ^ (53 - Nat.log2 n) := by
          rw [← Nat.pow_add, Nat.add_sub_of_le (Nat.le_of_lt hlog)]
      _ ≤ n * 2 ^ (53 - Nat.log2 n) := Nat.mul_le_mul_right _ (Nat.log2_self_le hpos.ne')
  rw [exponentFor, hguess, scaleDown_one_neg]
  simp only [Nat.div_one]
  rw [if_neg (show ¬ n * 2 ^ (53 - Nat.log2 n) < Nat.pow 2 53 from Nat.not_lt.2 hbits)]
  omega

/-- A whole number of at most 53 bits is its own nearest double. -/
theorem ofRatio_one (negative : Bool) {n : Nat} (hpos : 0 < n) (hle : n ≤ 2 ^ 53) :
    ∃ mantissa exponent, ofRatio negative n 1 = finite negative mantissa exponent ∧
      Exact.rational mantissa exponent = n := by
  rcases Nat.eq_or_lt_of_le hle with rfl | hlt
  · refine ⟨2 ^ 52, 1, by cases negative <;> decide +kernel, ?_⟩
    norm_num [Exact.rational]
  · have hlog : Nat.log2 n < 53 := (Nat.log2_lt hpos.ne').2 hlt
    have hsmall : n * 2 ^ (52 - Nat.log2 n) < 2 ^ 53 := by
      calc n * 2 ^ (52 - Nat.log2 n) < 2 ^ (Nat.log2 n + 1) * 2 ^ (52 - Nat.log2 n) :=
            Nat.mul_lt_mul_of_pos_right Nat.lt_log2_self (Nat.two_pow_pos _)
        _ = 2 ^ 53 := by
          rw [← Nat.pow_add]
          congr 1
          omega
    refine ⟨n * 2 ^ (52 - Nat.log2 n), -((52 - Nat.log2 n : Nat) : Int), ?_, ?_⟩
    · rw [ofRatio, if_neg hpos.ne']
      simp only [exponentFor_one hpos hlt, scaleDown_one_neg, roundHalfEven_one]
      rw [if_neg (show ¬ n * 2 ^ (52 - Nat.log2 n) = Nat.pow 2 53 from hsmall.ne)]
      rw [if_neg (by simp only [greatestExponent]; omega)]
    · rw [Exact.rational, zpow_neg, zpow_natCast]
      push_cast
      rw [mul_assoc, mul_inv_cancel₀ (pow_ne_zero _ two_ne_zero), mul_one]

/-- An integer of magnitude at most `2 ^ 53` has its own double. -/
theorem exists_ofInt? {n : Int} (h : n.natAbs ≤ 2 ^ 53) :
    ∃ x, ofInt? n = some x ∧ x.value? = some (n : ℚ) := by
  rcases Nat.eq_zero_or_pos n.natAbs with hzero | hpos
  · obtain rfl := Int.natAbs_eq_zero.1 hzero
    exact ⟨.finite false 0 leastExponent, rfl, by simp [value?, Exact.rational]⟩
  · obtain ⟨mantissa, exponent, hratio, hvalue⟩ := ofRatio_one (decide (n < 0)) hpos h
    refine ⟨.finite (decide (n < 0)) mantissa exponent, by rw [ofInt?, hratio], ?_⟩
    rw [Exact.rational, Int.cast_natCast] at hvalue
    rw [value?, Exact.rational, Option.some_inj]
    by_cases hneg : n < 0
    · simp only [hneg, decide_true, if_true, Int.cast_neg, Int.cast_natCast, neg_mul, hvalue]
      rw [← Int.cast_natCast, ← Int.cast_neg]
      congr 1
      omega
    · simp only [hneg, decide_false, Bool.false_eq_true, if_false, Int.cast_natCast, hvalue]
      rw [← Int.cast_natCast]
      congr 1
      omega

end Double

end TypeRegistry
