import TypeRegistry.Number.Double

/-!
# Multiples

Whether one number is a multiple of another.  Where the divisor is a double, the dividend is a
double too, and the quotient is rounded to a double before it is looked at, unless it is beyond all
finite doubles.  Otherwise the remainder is exact; it is that of doubles if the dividend is one.

Main definitions:

- `Divisibility`: what becomes of a division.
- `Double.divisibility`: the division of one double by another.
- `Divisibility.ofInts`, `Double.divisibilityByInt`: divisions by an integer.
-/

namespace TypeRegistry

/-- What becomes of a division: the quotient is whole or not, or there is none, because the divisor
is zero, a number is beyond all doubles, or the quotient is undefined. -/
inductive Divisibility where
  | whole
  | notWhole
  | zeroDivisor
  | tooLarge
  | undefinedQuotient
deriving DecidableEq, Repr

namespace Divisibility

/-- A quotient that is whole or not. -/
def ofWhole (isWhole : Bool) : Divisibility :=
  if isWhole then whole else notWhole

/-- The division of one integer by another. -/
def ofInts (n divisor : Int) : Divisibility :=
  if divisor = 0 then zeroDivisor else ofWhole (n % divisor = 0)

/-- The quotient of integers is whole if the divisor divides the dividend. -/
theorem ofInts_eq_whole_iff {n divisor : Int} (h : divisor ≠ 0) :
    ofInts n divisor = whole ↔ divisor ∣ n := by
  rw [Int.dvd_iff_emod_eq_zero, ofInts, if_neg h, ofWhole]
  by_cases hwhole : n % divisor = 0
  · rw [if_pos (decide_eq_true hwhole)]
    exact iff_of_true rfl hwhole
  · rw [decide_eq_false hwhole]
    exact iff_of_false nofun hwhole

end Divisibility

namespace Double

/-- The magnitude of the quotient of two finite doubles as a fraction. -/
def quotientRatio (mantissa : Nat) (exponent : Int) (other : Nat) (otherExponent : Int) :
    Nat × Nat :=
  let num := toRatio mantissa exponent
  let den := toRatio other otherExponent
  (num.1 * den.2, num.2 * den.1)

/-- The division of one double by another. -/
def divisibility : Double → Double → Divisibility
  | _, finite _ 0 _ => .zeroDivisor
  | nan, _ => .undefinedQuotient
  | _, nan => .undefinedQuotient
  | infinity _, infinity _ => .undefinedQuotient
  | infinity _, finite _ _ _ => .tooLarge
  | finite _ _ _, infinity _ => .whole
  | finite _ mantissa exponent, finite _ other otherExponent =>
    let (num, den) := quotientRatio mantissa exponent other otherExponent
    match ofRatio false num den with
    | finite negative mantissa exponent => .ofWhole (finite negative mantissa exponent).isWhole
    | _ => .ofWhole (num % den = 0)

/-- The division of a double by an integer, which is rounded to a double. -/
def divisibilityByInt (x : Double) (divisor : Int) : Divisibility :=
  match ofInt? divisor, x with
  | none, _ => .tooLarge
  | some (finite _ 0 _), _ => .zeroDivisor
  | some (finite _ other otherExponent), finite _ mantissa exponent =>
    let (num, den) := quotientRatio mantissa exponent other otherExponent
    .ofWhole (num % den = 0)
  | _, _ => .notWhole

end Double

end TypeRegistry
