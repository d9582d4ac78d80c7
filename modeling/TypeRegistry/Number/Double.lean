/-!
# Double-precision numbers

A number written with a point or an exponent is held in binary64: as a 53-bit whole number times a
power of two, in exact form.  Nothing is computed with such numbers; they are read, compared and
written, and all three are done in whole-number arithmetic.

Main definitions:

- `Double`: a finite value `± mantissa * 2 ^ exponent`, an infinity, or not a number.
- `Double.ofRatio`: the double nearest to a fraction, ties to the even mantissa.
- `Double.ofDecimal`, `Double.ofInt?`: the doubles nearest to a decimal and to an integer.
- `Exact`, `Exact.lt`, `Exact.eq`: the exact order of doubles and integers.
- `Exact.same`: equality as identity of data, under which an undefined value is itself.
-/

namespace TypeRegistry

/-- A binary64 number.  A finite one is `± mantissa * 2 ^ exponent`; the functions below build it
with a mantissa of 53 bits, or of fewer bits and the least exponent `-1074`. -/
inductive Double where
  | finite (negative : Bool) (mantissa : Nat) (exponent : Int)
  | infinity (negative : Bool)
  | nan
deriving DecidableEq, Repr, Inhabited

namespace Double

/-! ## Rounding -/

/-- The whole number nearest to a fraction; a half goes to the even neighbour. -/
def roundHalfEven (num den : Nat) : Nat :=
  let quotient := num / den
  let twice := 2 * (num % den)
  if twice < den then quotient
  else if den < twice then quotient + 1
  else if quotient % 2 = 0 then quotient else quotient + 1

/-- A fraction divided by a power of two, as numerator and denominator. -/
def scaleDown (num den : Nat) (exponent : Int) : Nat × Nat :=
  if exponent < 0 then (num * Nat.pow 2 (-exponent).toNat, den)
  else (num, den * Nat.pow 2 exponent.toNat)

/-- The least exponent of a finite double. -/
def leastExponent : Int := -1074

/-- The greatest exponent of a finite double. -/
def greatestExponent : Int := 971

/-- The exponent that leaves a mantissa of at most 53 bits, and no fewer unless the exponent is the
least one. -/
def exponentFor (num den : Nat) : Int :=
  let guess := max leastExponent ((Nat.log2 num : Int) - (Nat.log2 den : Int) - 53)
  let scaled := scaleDown num den guess
  if scaled.1 / scaled.2 < Nat.pow 2 53 then guess else guess + 1

/-- The double nearest to `± num / den`, for a positive denominator. -/
def ofRatio (negative : Bool) (num den : Nat) : Double :=
  if num = 0 then finite negative 0 leastExponent
  else
    let exponent := exponentFor num den
    let scaled := scaleDown num den exponent
    let mantissa := roundHalfEven scaled.1 scaled.2
    let normal :=
      if mantissa = Nat.pow 2 53 then (Nat.pow 2 52, exponent + 1) else (mantissa, exponent)
    if greatestExponent < normal.2 then infinity negative
    else finite negative normal.1 normal.2

/-- The double nearest to `± digits * 10 ^ exponent`.  Decimals far outside the range of doubles
are settled by their size, before the power of ten is formed. -/
def ofDecimal (negative : Bool) (digits : Nat) (exponent : Int) : Double :=
  let magnitude := exponent + (Nat.toDigits 10 digits).length
  if digits = 0 then finite negative 0 leastExponent
  else if 310 < magnitude then infinity negative
  else if magnitude < -330 then finite negative 0 leastExponent
  else if exponent < 0 then ofRatio negative digits (Nat.pow 10 (-exponent).toNat)
  else ofRatio negative (digits * Nat.pow 10 exponent.toNat) 1

/-- The double nearest to an integer, unless the integer is beyond all finite doubles. -/
def ofInt? (n : Int) : Option Double :=
  match ofRatio (decide (n < 0)) n.natAbs 1 with
  | infinity _ => none
  | x => some x

/-! ## Parts of a double -/

/-- The magnitude of a finite double as a fraction. -/
def toRatio (mantissa : Nat) (exponent : Int) : Nat × Nat :=
  scaleDown mantissa 1 (-exponent)

/-- The integer that a double equals, if it does. -/
def toInt? : Double → Option Int
  | finite negative mantissa exponent =>
    let ratio := toRatio mantissa exponent
    if ratio.1 % ratio.2 = 0 then
      let n : Int := (ratio.1 / ratio.2 : Nat)
      some (if negative then -n else n)
    else none
  | _ => none

/-- Whether a double is a whole number. -/
def isWhole (x : Double) : Bool :=
  x.toInt?.isSome

end Double

/-! ## Exact comparison -/

/-- The value of a number: a whole number times a power of two, an infinity, or none at all. -/
inductive Exact where
  | dyadic (whole : Int) (exponent : Int)
  | infinite (negative : Bool)
  | undefined

namespace Exact

/-- The value of an integer. -/
def ofInt (n : Int) : Exact :=
  dyadic n 0

/-- The value of a double. -/
def ofDouble : Double → Exact
  | .finite negative mantissa exponent =>
    dyadic (if negative then -(mantissa : Int) else (mantissa : Int)) exponent
  | .infinity negative => infinite negative
  | .nan => undefined

/-- The whole number that stands for a value once the exponent is lowered to a common one. -/
def lowered (whole exponent common : Int) : Int :=
  whole * Nat.pow 2 (exponent - common).toNat

/-- Whether one value is less than another; nothing is less or greater than an undefined value. -/
def lt : Exact → Exact → Bool
  | dyadic m d, dyadic n e => decide (lowered m d (min d e) < lowered n e (min d e))
  | dyadic _ _, infinite negative => !negative
  | infinite negative, dyadic _ _ => negative
  | infinite a, infinite b => a && !b
  | _, _ => false

/-- Whether two values are the same; an undefined value is not even itself. -/
def eq : Exact → Exact → Bool
  | dyadic m d, dyadic n e => decide (lowered m d (min d e) = lowered n e (min d e))
  | infinite a, infinite b => a == b
  | _, _ => false

/-- Whether two values are the same datum: equal, or both undefined. -/
def same : Exact → Exact → Bool
  | undefined, undefined => true
  | a, b => a.eq b

/-- Whether one value is at most another. -/
def le (a b : Exact) : Bool :=
  a.lt b || a.eq b

/-- On integers the order of values is the order of integers. -/
@[simp]
theorem lt_ofInt (m n : Int) : (ofInt m).lt (ofInt n) = decide (m < n) := by
  simp [ofInt, lt, lowered]

/-- On integers equality of values is equality of integers. -/
@[simp]
theorem eq_ofInt (m n : Int) : (ofInt m).eq (ofInt n) = decide (m = n) := by
  simp [ofInt, eq, lowered]

/-- Every value is the same datum as itself. -/
@[simp]
theorem same_self (a : Exact) : a.same a = true := by
  cases a with
  | dyadic m d => simp [same, eq]
  | infinite negative => simp [same, eq]
  | undefined => rfl

/-- On integers sameness is equality. -/
@[simp]
theorem same_ofInt (m n : Int) : (ofInt m).same (ofInt n) = decide (m = n) :=
  eq_ofInt m n

end Exact

end TypeRegistry
