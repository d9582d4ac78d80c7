import TypeRegistry.Number.Double
import TypeRegistry.Text.Digit

/-!
# Shortest decimal text

A double is written with the fewest digits that read back as the same double, and of several such
digit strings with the nearest.  Magnitudes from 10^-4 up to 10^16 are written with a point, all
others with an exponent of at least two digits and a sign.

Main definitions:

- `roundsBack`: a decimal lies among the reals that round to a given double.
- `shortestDigits`: the digits and the decimal exponent of the shortest such decimal.
- `Double.text`: the text of a double.
-/

namespace TypeRegistry.Double

/-! ## The reals that round to a double -/

/-- Twice the distance, in quarters of the last place, from a double down to the next decision
point: a power of two has a nearer neighbour below. -/
def gapBelow (mantissa : Nat) (exponent : Int) : Nat :=
  if mantissa = Nat.pow 2 52 ∧ leastExponent < exponent then 1 else 2

/-- Whether `digits * 10 ^ place` rounds to `mantissa * 2 ^ exponent`.  The end points of the
interval belong to it when the mantissa is even. -/
def roundsBack (mantissa : Nat) (exponent : Int) (digits : Nat) (place : Int) : Bool :=
  let unit := toRatio 1 (exponent - 2)
  let decimal :=
    if place < 0 then (digits, Nat.pow 10 (-place).toNat) else (digits * Nat.pow 10 place.toNat, 1)
  let value := decimal.1 * unit.2
  let low := (4 * mantissa - gapBelow mantissa exponent) * unit.1 * decimal.2
  let high := (4 * mantissa + 2) * unit.1 * decimal.2
  if mantissa % 2 = 0 then low ≤ value && value ≤ high else low < value && value < high

/-! ## Digits -/

/-- The number of decimal digits of a natural number. -/
def digitCount (n : Nat) : Nat :=
  (Nat.toDigits 10 n).length

/-- The least `k`, from a given one on, for which `num * 10 ^ k` reaches `den`. -/
def leadingZeros (num den : Nat) : (fuel k : Nat) → Nat
  | 0, k => k
  | fuel + 1, k => if den ≤ num * Nat.pow 10 k then k else leadingZeros num den fuel (k + 1)

/-- The exponent of the leading decimal digit of a positive fraction. -/
def leadingPlace (num den : Nat) : Int :=
  if den ≤ num then (digitCount (num / den) : Int) - 1
  else -(leadingZeros num den 400 1 : Int)

/-- A positive fraction in units of a power of ten, rounded down. -/
def inUnits (num den : Nat) (place : Int) : Nat × Nat :=
  if place < 0 then (num * Nat.pow 10 (-place).toNat, den) else (num, den * Nat.pow 10 place.toNat)

/-- The decimal on the grid of a power of ten that rounds to a double, if one does: of the two
neighbours of the value the nearer one, and the even one if they are equally near. -/
def onGrid? (mantissa : Nat) (exponent place : Int) : Option Nat :=
  let ratio := toRatio mantissa exponent
  let scaled := inUnits ratio.1 ratio.2 place
  let below := scaled.1 / scaled.2
  let isBack (digits : Nat) := roundsBack mantissa exponent digits place
  match isBack below, isBack (below + 1) with
  | true, true => some (roundHalfEven scaled.1 scaled.2)
  | true, false => some below
  | false, true => some (below + 1)
  | false, false => none

/-- The first grid, from coarse to fine, on which a decimal rounds to a double. -/
def searchGrids (mantissa : Nat) (exponent : Int) : (grids : Nat) → (place : Int) → Nat × Int
  | 0, place =>
    let scaled := inUnits (toRatio mantissa exponent).1 (toRatio mantissa exponent).2 place
    (roundHalfEven scaled.1 scaled.2, place)
  | grids + 1, place =>
    match onGrid? mantissa exponent place with
    | some digits => (digits, place)
    | none => searchGrids mantissa exponent grids (place - 1)

/-- The digits of the shortest decimal that reads back as a positive finite double, and the power of
ten they count. -/
def shortestDigits (mantissa : Nat) (exponent : Int) : Nat × Int :=
  let ratio := toRatio mantissa exponent
  searchGrids mantissa exponent 16 (leadingPlace ratio.1 ratio.2)

/-! ## Layout -/

/-- Digits without the zeros at their end. -/
def dropTrailingZeros (digits : List Char) : List Char :=
  (digits.reverse.dropWhile (· == '0')).reverse

/-- The exponent part of a text: sign and at least two digits. -/
def exponentText (exponent : Int) : String :=
  let digits := Nat.toDigits 10 exponent.natAbs
  (if exponent < 0 then "e-" else "e+") ++
    String.ofList (List.replicate (2 - digits.length) '0' ++ digits)

/-- Lay out digits whose point stands behind the first `point` of them. -/
def layOut (digits : List Char) (point : Int) : String :=
  if -4 < point ∧ point ≤ 16 then
    if point ≤ 0 then
      "0." ++ String.ofList (List.replicate (-point).toNat '0' ++ digits)
    else
      let whole := digits.take point.toNat
      let padding := List.replicate (point.toNat - digits.length) '0'
      let fraction := digits.drop point.toNat
      String.ofList (whole ++ padding) ++ "." ++
        (if fraction.isEmpty then "0" else String.ofList fraction)
  else
    let fraction := digits.drop 1
    String.ofList (digits.take 1) ++
      (if fraction.isEmpty then "" else "." ++ String.ofList fraction) ++ exponentText (point - 1)

/-- The shortest text that reads back as the double; the infinities and the undefined value have
names. -/
def text : Double → String
  | finite negative mantissa exponent =>
    let sign := if negative then "-" else ""
    if mantissa = 0 then sign ++ "0.0"
    else
      let (digits, place) := shortestDigits mantissa exponent
      let written := Nat.toDigits 10 digits
      sign ++ layOut (dropTrailingZeros written) (written.length + place)
  | infinity negative => if negative then "-inf" else "inf"
  | nan => "nan"

/-- Both zeros keep their sign. -/
theorem text_zero (negative : Bool) (exponent : Int) :
    (finite negative 0 exponent).text = (if negative then "-" else "") ++ "0.0" := by
  simp [text]

end TypeRegistry.Double
