import TypeRegistry.Number.Double
import TypeRegistry.Text.Digit

/-!
# Numbers with fixed places

The bounds of a schema are shown with ten decimal places, correctly rounded from the exact binary
value with halves to the even neighbour, and then without the zeros, and the point, at the end.

Main definitions:

- `Double.trimmedFixed`: the text of a bound.
-/

namespace TypeRegistry.Double

/-- The number of decimal places that a bound is rounded to. -/
def boundPlaces : Nat := 10

/-- The fractional digits of a count of the smallest decimal unit, all places written. -/
def fractionDigits (units : Nat) : List Char :=
  let digits := Nat.toDigits 10 (units % Nat.pow 10 boundPlaces)
  List.replicate (boundPlaces - digits.length) '0' ++ digits

/-- The text of a bound: ten places, less the zeros and the point at its end. -/
def trimmedFixed : Double → String
  | finite negative mantissa exponent =>
    let ratio := toRatio mantissa exponent
    let units := roundHalfEven (ratio.1 * Nat.pow 10 boundPlaces) ratio.2
    let fraction := ((fractionDigits units).reverse.dropWhile (· == '0')).reverse
    (if negative then "-" else "") ++ Text.ofNat (units / Nat.pow 10 boundPlaces) ++
      (if fraction.isEmpty then "" else "." ++ String.ofList fraction)
  | infinity negative => if negative then "-inf" else "inf"
  | nan => "nan"

end TypeRegistry.Double
