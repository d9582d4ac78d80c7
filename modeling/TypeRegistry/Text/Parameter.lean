import TypeRegistry.Text.Digit
import TypeRegistry.Text.Split

/-!
# Parameters

Settings and the parameters of requests are given as texts.  A truth value has several spellings,
small and capital letters alike.  An integer is written in ASCII digits, with white space around it,
a sign in front, leading zeros, single underscores between its characters, and perhaps a fraction of
one or more zeros.  What is left without all these must be the plain numeral of an integer.

Main definitions:

- `truth?`: the truth value that a text spells.
- `withoutLeadingZeros?`, `withoutZeroFraction`, `withoutUnderscores`: what may be left out of an
  integer.
- `plainInteger?`: the integer whose plain numeral a text is.
- `integer?`: the integer that a text spells.
-/

namespace TypeRegistry.Text

/-! ## Truth values -/

/-- The spellings of true, in small letters. -/
def trueSpellings : List String := ["1", "on", "t", "true", "y", "yes"]

/-- The spellings of false, in small letters. -/
def falseSpellings : List String := ["0", "off", "f", "false", "n", "no"]

/-- The truth value that a text spells. -/
def truth? (s : String) : Option Bool :=
  let lowered := String.ofList (s.toList.map Char.toLower)
  if lowered ∈ trueSpellings then some true
  else if lowered ∈ falseSpellings then some false
  else none

/-! ## What may be left out of an integer -/

/-- A text from the first sign or digit that counts on, behind a leading zero and the zeros and
underscores after it.  The last of them stands when a point or nothing follows. -/
def behindZeros? (last : Char) : List Char → Option (List Char)
  | [] => some [last]
  | c :: rest =>
    if c = '0' || c = '_' then behindZeros? c rest
    else if c = '.' then some (last :: c :: rest)
    else if c = '-' || c.isDigit then some (c :: rest)
    else none

/-- A text without the zeros in front, if it begins with a digit or a minus sign. -/
def withoutLeadingZeros? : List Char → Option (List Char)
  | [] => none
  | c :: rest =>
    if c = '0' then behindZeros? c rest
    else if c = '-' || c.isDigit then some (c :: rest)
    else none

/-- A text without the plus sign and the zeros in front; no second sign may follow the plus sign. -/
def withoutLead? : List Char → Option (List Char)
  | '+' :: '-' :: _ => none
  | '+' :: rest => withoutLeadingZeros? rest
  | '-' :: rest => (withoutLeadingZeros? rest).map ('-' :: ·)
  | rest => withoutLeadingZeros? rest

/-- A text without a fraction of zeros. -/
def withoutZeroFraction (cs : List Char) : List Char :=
  match cutAt? '.' cs with
  | some (whole, fraction) =>
    if !fraction.isEmpty && fraction.all (· = '0') then whole else cs
  | none => cs

/-- A text without underscores, if each of them stands alone between other characters. -/
def withoutUnderscores (cs : List Char) : List Char :=
  if (splitOn '_' cs).all (!·.isEmpty) then cs.filter (· ≠ '_') else cs

/-! ## Integers -/

/-- The number whose plain numeral a text is: ASCII digits, of which the first is a zero only if it
is the only one. -/
def plainNatural? (cs : List Char) : Option Nat :=
  if cs.isEmpty || !cs.all Char.isDigit || (cs.head? = some '0' && cs ≠ ['0']) then none
  else some (digitsValue 10 cs)

/-- The integer whose plain numeral a text is, perhaps with a minus sign in front. -/
def plainInteger? (cs : List Char) : Option Int :=
  if cs.length ≤ digitLimit then
    match cs with
    | '-' :: digits => (plainNatural? digits).map fun n => -(n : Int)
    | digits => (plainNatural? digits).map fun n => (n : Int)
  else none

/-- The integer that a text spells. -/
def integer? (s : String) : Option Int := do
  let body ← withoutLead? (trimWhere isWhiteSpace s.toList)
  plainInteger? (withoutUnderscores (withoutZeroFraction body))

end TypeRegistry.Text
