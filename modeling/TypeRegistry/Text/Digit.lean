import TypeRegistry.Text.Blank

/-!
# Decimal digits

Whole numbers as people write them: any script's decimal digits, a sign in front, white space
around, and single underscores between digits.  This is the reading used for list positions in
selectors and for numeric options; the numbers of an identifier admit plain ASCII digits only.

Main definitions:

- `digitValue?`: the value of a decimal digit of any script.
- `hexDigit?`, `digitsValue`: hexadecimal digits, and numbers in a base up to sixteen.
- `wholeNumber?`: the number that a text spells.
- `ofNat`, `ofInt`: the decimal text of a number.
-/

namespace TypeRegistry.Text

/-! ## Digits of every script -/

/-- The zeros of the decimal digit blocks; the other nine digits of a block follow its zero. -/
def decimalZeros : List Nat :=
  [48, 1632, 1776, 1984, 2406, 2534, 2662, 2790, 2918, 3046, 3174, 3302, 3430, 3558, 3664, 3792,
   3872, 4160, 4240, 6112, 6160, 6470, 6608, 6784, 6800, 6992, 7088, 7232, 7248, 42528, 43216,
   43264, 43472, 43504, 43600, 44016, 65296, 66720, 68912, 69734, 69872, 69942, 70096, 70384,
   70736, 70864, 71248, 71360, 71472, 71904, 72016, 72784, 73040, 73120, 92768, 92864, 93008,
   120782, 120792, 120802, 120812, 120822, 123200, 123632, 125264, 130032]

/-- The value of a decimal digit, of whatever script. -/
def digitValue? (c : Char) : Option Nat :=
  if c.toNat < 128 then
    if c.isDigit then some (c.toNat - 48) else none
  else
    (decimalZeros.find? fun start => start ≤ c.toNat && c.toNat < start + 10).map (c.toNat - ·)

/-! ## Bases up to sixteen -/

/-- The value of a hexadecimal digit. -/
def hexDigit? (c : Char) : Option Nat :=
  if c.isDigit then some (c.toNat - 48)
  else if 'a' ≤ c && c ≤ 'f' then some (c.toNat - 87)
  else if 'A' ≤ c && c ≤ 'F' then some (c.toNat - 55)
  else none

/-- Whether a character is a digit of a base up to sixteen. -/
def isDigitOf (base : Nat) (c : Char) : Bool :=
  (hexDigit? c).any fun value => value < base

/-- The number that digits of a base spell. -/
def digitsValue (base : Nat) (digits : List Char) : Nat :=
  digits.foldl (fun value c => base * value + (hexDigit? c).getD 0) 0

/-- A further digit behind others adds itself to the base times their number. -/
@[simp]
theorem digitsValue_concat (base : Nat) (digits : List Char) (c : Char) :
    digitsValue base (digits ++ [c]) = base * digitsValue base digits + (hexDigit? c).getD 0 := by
  simp [digitsValue]

/-! ## Reading whole numbers -/

/-- The largest number of digits that a whole number may have when it is read. -/
def digitLimit : Nat := 4300

/-- Read digits with single underscores between them onto the value so far.  The flag says whether
the character before was a digit, which an underscore and the end of the text need. -/
def readDigits : (value : Nat) → (afterDigit : Bool) → List Char → Option Nat
  | value, afterDigit, [] => if afterDigit then some value else none
  | value, afterDigit, c :: rest =>
    if c = '_' then
      if afterDigit then readDigits value false rest else none
    else
      match digitValue? c with
      | some d => readDigits (10 * value + d) true rest
      | none => none

/-- The whole number that a text spells: white space around it, an optional sign, then digits. -/
def wholeNumber? (s : String) : Option Int :=
  let body := trimWhere isWhiteSpace s.toList
  let unsigned := match body with
    | '+' :: rest => rest
    | '-' :: rest => rest
    | rest => rest
  if (unsigned.filter (· ≠ '_')).length ≤ digitLimit then
    (readDigits 0 false unsigned).map fun n =>
      if body.head? = some '-' then -(n : Int) else (n : Int)
  else
    none

/-! ## Writing whole numbers -/

/-- The decimal digits of a natural number. -/
def ofNat (n : Nat) : String :=
  String.ofList (Nat.toDigits 10 n)

/-- Natural numbers with one decimal text are the same. -/
theorem ofNat_injective {m n : Nat} (h : ofNat m = ofNat n) : m = n := by
  rw [ofNat, ofNat, String.ofList_inj] at h
  rw [← Nat.ofDigitChars_ten_toDigits (n := m), h, Nat.ofDigitChars_ten_toDigits]

/-- The decimal text of an integer, with a minus sign in front of a negative one. -/
def ofInt : Int → String
  | .ofNat n => ofNat n
  | .negSucc n => "-" ++ ofNat (n + 1)

end TypeRegistry.Text
