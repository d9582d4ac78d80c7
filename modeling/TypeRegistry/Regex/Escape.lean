import TypeRegistry.Regex.Progress
import TypeRegistry.Text.CharacterName

/-!
# Characters and classes in a pattern

A character behind a backslash stands for a kind of characters, a place, a group that has matched,
or a character given by its number or name; elsewhere a character stands for itself.  Square
brackets hold the entries of a class; a class of one code point alone is a letter.

Main definitions:

- `readClass`: the class behind an opening bracket.
- `readEscaped`: what an escaped character stands for.
-/

namespace TypeRegistry.Regex

/-! ## Characters -/

/-- The code point that a number of hexadecimal digits spell. -/
def hexadecimal (count : Nat) : Reading Nat := do
  let digits ← takeUpTo count (Text.isDigitOf 16)
  let code := Text.digitsValue 16 digits
  if digits.length = count && code ≤ 0x10FFFF then return code else malformed

/-- The code point that an octal digit and up to two more spell. -/
def octal (first : Char) : Reading Nat := do
  let code := Text.digitsValue 8 (first :: (← takeUpTo 2 (Text.isDigitOf 8)))
  if code ≤ 255 then return code else malformed

/-- The code point of the character whose name stands in braces. -/
def namedInBraces : Reading Nat := do
  expect '\x7b'
  match Text.characterNamed? (← nameUpTo '\x7d') with
  | some code => return code
  | none => malformed

/-- The code point of a character that has a letter. -/
def letterCode? : Char → Option Nat
  | 'a' => some 7
  | 'f' => some 12
  | 'n' => some 10
  | 'r' => some 13
  | 't' => some 9
  | 'v' => some 11
  | _ => none

/-- The kind of characters that has a letter; its capital stands for all others. -/
def kindTest? (isAscii : Bool) (c : Char) : Option CharTest :=
  let named : Option CharKind := match c.toLower with
    | 'd' => some .digit
    | 's' => some .blank
    | 'w' => some .word
    | _ => none
  named.map fun kind => .kind kind isAscii c.isUpper

/-- The code point of an escaped character, given by a letter, by its number or name, or as it is;
letters without a meaning and digits are none. -/
def escapedCode (c : Char) : Reading Nat :=
  match letterCode? c with
  | some code => return code
  | none =>
    if c = 'x' then hexadecimal 2
    else if c = 'u' then hexadecimal 4
    else if c = 'U' then hexadecimal 8
    else if c = 'N' then namedInBraces
    else if c.isAlphanum then malformed
    else return c.toNat

/-- The letter of a code point. -/
def oneCode (options : Options) (code : Nat) : Regex :=
  ofCode options.casing code false

/-! ## Classes -/

/-- The entry of a class that a sign begins. -/
def readTest (options : Options) (sign : Sign) : Reading CharTest :=
  match sign with
  | .plain c => return .code c.toNat
  | .dangling => malformed
  | .escaped c =>
    match kindTest? options.isAscii c with
    | some test => return test
    | none =>
      if c = 'b' then return .code 8
      else if Text.isDigitOf 8 c then CharTest.code <$> octal c
      else CharTest.code <$> escapedCode c

/-- The range between two entries that are code points. -/
def rangeBetween? : CharTest → CharTest → Option CharTest
  | .code first, .code last => if first ≤ last then some (.range first last) else none
  | _, _ => none

/-- The entries of a class up to its closing bracket, behind those read so far. -/
def readTests (options : Options) : (fuel : Nat) → List CharTest → Reading (List CharTest)
  | 0, _ => malformed
  | fuel + 1, tests => do
    let sign ← next
    if sign = .plain ']' && !tests.isEmpty then return tests
    let first ← readTest options sign
    if ← accept '-' then
      let sign ← next
      if sign = .plain ']' then return tests ++ [first, .code '-'.toNat]
      match rangeBetween? first (← readTest options sign) with
      | some range => readTests options fuel (tests ++ [range])
      | none => malformed
    else readTests options fuel (tests ++ [first])

/-- The class behind an opening bracket. -/
def readClass (options : Options) : Reading Regex := do
  let negated ← accept '^'
  let tests ← readTests options ((← get).signs.length + 1) []
  match tests.eraseDups with
  | [.code point] => return ofCode options.casing point negated
  | tests => return ofClass ⟨negated, options.casing, tests⟩

/-! ## Outside classes -/

/-- What an escaped digit other than zero stands for: an octal number of three digits, or the group
of a number. -/
def readNumbered (options : Options) (first : Char) : Reading Regex := do
  match ← takeUpTo 1 Char.isDigit with
  | [second] =>
    let third ←
      if [first, second].all (Text.isDigitOf 8) then takeUpTo 1 (Text.isDigitOf 8) else pure []
    let code := Text.digitsValue 8 (first :: second :: third)
    if third.isEmpty then readAgain options (Text.digitsValue 10 [first, second])
    else if code ≤ 255 then return oneCode options code
    else malformed
  | _ => readAgain options (Text.digitsValue 10 [first])

/-- What an escaped character stands for outside a class. -/
def readEscaped (options : Options) (c : Char) : Reading Regex :=
  match kindTest? options.isAscii c with
  | some test => return ofClass ⟨false, options.casing, [test]⟩
  | none =>
    if c = 'A' then return place .textStart
    else if c = 'Z' then return place .textEnd
    else if c = 'b' then return place (.wordEdge options.isAscii false)
    else if c = 'B' then return place (.wordEdge options.isAscii true)
    else if c = '0' then oneCode options <$> octal c
    else if c.isDigit then readNumbered options c
    else oneCode options <$> escapedCode c

end TypeRegistry.Regex
