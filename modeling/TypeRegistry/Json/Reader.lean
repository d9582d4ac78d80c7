import TypeRegistry.Json.Basic
import TypeRegistry.Text.Digit

/-!
# Reading JSON

The reader accepts the JSON grammar and the three number words `NaN`, `Infinity` and `-Infinity`.
Raw control characters in strings, comments, trailing commas, leading zeros and a byte order mark
are faults.  When a name occurs twice in an object, the later value takes the earlier place, so
every document read is well formed.  An escape of half a surrogate pair is read as U+FFFD.

A fault is a cause with the position, in characters, at which it shows.

Main definitions:

- `Fault`, `Fault.message`: why a text is no document, and how that is said.
- `Json.read`: the document that a text spells.
-/

namespace TypeRegistry.Json

open Dictionary

/-! ## Faults -/

/-- Why a text is no JSON document. -/
inductive FaultCause where
  | byteOrderMark
  | valueExpected
  | nameExpected
  | colonExpected
  | commaExpected
  | extraData
  | unterminatedString
  | controlCharacter
  | badEscape
  | badUnicodeEscape
  | tooManyDigits
deriving DecidableEq, Repr

/-- A cause and the position at which it shows. -/
structure Fault where
  cause : FaultCause
  position : Nat
deriving DecidableEq, Repr

/-- The wording of a cause. -/
def FaultCause.message : FaultCause → String
  | byteOrderMark => "Unexpected UTF-8 BOM (decode using utf-8-sig)"
  | valueExpected => "Expecting value"
  | nameExpected => "Expecting property name enclosed in double quotes"
  | colonExpected => "Expecting ':' delimiter"
  | commaExpected => "Expecting ',' delimiter"
  | extraData => "Extra data"
  | unterminatedString => "Unterminated string starting at"
  | controlCharacter => "Invalid control character at"
  | badEscape => "Invalid \\escape"
  | badUnicodeEscape => "Invalid \\uXXXX escape"
  | tooManyDigits => "Exceeds the limit for the digits of an integer"

/-- The line of a position, counted from one. -/
def lineOf (position : Nat) (text : List Char) : Nat :=
  (text.take position).count '\n' + 1

/-- The column of a position, counted from one. -/
def columnOf (position : Nat) (text : List Char) : Nat :=
  ((text.take position).reverse.takeWhile (· ≠ '\n')).length + 1

/-- The wording of a fault in a text, with line, column and position. -/
def Fault.message (fault : Fault) (text : String) : String :=
  fault.cause.message ++ ": line " ++ Text.ofNat (lineOf fault.position text.toList) ++
    " column " ++ Text.ofNat (columnOf fault.position text.toList) ++
    " (char " ++ Text.ofNat fault.position ++ ")"

/-! ## The rest of the text -/

/-- What is still to be read, and the position where it begins. -/
structure Cursor where
  position : Nat
  rest : List Char

/-- What a reading step yields: a value and what is left, or a fault. -/
abbrev Step (α : Type) := Except Fault (α × Cursor)

namespace Cursor

/-- Blanks of the JSON grammar. -/
def isGap (c : Char) : Bool :=
  c == ' ' || c == '\t' || c == '\n' || c == '\r'

/-- The cursor behind the blanks. -/
def skipGaps (cursor : Cursor) : Cursor :=
  ⟨cursor.position + (cursor.rest.takeWhile isGap).length, cursor.rest.dropWhile isGap⟩

/-- The cursor behind a number of characters. -/
def advance (cursor : Cursor) (count : Nat) : Cursor :=
  ⟨cursor.position + count, cursor.rest.drop count⟩

/-- A fault at the cursor. -/
def fail {α : Type} (cursor : Cursor) (cause : FaultCause) : Step α :=
  .error ⟨cause, cursor.position⟩

end Cursor

/-! ## Numbers -/

/-- The digits at the front of a text, and the rest. -/
def spanDigits (cs : List Char) : List Char × List Char :=
  (cs.takeWhile Char.isDigit, cs.dropWhile Char.isDigit)

/-- The whole part at the front of a text: a zero, or digits that start with another digit. -/
def wholePart : List Char → List Char × List Char
  | '0' :: rest => (['0'], rest)
  | cs => spanDigits cs

/-- The fraction at the front of a text: a point with digits behind it, or nothing. -/
def fractionPart : List Char → List Char × List Char
  | '.' :: rest =>
    let (digits, after) := spanDigits rest
    if digits.isEmpty then ([], '.' :: rest) else (digits, after)
  | cs => ([], cs)

/-- The sign in front of the digits of an exponent. -/
def exponentSign : List Char → Bool × List Char
  | '-' :: rest => (true, rest)
  | '+' :: rest => (false, rest)
  | cs => (false, cs)

/-- The exponent at the front of a text, if a mark is followed by digits. -/
def exponentPart : List Char → Option Int × List Char
  | c :: rest =>
    if c = 'e' || c = 'E' then
      let (negative, unsigned) := exponentSign rest
      let (digits, after) := spanDigits unsigned
      if digits.isEmpty then (none, c :: rest)
      else
        let value : Int := Text.digitsValue 10 digits
        (some (if negative then -value else value), after)
    else (none, c :: rest)
  | [] => (none, [])

/-- The number at the cursor: an integer unless it has a fraction or an exponent. -/
def readNumber (cursor : Cursor) : Step Json :=
  let (negative, unsigned) := match cursor.rest with
    | '-' :: rest => (true, rest)
    | rest => (false, rest)
  let (whole, afterWhole) := wholePart unsigned
  if whole.isEmpty then cursor.fail .valueExpected
  else
    let (fraction, afterFraction) := fractionPart afterWhole
    let (exponent, rest) := exponentPart afterFraction
    let behind := cursor.advance (cursor.rest.length - rest.length)
    if fraction.isEmpty && exponent.isNone then
      if Text.digitLimit < whole.length then cursor.fail .tooManyDigits
      else
        let value : Int := Text.digitsValue 10 whole
        .ok (.int (if negative then -value else value), behind)
    else
      let digits := Text.digitsValue 10 (whole ++ fraction)
      .ok (.float (Double.ofDecimal negative digits (exponent.getD 0 - fraction.length)), behind)

/-! ## Strings -/

/-- The value of four hexadecimal digits. -/
def hexUnitValue? (a b c d : Char) : Option Nat := do
  let a ← Text.hexDigit? a
  let b ← Text.hexDigit? b
  let c ← Text.hexDigit? c
  let d ← Text.hexDigit? d
  return ((a * 16 + b) * 16 + c) * 16 + d

/-- The character that a one-letter escape stands for. -/
def simpleEscape? : Char → Option Char
  | '"' => some '"'
  | '\\' => some '\\'
  | '/' => some '/'
  | 'b' => some '\x08'
  | 'f' => some '\x0c'
  | 'n' => some '\n'
  | 'r' => some '\r'
  | 't' => some '\t'
  | _ => none

/-- The character that stands for half of a surrogate pair without the other half. -/
def replacement : Char := '\uFFFD'

/-- What is read so far, in reverse, once a waiting high surrogate is known to stand alone. -/
def settle (high : Option Nat) (acc : List Char) : List Char :=
  match high with
  | some _ => replacement :: acc
  | none => acc

/-- Take in one UTF-16 unit: the new waiting high surrogate and what is read so far, in reverse. -/
def takeUnit (unit : Nat) (high : Option Nat) (acc : List Char) : Option Nat × List Char :=
  if 0xD800 ≤ unit && unit < 0xDC00 then (some unit, settle high acc)
  else if 0xDC00 ≤ unit && unit < 0xE000 then
    match high with
    | some h => (none, Char.ofNat (0x10000 + (h - 0xD800) * 0x400 + (unit - 0xDC00)) :: acc)
    | none => (none, replacement :: acc)
  else (none, Char.ofNat unit :: settle high acc)

/-- Read the rest of a string whose opening quote stands at `start`. -/
def readStringFrom (start : Nat) : (position : Nat) → (high : Option Nat) → (acc : List Char) →
    List Char → Step String
  | position, high, acc, '"' :: rest =>
    .ok (String.ofList (settle high acc).reverse, ⟨position + 1, rest⟩)
  | position, high, acc, '\\' :: 'u' :: a :: b :: c :: d :: next :: rest =>
    match hexUnitValue? a b c d with
    | some unit =>
      let (high, acc) := takeUnit unit high acc
      readStringFrom start (position + 6) high acc (next :: rest)
    | none => .error ⟨.badUnicodeEscape, position + 1⟩
  | position, _, _, '\\' :: 'u' :: _ => .error ⟨.badUnicodeEscape, position + 1⟩
  | position, high, acc, '\\' :: c :: rest =>
    match simpleEscape? c with
    | some plain => readStringFrom start (position + 2) none (plain :: settle high acc) rest
    | none => .error ⟨.badEscape, position⟩
  | _, _, _, ['\\'] => .error ⟨.unterminatedString, start⟩
  | position, high, acc, c :: rest =>
    if c.toNat < 32 then .error ⟨.controlCharacter, position⟩
    else readStringFrom start (position + 1) none (c :: settle high acc) rest
  | _, _, _, [] => .error ⟨.unterminatedString, start⟩

/-- Read the rest of a string, the cursor standing behind its opening quote. -/
def readString (cursor : Cursor) : Step String :=
  readStringFrom (cursor.position - 1) cursor.position none [] cursor.rest

/-! ## Values -/

/-- The words that stand for values. -/
def words : List (String × Json) :=
  [("null", .null), ("true", .bool true), ("false", .bool false), ("NaN", .float .nan),
   ("Infinity", .float (.infinity false)), ("-Infinity", .float (.infinity true))]

/-- The value of the word at the front of a text, and the length of the word. -/
def wordAt? (cs : List Char) : Option (Json × Nat) :=
  (words.find? fun word => word.1.toList.isPrefixOf cs).map fun word => (word.2, word.1.length)

mutual

/-- The value at the cursor.  The fuel bounds the number of nested calls. -/
def readValue : (fuel : Nat) → Cursor → Step Json
  | 0, cursor => cursor.fail .valueExpected
  | fuel + 1, cursor =>
    match cursor.rest with
    | '"' :: _ =>
      match readString (cursor.advance 1) with
      | .ok (s, behind) => .ok (.str s, behind)
      | .error fault => .error fault
    | '[' :: _ =>
      let inside := (cursor.advance 1).skipGaps
      match inside.rest with
      | ']' :: _ => .ok (.arr [], inside.advance 1)
      | _ => readItems fuel [] inside
    | '\x7b' :: _ =>
      let inside := (cursor.advance 1).skipGaps
      match inside.rest with
      | '\x7d' :: _ => .ok (.obj [], inside.advance 1)
      | _ => readMembers fuel [] inside
    | _ =>
      match wordAt? cursor.rest with
      | some (value, length) => .ok (value, cursor.advance length)
      | none => readNumber cursor

/-- The rest of an array from an item on, the items so far being given in reverse. -/
def readItems : (fuel : Nat) → (items : List Json) → Cursor → Step Json
  | 0, _, cursor => cursor.fail .valueExpected
  | fuel + 1, items, cursor =>
    match readValue fuel cursor with
    | .error fault => .error fault
    | .ok (item, behind) =>
      let next := behind.skipGaps
      match next.rest with
      | ']' :: _ => .ok (.arr (item :: items).reverse, next.advance 1)
      | ',' :: _ => readItems fuel (item :: items) (next.advance 1).skipGaps
      | _ => next.fail .commaExpected

/-- The rest of an object from a name on, after the members so far. -/
def readMembers : (fuel : Nat) → (members : Members) → Cursor → Step Json
  | 0, _, cursor => cursor.fail .valueExpected
  | fuel + 1, members, cursor =>
    match cursor.rest with
    | '"' :: _ =>
      match readString (cursor.advance 1) with
      | .error fault => .error fault
      | .ok (name, afterName) =>
        let colon := afterName.skipGaps
        match colon.rest with
        | ':' :: _ =>
          match readValue fuel (colon.advance 1).skipGaps with
          | .error fault => .error fault
          | .ok (value, behind) =>
            let next := behind.skipGaps
            let members := put name value members
            match next.rest with
            | '\x7d' :: _ => .ok (.obj members, next.advance 1)
            | ',' :: _ => readMembers fuel members (next.advance 1).skipGaps
            | _ => next.fail .commaExpected
        | _ => colon.fail .colonExpected
    | _ => cursor.fail .nameExpected

end

/-- The document that a text spells.  Every nested call reads at least one character, so the fuel
does not run out. -/
def read (text : String) : Except Fault Json :=
  let cs := text.toList
  if cs.head? = some '\uFEFF' then .error ⟨.byteOrderMark, 0⟩
  else
    match readValue (2 * cs.length + 2) (Cursor.skipGaps ⟨0, cs⟩) with
    | .error fault => .error fault
    | .ok (document, behind) =>
      let last := behind.skipGaps
      if last.rest.isEmpty then .ok document else .error ⟨.extraData, last.position⟩

end TypeRegistry.Json
