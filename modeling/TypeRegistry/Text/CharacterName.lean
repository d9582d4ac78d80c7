import TypeRegistry.Text.CharacterName.Table
import TypeRegistry.Text.Digit
import TypeRegistry.Text.Split

/-!
# Characters by name

Every character has a name in capitals.  Most names stand in a table; those of Korean syllables are
put together from the names of their parts, and those of unified ideographs end in the number of the
character.  Letters of a name in a table may also be small.

Main definitions:

- `nameAfter`: the words of a name in a table, behind the name before it.
- `syllableNamed?`, `ideographNamed?`: characters whose names follow a rule.
- `characterNamed?`: the character that has a name.
-/

namespace TypeRegistry.Text

/-! ## Names in tables -/

/-- The words of a name, given those of the name before it and its entry in the table. -/
def nameAfter (previous : List (List Char)) : (entry : List Char) → List (List Char)
  | front :: back :: middle =>
    let shared (digit : Char) := digitsValue 10 [digit]
    previous.take (shared front) ++ (if middle.isEmpty then [] else splitOn ' ' middle) ++
      previous.drop (previous.length - shared back)
  | _ => []

/-- A name that shares nothing with the name before it is spelled out by its entry. -/
theorem nameAfter_whole (previous : List (List Char)) {middle : List Char} (h : middle ≠ []) :
    nameAfter previous ('0' :: '0' :: middle) = splitOn ' ' middle := by
  simp [nameAfter, digitsValue, hexDigit?, h]

/-- The code point with a name among the entries of consecutive code points, or the last name. -/
def findEntry (name : List (List Char)) (code : Nat) (previous : List (List Char)) :
    (entries : List (List Char)) → Nat ⊕ List (List Char)
  | [] => .inr previous
  | entry :: rest =>
    let words := nameAfter previous entry
    if words = name then .inl code else findEntry name (code + 1) words rest

/-- The code point with a name in the rows of the table. -/
def findRow (name previous : List (List Char)) : (rows : List (Nat × String)) → Option Nat
  | [] => none
  | (first, entries) :: rest =>
    match findEntry name first previous (splitOn '|' entries.toList) with
    | .inl code => some code
    | .inr last => findRow name last rest

/-- The code point of a selector of one of 256 variations. -/
def selectorNamed? (name : List Char) : Option Nat :=
  match name with
  | 'V' :: 'S' :: digits =>
    let number := digitsValue 10 digits
    if digits.all Char.isDigit && digits.head? ≠ some '0' && 0 < number then
      if number ≤ 16 then some (0xFE00 + number - 1)
      else if number ≤ 256 then some (0xE0100 + number - 17)
      else none
    else none
  | _ => none

/-! ## Names by rule -/

/-- The names of the first parts of Korean syllables. -/
def firstParts : List String :=
  ["G", "GG", "N", "D", "DD", "R", "M", "B", "BB", "S", "SS", "", "J", "JJ", "C", "K", "T", "P",
   "H"]

/-- The names of the vowels of Korean syllables. -/
def vowelParts : List String :=
  ["A", "AE", "YA", "YAE", "EO", "E", "YEO", "YE", "O", "WA", "WAE", "OE", "YO", "U", "WEO", "WE",
   "WI", "YU", "EU", "YI", "I"]

/-- The names of the last parts of Korean syllables. -/
def lastParts : List String :=
  ["", "G", "GG", "GS", "N", "NJ", "NH", "D", "L", "LG", "LM", "LB", "LS", "LT", "LP", "LH", "M",
   "B", "BS", "S", "SS", "NG", "J", "C", "K", "T", "P", "H"]

/-- The index of the longest of some parts at the front of a text, and the text behind it. -/
def longestPart? (parts : List String) (cs : List Char) : Option (Nat × List Char) :=
  let longer (best : Option (Nat × Nat)) (part : String × Nat) :=
    if part.1.toList.isPrefixOf cs && best.all (·.1 < part.1.length) then
      some (part.1.length, part.2)
    else best
  (parts.zipIdx.foldl longer none).map fun (length, index) => (index, cs.drop length)

/-- The code point of the Korean syllable whose parts have the names that make up a text. -/
def syllableNamed? (cs : List Char) : Option Nat := do
  let (first, cs) ← longestPart? firstParts cs
  let (vowel, cs) ← longestPart? vowelParts cs
  let (last, cs) ← longestPart? lastParts cs
  if cs.isEmpty then some (0xAC00 + (first * 21 + vowel) * 28 + last) else none

/-- The ranges of the unified ideographs. -/
def ideographRanges : List (Nat × Nat) :=
  [(0x3400, 0x4DBF), (0x4E00, 0x9FFF), (0x20000, 0x2A6DF), (0x2A700, 0x2B738), (0x2B740, 0x2B81D),
   (0x2B820, 0x2CEA1), (0x2CEB0, 0x2EBE0), (0x30000, 0x3134A)]

/-- The code point of the unified ideograph whose number a text spells. -/
def ideographNamed? (cs : List Char) : Option Nat :=
  let code := digitsValue 16 cs
  if (cs.length = 4 || cs.length = 5) && cs.all (fun c => isDigitOf 16 c && !c.isLower) &&
      ideographRanges.any fun (first, last) => first ≤ code && code ≤ last then
    some code
  else none

/-! ## Names -/

/-- The code point of the character that has a name. -/
def characterNamed? (name : List Char) : Option Nat :=
  match dropStart? "HANGUL SYLLABLE " (String.ofList name),
      dropStart? "CJK UNIFIED IDEOGRAPH-" (String.ofList name) with
  | some parts, _ => syllableNamed? parts.toList
  | none, some number => ideographNamed? number.toList
  | none, none =>
    let capitals := name.map Char.toUpper
    let further := furtherNames.find? fun (_, names) =>
      (splitOn '|' names.toList).contains capitals
    ((further.map Prod.fst).or (selectorNamed? capitals)).or
      (findRow (splitOn ' ' capitals) [] nameRuns)

end TypeRegistry.Text
