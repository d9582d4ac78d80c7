import TypeRegistry.Json.Basic
import TypeRegistry.Number.Shortest
import TypeRegistry.Text.Split

/-!
# Writing JSON

Documents are written in ASCII: every other character, and every control character, is escaped, in
UTF-16 units.  One line forms differ in their separators and in whether members are sorted by name;
the indented form puts every item and member on a line of its own.

Main definitions:

- `Layout`: the choices of a one-line form; `Layout.compact`, `Layout.spaced` are the two in use.
- `Json.write`: a document on one line.
- `Json.writeIndented`: a document over several lines, two blanks a level.
-/

namespace TypeRegistry.Json

/-! ## Strings -/

/-- Four lower-case hexadecimal digits. -/
def hexUnit (code : Nat) : List Char :=
  let digits := Nat.toDigits 16 code
  '\\' :: 'u' :: (List.replicate (4 - digits.length) '0' ++ digits)

/-- How one character is written inside a JSON string. -/
def escapeChar (c : Char) : List Char :=
  if c = '"' then ['\\', '"']
  else if c = '\\' then ['\\', '\\']
  else if c = '\n' then ['\\', 'n']
  else if c = '\r' then ['\\', 'r']
  else if c = '\t' then ['\\', 't']
  else if c.toNat = 8 then ['\\', 'b']
  else if c.toNat = 12 then ['\\', 'f']
  else if 32 ≤ c.toNat ∧ c.toNat ≤ 126 then [c]
  else if c.toNat < 0x10000 then hexUnit c.toNat
  else
    let rest := c.toNat - 0x10000
    hexUnit (0xD800 + rest / 0x400) ++ hexUnit (0xDC00 + rest % 0x400)

/-- A JSON string with its quotes. -/
def writeString (s : String) : String :=
  String.ofList ('"' :: s.toList.flatMap escapeChar ++ ['"'])

/-! ## Numbers -/

/-- The text of a double in a JSON document. -/
def writeDouble : Double → String
  | .infinity negative => if negative then "-Infinity" else "Infinity"
  | .nan => "NaN"
  | x => x.text

/-! ## One line -/

/-- The choices of a one-line form. -/
structure Layout where
  /-- What stands between two items or members. -/
  between : String
  /-- What stands between a name and its value. -/
  afterName : String
  /-- Whether members are sorted by the code points of their names. -/
  sorted : Bool

/-- No blanks, members sorted. -/
def Layout.compact : Layout := ⟨",", ":", true⟩

/-- A blank behind commas and colons, members sorted. -/
def Layout.spaced : Layout := ⟨", ", ": ", true⟩

mutual

/-- A document on one line. -/
def write (layout : Layout) : Json → String
  | .null => "null"
  | .bool b => if b then "true" else "false"
  | .int n => Text.ofInt n
  | .float x => writeDouble x
  | .str s => writeString s
  | .arr items => "[" ++ Text.joinWith layout.between (writeItems layout items) ++ "]"
  | .obj members =>
    let texts := writeMembers layout members
    let ordered := if layout.sorted then Dictionary.sortByName texts else texts
    "\x7b" ++ Text.joinWith layout.between
      (ordered.map fun entry => writeString entry.1 ++ layout.afterName ++ entry.2) ++ "\x7d"

/-- The texts of the items of an array. -/
def writeItems (layout : Layout) : List Json → List String
  | [] => []
  | item :: rest => write layout item :: writeItems layout rest

/-- The texts of the members of an object, with their names. -/
def writeMembers (layout : Layout) : Members → Dictionary String
  | [] => []
  | (name, value) :: rest => (name, write layout value) :: writeMembers layout rest

end

/-! ## Several lines -/

/-- A line break and the indentation of a level. -/
def lineBreak (level : Nat) : String :=
  String.ofList ('\n' :: List.replicate (2 * level) ' ')

/-- Parts, each on a line of its own one level deeper, between brackets. -/
def writeBlock (opening closing : String) (level : Nat) (parts : List String) : String :=
  if parts.isEmpty then opening ++ closing
  else
    opening ++ lineBreak (level + 1) ++ Text.joinWith ("," ++ lineBreak (level + 1)) parts ++
      lineBreak level ++ closing

mutual

/-- A document over several lines, starting at a level of indentation. -/
def writeAt (level : Nat) : Json → String
  | .arr items => writeBlock "[" "]" level (writeItemsAt (level + 1) items)
  | .obj members => writeBlock "\x7b" "\x7d" level (writeMembersAt (level + 1) members)
  | .null => "null"
  | .bool b => if b then "true" else "false"
  | .int n => Text.ofInt n
  | .float x => writeDouble x
  | .str s => writeString s

/-- The texts of the items of an array at a level of indentation. -/
def writeItemsAt (level : Nat) : List Json → List String
  | [] => []
  | item :: rest => writeAt level item :: writeItemsAt level rest

/-- The texts of the members of an object at a level of indentation. -/
def writeMembersAt (level : Nat) : Members → List String
  | [] => []
  | (name, value) :: rest =>
    (writeString name ++ ": " ++ writeAt level value) :: writeMembersAt level rest

end

/-- A document over several lines, members in their own order, two blanks a level. -/
def writeIndented (document : Json) : String :=
  writeAt 0 document

end TypeRegistry.Json
