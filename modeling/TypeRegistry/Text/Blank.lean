/-!
# Blanks

The characters that may surround an identifier, a pattern or a filter without belonging to it:
the Unicode white space together with the four ASCII separators.  Around numbers the separators are
no blanks.

Main definitions:

- `isWhiteSpace`, `isBlank`: membership in the two classes.
- `trimWhere`: drop the characters of a class from both ends of a text.
- `trimBlanks`, `trim`: drop blanks, on lists of characters and on strings.
-/

namespace TypeRegistry.Text

/-- The white space of Unicode. -/
def isWhiteSpace (c : Char) : Bool :=
  let code := c.toNat
  (9 ≤ code && code ≤ 13) || code == 32 || code == 0x85 || code == 0xA0 || code == 0x1680 ||
    (0x2000 ≤ code && code ≤ 0x200A) || code == 0x2028 || code == 0x2029 || code == 0x202F ||
    code == 0x205F || code == 0x3000

/-- Unicode white space and the ASCII separators U+001C to U+001F. -/
def isBlank (c : Char) : Bool :=
  isWhiteSpace c || (28 ≤ c.toNat && c.toNat ≤ 31)

/-- The text without the characters of a class at either end. -/
def trimWhere (drop : Char → Bool) (cs : List Char) : List Char :=
  ((cs.dropWhile drop).reverse.dropWhile drop).reverse

/-- The text without blanks at either end. -/
def trimBlanks (cs : List Char) : List Char :=
  trimWhere isBlank cs

/-- The string without blanks at either end. -/
def trim (s : String) : String :=
  String.ofList (trimBlanks s.toList)

@[simp]
theorem trimWhere_nil (drop : Char → Bool) : trimWhere drop [] = [] := by
  simp [trimWhere]

@[simp]
theorem toList_trim (s : String) : (trim s).toList = trimBlanks s.toList := by
  simp [trim]

/-- White space is blank. -/
theorem isBlank_of_isWhiteSpace {c : Char} (h : isWhiteSpace c = true) : isBlank c = true := by
  simp [isBlank, h]

/-- ASCII white space is white space. -/
theorem isWhiteSpace_of_isWhitespace {c : Char} (h : c.isWhitespace = true) :
    isWhiteSpace c = true := by
  simp only [Char.isWhitespace, Bool.or_eq_true, decide_eq_true_eq] at h
  rcases h with ((h | h) | h) | h <;> subst h <;> decide

end TypeRegistry.Text
