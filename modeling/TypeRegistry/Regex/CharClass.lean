import TypeRegistry.Text.Blank
import TypeRegistry.Text.Digit
import TypeRegistry.Text.UpperCase
import TypeRegistry.Text.Word

/-!
# Classes of characters

What one step of a regular expression accepts: characters out of code points, ranges and kinds, or
all others.  Capitals and small letters may count as the same letter, and kinds may be held to
ASCII.  A code point beyond the basic plane whose letter has a case stands in a class for the small
letter alone.

Main definitions:

- `CharKind`, `CharKind.holds`: digits, blanks and word characters.
- `Casing`, `Casing.alike`, `Casing.isCased`: which code points count as the same letter.
- `CharClass`, `CharClass.accepts`: classes, and the characters in them.
-/

namespace TypeRegistry

/-- A kind of character that has a name of its own. -/
inductive CharKind where
  | digit
  | blank
  | word
deriving DecidableEq, Repr

/-- Whether a character is of a kind, among ASCII characters only if asked to. -/
def CharKind.holds (kind : CharKind) (isAscii : Bool) (c : Char) : Bool :=
  if isAscii then
    match kind with
    | digit => c.isDigit
    | blank => c = ' ' || (9 ≤ c.toNat && c.toNat ≤ 13)
    | word => c.isAlphanum || c = '_'
  else
    match kind with
    | digit => (Text.digitValue? c).isSome
    | blank => Text.isBlank c
    | word => Text.isWord c

/-! ## Letters -/

/-- Which letters count as the same: none but the letter itself, those of one ASCII letter, or those
of one letter of any script. -/
inductive Casing where
  | exact
  | ascii
  | full
deriving DecidableEq, Repr

namespace Casing

/-- The small letter that stands for a character. -/
def lowered (casing : Casing) (c : Char) : Char :=
  match casing with
  | exact => c
  | ascii => c.toLower
  | full => Text.lowered c

/-- The code points that count as the same letter as a character. -/
def forms (casing : Casing) (c : Char) : List Nat :=
  match casing with
  | exact => [c.toNat]
  | ascii => [c.toLower.toNat, c.toUpper.toNat]
  | full => Text.caseForms c

/-- Whether a character counts as the letter with a code point. -/
def isLetter (casing : Casing) (code : Nat) (c : Char) : Bool :=
  (casing.forms c).contains code

/-- Whether two characters have the same small letter. -/
def alike (casing : Casing) (c d : Char) : Bool :=
  casing.lowered c = casing.lowered d

/-- Whether a character is a letter that has other forms. -/
def isCased (casing : Casing) (c : Char) : Bool :=
  match casing with
  | exact => false
  | ascii => c.isAlpha
  | full => Text.isCased c

/-- Whether a code point is a letter that has other forms. -/
def isCasedCode (casing : Casing) (code : Nat) : Bool :=
  casing.isCased (Char.ofNat code)

/-- Every character counts as the same letter as itself. -/
@[simp]
theorem alike_self (casing : Casing) (c : Char) : casing.alike c c = true := by
  simp [alike]

end Casing

/-! ## Entries -/

/-- One entry of a class: a code point, a range of code points, or the characters of a kind or all
others. -/
inductive CharTest where
  | code (point : Nat)
  | range (first last : Nat)
  | kind (named : CharKind) (isAscii negated : Bool)
deriving DecidableEq, Repr

/-- The last code point of the basic plane. -/
def lastBasic : Nat := 0xFFFF

namespace CharTest

/-- Whether a letter lies in a range that goes beyond the basic plane: its small letter does, or the
capital of that. -/
def reaches (casing : Casing) (c : Char) (first last : Nat) : Bool :=
  let low := casing.lowered c
  [low, Text.raised low].any fun form => first ≤ form.toNat && form.toNat ≤ last

/-- Whether an entry accepts a character. -/
def accepts (casing : Casing) (c : Char) : CharTest → Bool
  | code point =>
    if casing = .exact then c.toNat = point
    else if lastBasic < point then (casing.lowered c).toNat = point
    else (casing.forms c).contains point
  | range first last =>
    if casing = .exact then first ≤ c.toNat && c.toNat ≤ last
    else
      ((casing.forms c).any fun form => first ≤ form && form ≤ min last lastBasic) ||
        (lastBasic < last && reaches casing c first last)
  | kind named isAscii negated => named.holds isAscii c != negated

/-- Whether an entry has letters with other forms in it, or code points beyond the basic plane where
forms count. -/
def hasForms (casing : Casing) : CharTest → Bool
  | code point => casing ≠ .exact && (lastBasic < point || casing.isCasedCode point)
  | range first last =>
    casing ≠ .exact &&
      (lastBasic < last || (List.range' first (last + 1 - first)).any casing.isCasedCode)
  | kind _ _ _ => false

/-- Whether an entry accepts the same characters if letters have no other forms. -/
def isCaseless (casing : Casing) : CharTest → Bool
  | code point => !casing.isCasedCode point
  | range first last => !(range first last).hasForms casing
  | kind _ _ _ => true

/-- An entry with its kind held to ASCII or not. -/
def held (isAscii : Bool) : CharTest → CharTest
  | kind named _ negated => kind named isAscii negated
  | other => other

end CharTest

/-! ## Classes -/

/-- The characters that one step accepts: those of some entries, or all others. -/
structure CharClass where
  negated : Bool
  casing : Casing
  tests : List CharTest
deriving DecidableEq, Repr

namespace CharClass

/-- Whether a class accepts a character. -/
def accepts (cls : CharClass) (c : Char) : Bool :=
  cls.tests.any (·.accepts cls.casing c) != cls.negated

/-- Whether a class has letters with other forms in it. -/
def hasForms (cls : CharClass) : Bool :=
  cls.tests.any (·.hasForms cls.casing)

/-- A class with its kinds held to ASCII or not and without other forms of letters, if none of its
letters has any. -/
def heldTo? (cls : CharClass) (isAscii : Bool) : Option CharClass :=
  if cls.tests.all (·.isCaseless cls.casing) then
    some ⟨cls.negated, .exact, cls.tests.map (·.held isAscii)⟩
  else none

/-- A class and the class of all others part the characters between them. -/
theorem accepts_not (cls : CharClass) (c : Char) :
    ({ cls with negated := !cls.negated } : CharClass).accepts c = !cls.accepts c := by
  simp [accepts]

end CharClass

end TypeRegistry
