import TypeRegistry.Regex.CharClass

/-!
# Regular expressions

The patterns that texts are searched for: characters, sequences and alternatives, repetition, places
in a text, groups and what refers to them, and looks ahead and behind.  A sequence ends in its last
part, alternatives in the pattern that never matches.

Main definitions:

- `Regex`: patterns.
- `Regex.ofParts`, `Regex.parts`: a sequence and its parts.
- `Regex.isStep`, `Regex.accepts`: patterns of single characters, and what they accept.
- `Opening`, `Regex.opening`: what a pattern begins with.
- `Extent`, `Regex.extent`: how long the texts are that a pattern matches.
-/

namespace TypeRegistry

/-- How a repetition goes about its number of turns: as many as possible first, as few as possible
first, or as many as possible without ever giving one up. -/
inductive Eagerness where
  | greedy
  | lazy
  | possessive
deriving DecidableEq, Repr

/-- A place in a text: the start or the end of the text or of a line, or an edge of a word. -/
inductive Place where
  | textStart
  | textEnd
  | lastLineEnd
  | lineStart
  | lineEnd
  | wordEdge (isAscii negated : Bool)
deriving DecidableEq, Repr

/-- A pattern.  Groups are numbered from one in the order in which they open; a part is a group
without a number that is read by options of its own.  A class is plain if none of its letters has
other forms. -/
inductive Regex where
  | empty
  | never
  | letter (code : Nat) (casing : Casing) (negated : Bool)
  | any (acceptsBreaks : Bool)
  | chars (cls : CharClass) (isPlain : Bool)
  | seq (first second : Regex)
  | alt (first others : Regex)
  | many (inner : Regex) (least : Nat) (most : Option Nat) (eagerness : Eagerness)
  | place (mark : Place)
  | group (number : Nat) (inner : Regex)
  | part (inner : Regex)
  | again (number : Nat) (casing : Casing)
  | ifGroup (number : Nat) (present absent : Regex)
  | atomic (inner : Regex)
  | ahead (inner : Regex) (negated : Bool)
  | behind (width : Nat) (inner : Regex) (negated : Bool)
deriving DecidableEq, Repr

namespace Regex

/-! ## Making patterns -/

/-- The pattern of a letter, which is itself alone if it has no other forms. -/
def ofCode (casing : Casing) (code : Nat) (negated : Bool) : Regex :=
  letter code (if casing.isCasedCode code then casing else .exact) negated

/-- The pattern of a class. -/
def ofClass (cls : CharClass) : Regex :=
  chars cls (!cls.hasForms)

/-- The sequence of some parts. -/
def ofParts : List Regex → Regex
  | [] => empty
  | [only] => only
  | first :: second :: rest => seq first (ofParts (second :: rest))

/-- The pattern of some alternatives. -/
def ofAlternatives : List Regex → Regex
  | [] => never
  | first :: rest => alt first (ofAlternatives rest)

/-- The parts of a sequence. -/
def parts : Regex → List Regex
  | empty => []
  | seq first second => first :: second.parts
  | other => [other]

/-! ## Single characters -/

/-- Whether a pattern that matches single characters accepts a character. -/
def accepts (c : Char) : Regex → Bool
  | letter code casing negated => casing.isLetter code c != negated
  | any acceptsBreaks => acceptsBreaks || c ≠ '\n'
  | chars cls _ => cls.accepts c
  | part inner => inner.accepts c
  | _ => false

/-- Whether a pattern matches single characters. -/
def isStep : Regex → Bool
  | letter _ _ _ => true
  | any _ => true
  | chars _ _ => true
  | part inner => inner.isStep
  | _ => false

/-! ## Openings -/

end Regex

/-- What a pattern begins with, as far as one look at a character tells: a letter that is itself
alone, a plain class, or anything else. -/
inductive Opening where
  | letter (code : Nat)
  | chars (cls : CharClass)
  | other
deriving DecidableEq, Repr

/-- Whether something that begins so can begin with a character, if there is one. -/
def Opening.allows (next : Option Char) : Opening → Bool
  | letter code => (next.map fun c => decide (c.toNat = code)).getD false
  | chars cls => (next.map cls.accepts).getD false
  | other => true

/-- Whether something that begins so can begin with a character, if only letters are told apart. -/
def Opening.allowsLetter (next : Option Char) : Opening → Bool
  | letter code => (letter code).allows next
  | _ => true

/-- What a pattern and all behind it begin with, given what that behind it begins with. -/
def Regex.opening (behind : Opening) : Regex → Opening
  | empty => behind
  | letter code .exact false => .letter code
  | chars cls true => .chars cls
  | seq first second => first.opening (second.opening behind)
  | part inner => inner.opening behind
  | _ => .other

/-! ## Extent -/

/-- The fewest and the most characters of the texts that something matches; there may be no most. -/
structure Extent where
  least : Nat
  most : Option Nat
deriving DecidableEq, Repr

/-- The number from which on turns and characters cannot be counted. -/
def countLimit : Nat := 4294967295

namespace Extent

/-- The extent of what matches a fixed number of characters. -/
def exactly (count : Nat) : Extent := ⟨count, some count⟩

/-- The number of characters, if it is the same for every text and can be counted. -/
def fixed? (extent : Extent) : Option Nat :=
  if extent.most = some extent.least && extent.least < countLimit then extent.most else none

/-- The extent of one thing behind another. -/
def add (first second : Extent) : Extent :=
  ⟨first.least + second.least,
    first.most.bind fun m => second.most.map fun n => m + n⟩

/-- The extent of one thing or another. -/
def either (first second : Extent) : Extent :=
  ⟨min first.least second.least,
    first.most.bind fun m => second.most.map fun n => max m n⟩

/-- The extent of a thing a number of times. -/
def times (extent : Extent) (least : Nat) (most : Option Nat) : Extent :=
  ⟨extent.least * least,
    if extent.most = some 0 || most = some 0 then some 0
    else extent.most.bind fun m => most.map fun n => m * n⟩

end Extent

/-- The extent of the texts that a pattern matches, given the extents of the groups.  Places and
looks match no characters, and the end of alternatives leaves those before it as they are. -/
def Regex.extent (groups : Nat → Extent) : Regex → Extent
  | empty => .exactly 0
  | never => .exactly 0
  | letter _ _ _ => .exactly 1
  | any _ => .exactly 1
  | chars _ _ => .exactly 1
  | seq first second => (first.extent groups).add (second.extent groups)
  | alt first never => first.extent groups
  | alt first others => (first.extent groups).either (others.extent groups)
  | many inner least most _ => (inner.extent groups).times least most
  | place _ => .exactly 0
  | group _ inner => inner.extent groups
  | part inner => inner.extent groups
  | again number _ => groups number
  | ifGroup _ present absent => (present.extent groups).either (absent.extent groups)
  | atomic inner => inner.extent groups
  | ahead _ _ => .exactly 0
  | behind _ _ _ => .exactly 0

end TypeRegistry
