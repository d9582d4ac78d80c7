import TypeRegistry.Identifier.Basic
import TypeRegistry.Text.Blank
import TypeRegistry.Text.Digit
import TypeRegistry.Text.LowerCase

/-!
# Reading identifiers

A text is read as an identifier once blanks around it are dropped.  The checks run in a fixed order
and the first that fails is reported: first those on the whole text, then, segment by segment, those
on the number of tokens and on each token.  A name is a lower-case letter or underscore followed by
letters, digits and underscores; a version is a decimal number without leading zeros.  Either may be
followed by one line break, which belongs to the name and does not count in the number.

A *pattern* is read in the same way, save that a star may stand where a token is due.

Main definitions:

- `IdentifierFault`, `IdentifierFault.message`: why a text is no identifier, and how that is said.
- `SegmentBody.ofTokens`: what the tokens of a segment say.
- `Identifier.read`: the identifier, or pattern, that a text spells.
- `Identifier.parse`, `Identifier.parsePattern`, `Identifier.isValid`: the uses of it.
-/

namespace TypeRegistry

/-! ## Faults -/

/-- Why a segment is malformed. -/
inductive SegmentFault where
  | tooManyTokens
  | wildcardOutsidePattern
  | tooFewTokens
  | badToken (token : String)
  | majorWithoutMark
  | majorNotNumber
  | minorNotNumber
deriving DecidableEq, Repr

/-- Why a text is no identifier as a whole. -/
inductive TextFault where
  | notLowerCase
  | hyphen
  | leadMissing
  | tooLong
  | emptySegment (position offset : Nat)
  | lonelyInstance
deriving DecidableEq, Repr

/-- Why a text is no identifier: the text as it was given, or the first malformed segment. -/
inductive IdentifierFault where
  | text (given : String) (cause : TextFault)
  | segment (position offset : Nat) (given : String) (cause : SegmentFault)
deriving DecidableEq, Repr

/-- The wording of what is wrong with a segment. -/
def SegmentFault.message : SegmentFault → String
  | tooManyTokens => "Too many tokens"
  | wildcardOutsidePattern => "Wildcard '*' is only allowed in patterns"
  | tooFewTokens => "Too few tokens"
  | badToken token => "Invalid segment token: " ++ token
  | majorWithoutMark => "Major version must start with 'v'"
  | majorNotNumber => "Major version must be an integer"
  | minorNotNumber => "Minor version must be an integer"

/-- The place of a segment, as faults give it. -/
def segmentPlace (position offset : Nat) : String :=
  "GTS segment #" ++ Text.ofNat position ++ " @ offset " ++ Text.ofNat offset

/-- The wording of what is wrong with a text. -/
def TextFault.message : TextFault → String
  | notLowerCase => "Must be lower case"
  | hyphen => "Must not contain '-'"
  | leadMissing => "Does not start with '" ++ Identifier.lead ++ "'"
  | tooLong => "Too long"
  | emptySegment position offset => segmentPlace position offset ++ " is empty"
  | lonelyInstance => "Single-segment identifier must be a type (end with '~')"

/-- What is wrong, without the text it is wrong with. -/
def IdentifierFault.cause : IdentifierFault → String
  | text _ cause => cause.message
  | segment _ _ _ cause => cause.message

/-- The wording of a fault. -/
def IdentifierFault.message : IdentifierFault → String
  | text given cause => "Invalid GTS identifier: " ++ given ++ ": " ++ cause.message
  | segment position offset given cause =>
    "Invalid " ++ segmentPlace position offset ++ ": '" ++ given ++ "': " ++ cause.message

/-! ## Tokens -/

/-- A text without the line break at its end, if it has one there. -/
def withoutFinalBreak (cs : List Char) : List Char :=
  if cs.getLast? = some '\n' then cs.dropLast else cs

/-- The characters that a name begins with. -/
def isNameStart (c : Char) : Bool :=
  c == '_' || ('a' ≤ c && c ≤ 'z')

/-- The characters of a name. -/
def isNamePart (c : Char) : Bool :=
  isNameStart c || c.isDigit

/-- Whether a text is a name, with no line break behind it. -/
def isPlainName : List Char → Bool
  | [] => false
  | c :: rest => isNameStart c && rest.all isNamePart

/-- Whether a text is a name. -/
def isName (token : List Char) : Bool :=
  isPlainName (withoutFinalBreak token)

/-- Whether a text is a decimal number without leading zeros, with no line break behind it. -/
def isPlainNumber : List Char → Bool
  | [] => false
  | c :: rest => if c = '0' then rest.isEmpty else c.isDigit && rest.all Char.isDigit

/-- The number that a version spells. -/
def versionNumber? (token : List Char) : Option Nat :=
  let digits := withoutFinalBreak token
  if isPlainNumber digits then some (Nat.ofDigitChars 10 digits 0) else none

/-! ## Segments -/

/-- The name at the front of the tokens, handed on with the tokens behind it.  A star ends the
segment with the fields written so far; there is no such end without a token. -/
def takeName (written : OpenDesignation) (tokens : List (List Char))
    (next : String → List (List Char) → Except SegmentFault SegmentBody) :
    Except SegmentFault SegmentBody :=
  match tokens with
  | [] => .error .tooFewTokens
  | token :: rest =>
    if token = ['*'] then .ok (.wildcard written)
    else if isName token then next (String.ofList token) rest
    else .error (.badToken (String.ofList token))

/-- The major version at the front of the tokens, handed on like a name. -/
def takeMajor (written : OpenDesignation) (tokens : List (List Char))
    (next : Nat → List (List Char) → Except SegmentFault SegmentBody) :
    Except SegmentFault SegmentBody :=
  match tokens with
  | [] => .error .tooFewTokens
  | token :: rest =>
    if token = ['*'] then .ok (.wildcard written)
    else
      match token with
      | 'v' :: digits =>
        match versionNumber? digits with
        | some major => next major rest
        | none => .error .majorNotNumber
      | _ => .error .majorWithoutMark

/-- What the tokens of a segment say: four names, a marked major version and perhaps a minor
version, or as many of them as stand before a star. -/
def SegmentBody.ofTokens (tokens : List (List Char)) : Except SegmentFault SegmentBody :=
  takeName {} tokens fun vendor tokens =>
  takeName ⟨vendor, none, none, none, none, none⟩ tokens fun package tokens =>
  takeName ⟨vendor, package, none, none, none, none⟩ tokens fun space tokens =>
  takeName ⟨vendor, package, space, none, none, none⟩ tokens fun typeName tokens =>
  takeMajor ⟨vendor, package, space, typeName, none, none⟩ tokens fun major tokens =>
  match tokens with
  | [] => .ok (.full ⟨vendor, package, space, typeName, major, none⟩)
  | token :: _ =>
    if token = ['*'] then .ok (.wildcard ⟨vendor, package, space, typeName, major, none⟩)
    else
      match versionNumber? token with
      | some minor => .ok (.full ⟨vendor, package, space, typeName, major, minor⟩)
      | none => .error .minorNotNumber

/-- The text of a segment without its tilde. -/
def withoutTilde (piece : List Char) : List Char :=
  if piece.getLast? = some '~' then piece.dropLast else piece

/-- What a segment says, once the number of its tokens is right. -/
def SegmentBody.ofPiece (relaxed : Bool) (piece : List Char) : Except SegmentFault SegmentBody :=
  let inner := withoutTilde piece
  let tokens := Text.splitOn '.' inner
  if 6 < tokens.length then .error .tooManyTokens
  else if tokens.contains ['*'] && !relaxed then .error .wildcardOutsidePattern
  else if !(relaxed && inner.getLast? = some '*') && tokens.length < 5 then .error .tooFewTokens
  else SegmentBody.ofTokens tokens

/-- The segments of the pieces of a chain, from a given place on. -/
def segmentsOf (relaxed : Bool) : (position offset : Nat) → List (List Char) →
    Except IdentifierFault (List Segment)
  | _, _, [] => .ok []
  | position, offset, piece :: pieces =>
    match SegmentBody.ofPiece relaxed piece with
    | .error cause => .error (.segment position offset (String.ofList piece) cause)
    | .ok body =>
      match segmentsOf relaxed (position + 1) (offset + piece.length) pieces with
      | .error fault => .error fault
      | .ok rest =>
        .ok (⟨position, offset, String.ofList piece, piece.getLast? = some '~', body⟩ :: rest)

/-! ## Identifiers -/

namespace Identifier

/-- The identifier that a text spells, or the pattern if the reading is relaxed. -/
def read (relaxed : Bool) (given : String) : Except IdentifierFault Identifier :=
  let raw := Text.trimBlanks given.toList
  let chain := raw.drop lead.length
  if !Text.isLowerCase raw then .error (.text given .notLowerCase)
  else if raw.contains '-' then .error (.text given .hyphen)
  else if !lead.toList.isPrefixOf raw then .error (.text given .leadMissing)
  else if lengthLimit < raw.length then .error (.text given .tooLong)
  else if chain.isEmpty then .error (.text given (.emptySegment 1 lead.length))
  else
    match segmentsOf relaxed 1 lead.length (Text.cutAfter '~' chain) with
    | .error fault => .error fault
    | .ok segments =>
      if !relaxed && segments.length == 1 && !segments.any Segment.isType then
        .error (.text given .lonelyInstance)
      else
        .ok ⟨String.ofList raw, segments⟩

/-- The identifier that a text spells. -/
def parse (given : String) : Except IdentifierFault Identifier :=
  read false given

/-- The pattern that a text spells, a star being allowed where a token is due. -/
def parsePattern (given : String) : Except IdentifierFault Identifier :=
  read true given

/-- The identifier that a text spells without blanks before it. -/
def parse? (given : String) : Option Identifier :=
  if Text.startsWith lead given then (parse given).toOption else none

/-- Whether a text, without blanks before it, spells an identifier. -/
def isValid (given : String) : Bool :=
  (parse? given).isSome

end Identifier

end TypeRegistry
