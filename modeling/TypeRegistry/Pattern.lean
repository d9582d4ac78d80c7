import TypeRegistry.Identifier.Parser

/-!
# Patterns

A pattern is an identifier, or one cut short by a star at its very end, either as the last token of
a segment or as a segment of its own behind a type.  A pattern is matched against the segments of a
candidate from the front: a full segment must agree with the candidate's, the minor version counting
only if the pattern writes one; a segment cut short decides by the fields it writes, whatever else
follows in the candidate; a pattern without a star needs as many segments as the candidate has.

Main definitions:

- `Pattern`, `Pattern.parse`, `PatternFault`: patterns, and why a text is none.
- `Pattern.matchesSegments`: matching on segments.
- `Pattern.accepts`: matching of a text, invalid texts matching nothing.
- `MatchReport`: matching with the reason why a text is invalid.
-/

namespace TypeRegistry

/-! ## Faults -/

/-- What is wrong with a pattern. -/
inductive PatternCause where
  | leadMissing
  | repeatedWildcard
  | misplacedWildcard
  | identifier (fault : IdentifierFault)
deriving DecidableEq, Repr

/-- A text that is no pattern, and what is wrong with it. -/
structure PatternFault where
  given : String
  cause : PatternCause
deriving DecidableEq, Repr

/-- The wording of what is wrong with a pattern. -/
def PatternCause.message : PatternCause → String
  | leadMissing => "Does not start with '" ++ Identifier.lead ++ "'"
  | repeatedWildcard => "The wildcard '*' token is allowed only once"
  | misplacedWildcard => "The wildcard '*' token is allowed only at the end of the pattern"
  | identifier fault => fault.message

/-- The wording of a fault. -/
def PatternFault.message (fault : PatternFault) : String :=
  "Invalid GTS wildcard pattern: " ++ fault.given ++ ": " ++ fault.cause.message

/-! ## Patterns -/

/-- A pattern: its text and its segments. -/
structure Pattern where
  text : String
  segments : List Segment
deriving DecidableEq, Repr

namespace Pattern

/-- Whether a text ends in a star that stands for a token or a segment. -/
def endsInWildcard (s : String) : Bool :=
  Text.endsWith ".*" s || Text.endsWith "~*" s

/-- The pattern that a text spells. -/
def parse (given : String) : Except PatternFault Pattern :=
  let text := Text.trim given
  if !Text.startsWith Identifier.lead text then .error ⟨given, .leadMissing⟩
  else if 1 < Text.count '*' text then .error ⟨given, .repeatedWildcard⟩
  else if Text.count '*' text = 1 && !endsInWildcard text then .error ⟨given, .misplacedWildcard⟩
  else
    match Identifier.parsePattern text with
    | .error fault => .error ⟨given, .identifier fault⟩
    | .ok id => .ok ⟨text, id.segments⟩

/-- Whether the pattern has a star. -/
def hasWildcard (pattern : Pattern) : Bool :=
  pattern.text.toList.contains '*'

/-! ## Matching -/

/-- A field that a pattern does not write agrees with everything. -/
def fieldAgrees {α : Type} [DecidableEq α] (wanted actual : Option α) : Bool :=
  wanted.isNone || wanted == actual

/-- Whether a segment cut short agrees with a candidate's segment: the fields it writes do. -/
def openAgrees (wanted actual : Segment) : Bool :=
  let w := wanted.written
  let a := actual.written
  fieldAgrees w.vendor a.vendor && fieldAgrees w.package a.package &&
    fieldAgrees w.space a.space && fieldAgrees w.typeName a.typeName &&
    fieldAgrees w.major a.major && fieldAgrees w.minor a.minor &&
    (!wanted.isType || actual.isType)

/-- Whether a full segment agrees with a candidate's segment: all fields do, the minor version only
if the pattern writes one. -/
def fullAgrees (wanted actual : Segment) : Bool :=
  let w := wanted.written
  let a := actual.written
  w.vendor == a.vendor && w.package == a.package && w.space == a.space &&
    w.typeName == a.typeName && w.major == a.major && fieldAgrees w.minor a.minor &&
    wanted.isType == actual.isType

/-- Whether the segments of a pattern match those of a candidate, compared from the front. -/
def agreeFromFront : (wanted actual : List Segment) → Bool
  | [], actual => actual.isEmpty
  | _ :: _, [] => false
  | w :: wanted, a :: actual =>
    if w.isWildcard then openAgrees w a else fullAgrees w a && agreeFromFront wanted actual

/-- Whether the segments of a pattern match those of a candidate.  A pattern with more segments than
the candidate never does. -/
def matchesSegments (wanted actual : List Segment) : Bool :=
  wanted.length ≤ actual.length && agreeFromFront wanted actual

/-- Whether a pattern matches an identifier. -/
def matchesIdentifier (pattern : Pattern) (id : Identifier) : Bool :=
  matchesSegments pattern.segments id.segments

/-- Whether a pattern matches all that another one, taken as a candidate, writes. -/
def matchesPattern (pattern candidate : Pattern) : Bool :=
  matchesSegments pattern.segments candidate.segments

/-- Whether the text of a pattern matches the text of an identifier; invalid texts do not match. -/
def accepts (pattern candidate : String) : Bool :=
  match parse pattern, Identifier.parse candidate with
  | .ok pattern, .ok id => pattern.matchesIdentifier id
  | _, _ => false

end Pattern

/-! ## Reports -/

/-- The outcome of matching two texts, with the reason why one of them is invalid. -/
structure MatchReport where
  candidate : String
  pattern : String
  isMatch : Bool
  problem : String
deriving DecidableEq, Repr

/-- Match two texts.  The candidate is read first, so its fault is the one reported. -/
def MatchReport.ofTexts (candidate pattern : String) : MatchReport :=
  match Identifier.parse candidate with
  | .error fault => ⟨candidate, pattern, false, fault.message⟩
  | .ok id =>
    match Pattern.parse pattern with
    | .error fault => ⟨candidate, pattern, false, fault.message⟩
    | .ok p => ⟨candidate, pattern, p.matchesIdentifier id, ""⟩

end TypeRegistry
