import TypeRegistry.Text.Split
import TypeRegistry.Uuid.Named

/-!
# Identifiers

A registry identifier is a chain of segments behind `gts.`.  A segment names a vendor, a package, a
namespace and a type, and carries a major and perhaps a minor version; one that is closed by a tilde
is itself a type.  A chain that ends in a type names that type, any other chain names an instance
whose types come before it.  In a pattern the last segment may be cut short by a star, and then
carries only what stands before the star.

Main definitions:

- `Designation`, `OpenDesignation`: what a full segment and one cut short by a star say.
- `Segment`: a segment with its place in the chain.
- `Identifier`: a text with its segments.
- `Identifier.typeId?`: the type that an identifier belongs to.
-/

namespace TypeRegistry

/-! ## Segments -/

/-- What a full segment says. -/
structure Designation where
  vendor : String
  package : String
  space : String
  typeName : String
  major : Nat
  minor : Option Nat
deriving DecidableEq, Repr

/-- What a segment says that is cut short by a star: the fields written before it. -/
structure OpenDesignation where
  vendor : Option String := none
  package : Option String := none
  space : Option String := none
  typeName : Option String := none
  major : Option Nat := none
  minor : Option Nat := none
deriving DecidableEq, Repr

/-- The content of a segment. -/
inductive SegmentBody where
  | full (designation : Designation)
  | wildcard (written : OpenDesignation)
deriving DecidableEq, Repr

/-- The fields that a segment writes. -/
def SegmentBody.written : SegmentBody → OpenDesignation
  | .full d => ⟨some d.vendor, some d.package, some d.space, some d.typeName, some d.major, d.minor⟩
  | .wildcard w => w

/-- Whether the segment is cut short by a star. -/
def SegmentBody.isWildcard : SegmentBody → Bool
  | .full _ => false
  | .wildcard _ => true

/-- A segment of a chain. -/
structure Segment where
  /-- The place in the chain, counted from one. -/
  position : Nat
  /-- Where the segment begins in the identifier, in characters. -/
  offset : Nat
  /-- The text of the segment, with its tilde. -/
  text : String
  /-- Whether the segment is closed by a tilde. -/
  isType : Bool
  body : SegmentBody
deriving DecidableEq, Repr

/-- The fields that a segment writes. -/
def Segment.written (segment : Segment) : OpenDesignation :=
  segment.body.written

/-- Whether the segment is cut short by a star. -/
def Segment.isWildcard (segment : Segment) : Bool :=
  segment.body.isWildcard

/-! ## Identifiers -/

/-- The text every identifier begins with. -/
def Identifier.lead : String := "gts."

/-- The text that may stand before an identifier where a URI is wanted. -/
def Identifier.uriLead : String := "gts://"

/-- The greatest length of an identifier, in characters. -/
def Identifier.lengthLimit : Nat := 1024

/-- An identifier, or a pattern read as one: its text and its segments. -/
structure Identifier where
  text : String
  segments : List Segment
deriving DecidableEq, Repr

namespace Identifier

/-- Whether the identifier names a type. -/
def isType (id : Identifier) : Bool :=
  Text.endsWith "~" id.text

/-- Whether a segment is cut short by a star. -/
def isWildcard (id : Identifier) : Bool :=
  id.segments.any Segment.isWildcard

/-- The text up to and with the last tilde. -/
def throughLastTilde (cs : List Char) : List Char :=
  (cs.reverse.dropWhile (· ≠ '~')).reverse

/-- The type that an identifier belongs to: a type belongs to itself, an instance to everything up
to its last tilde. -/
def typeId? (id : Identifier) : Option String :=
  let upTo := throughLastTilde id.text.toList
  if upTo.isEmpty then none else some (String.ofList upTo)

/-- The UUID of an identifier. -/
def uuid (id : Identifier) : String :=
  Uuid.text (Uuid.named Uuid.registrySpace id.text)

/-- The text without the lead of a URI, if it has one. -/
def withoutUriLead (s : String) : String :=
  (Text.dropStart? uriLead s).getD s

end Identifier

end TypeRegistry
