import TypeRegistry.Json.Literal
import TypeRegistry.Schema.Flat
import TypeRegistry.Schema.Keyword
import TypeRegistry.Store

/-!
# Constraints on identifiers

The keyword `x-gts-ref` restricts a string to identifiers that begin with a given text.  Its value
is that text, a star at the end being left out of account, or a pointer into the same schema that
leads to it, perhaps over further pointers.  In a schema the keyword's value is checked for its
form, in an instance the constrained strings are checked against it.

Main definitions:

- `pointedText?`: the text that a pointer leads to.
- `ConstraintCause`, `ConstraintIssue`: what is wrong with a constraint or a constrained value.
- `constraintIssues`: the check of a schema.
- `constrainedStrings`, `constrainedValueIssues`: the check of an instance.
-/

namespace TypeRegistry

open Dictionary

/-- The keyword that constrains identifiers. -/
def constraintKeyword : String := "x-gts-ref"

/-! ## Pointers -/

/-- What names lead to, one after the other; `null` leads nowhere. -/
def walk : List String → Json → Option Json
  | [], document => some document
  | name :: rest, document =>
    match document.get? name with
    | none => none
    | some .null => none
    | some value => walk rest value

/-- What a pointer step ends at: a text, or a further pointer. -/
inductive PointerStep where
  | text (s : String)
  | pointer (s : String)
deriving DecidableEq, Repr

/-- The step from a text that a pointer leads to: a text that begins with a slash is a pointer. -/
def PointerStep.ofText (s : String) : PointerStep :=
  if Text.startsWith "/" s then pointer s else text s

/-- Where a pointer leads in one step: to a string, which loses the lead of a URI, or to the
constraint of the object it ends at. -/
def pointerStep? (document : Json) (pointer : String) : Option PointerStep :=
  let path := pointer.toList.dropWhile (· == '/')
  if path.isEmpty then none
  else
    match walk ((Text.splitOn '/' path).map String.ofList) document with
    | some (.str s) =>
      match Text.dropStart? Identifier.uriLead s with
      | some bare => some (.text bare)
      | none => some (.ofText s)
    | some (.obj members) => (Json.getString? constraintKeyword members).map .ofText
    | _ => none

/-- The text at the end of a chain of pointers.  A pointer that was met before ends nowhere; the
fuel bounds the number of different pointers, which stand in the document. -/
def followPointers (document : Json) : (fuel : Nat) → (seen : List String) → (pointer : String) →
    Option String
  | 0, _, _ => none
  | fuel + 1, seen, pointer =>
    if pointer ∈ seen then none
    else
      match pointerStep? document pointer with
      | some (.text s) => some s
      | some (.pointer next) => followPointers document fuel (pointer :: seen) next
      | none => none

/-- The text that a pointer leads to. -/
def pointedText? (document : Json) (pointer : String) : Option String :=
  followPointers document (document.nodeCount + 2) [] pointer

/-! ## Issues -/

/-- What is wrong with a constraint or with a value that it constrains. -/
inductive ConstraintCause where
  | notString (kind : String)
  | unresolved (ref : String)
  | resolvesToNoPattern (ref resolved : String)
  | resolvesToNoIdentifier (ref resolved : String)
  | invalidValue (value : String)
  | mismatch (value pattern : String)
  | unregistered (value : String)
  | invalidWildcard (ref : String)
  | invalidIdentifier (ref : String)
  | invalidStart (ref : String)
deriving DecidableEq, Repr

/-- The wording of a cause. -/
def ConstraintCause.message : ConstraintCause → String
  | notString kind => "x-gts-ref value must be a string, got " ++ kind
  | unresolved ref => "Cannot resolve reference path '" ++ ref ++ "'"
  | resolvesToNoPattern ref resolved =>
    "Resolved reference '" ++ ref ++ "' -> '" ++ resolved ++ "' is not a GTS pattern"
  | resolvesToNoIdentifier ref resolved =>
    "Resolved reference '" ++ ref ++ "' -> '" ++ resolved ++ "' is not a valid GTS identifier"
  | invalidValue value => "Value '" ++ value ++ "' is not a valid GTS identifier"
  | mismatch value pattern => "Value '" ++ value ++ "' does not match pattern '" ++ pattern ++ "'"
  | unregistered value => "Referenced entity '" ++ value ++ "' not found in registry"
  | invalidWildcard ref => "Invalid GTS wildcard pattern: " ++ ref
  | invalidIdentifier ref => "Invalid GTS identifier: " ++ ref
  | invalidStart ref => "Invalid x-gts-ref value: '" ++ ref ++ "' must start with 'gts.' or '/'"

/-- An issue: where it shows, with which value, against which pattern, and why. -/
structure ConstraintIssue where
  path : String
  value : Json
  pattern : String
  cause : ConstraintCause

/-- The wording of an issue. -/
def ConstraintIssue.message (issue : ConstraintIssue) : String :=
  "x-gts-ref validation failed for field '" ++ issue.path ++ "': " ++ issue.cause.message

/-! ## Constraints in a schema -/

/-- What is wrong with a text that begins like an identifier, as a constraint. -/
def patternCause? (ref : String) : Option ConstraintCause :=
  if ref = "gts.*" then none
  else if 0 < Text.count '*' ref then
    if Text.endsWith "*" ref && Text.count '*' ref = 1 then none else some (.invalidWildcard ref)
  else if Identifier.isValid ref then none
  else some (.invalidIdentifier ref)

/-- What is wrong with a text as a constraint in a schema. -/
def constraintCause? (root : Json) (ref : String) : Option ConstraintCause :=
  if Text.startsWith Identifier.lead ref then patternCause? ref
  else if Text.startsWith "/" ref then
    match pointedText? root ref with
    | none => some (.unresolved ref)
    | some resolved =>
      if Text.startsWith Identifier.lead resolved && (patternCause? resolved).isNone then none
      else some (.resolvesToNoIdentifier ref resolved)
  else some (.invalidStart ref)

/-- The issue with one constraint at a path of a schema, if there is one. -/
def constraintIssue? (root : Json) (path : String) (ref : Json) : Option ConstraintIssue :=
  match ref with
  | .str s => (constraintCause? root s).map fun cause => ⟨path, ref, s, cause⟩
  | other => some ⟨path, other, "", .notString other.kindName⟩

/-- The issues with the constraints in a schema, in document order.  Pointers are followed from the
root. -/
def constraintIssues (root : Json) (path : String) (schema : Json) : List ConstraintIssue :=
  (occurrencesOf constraintKeyword path schema.members).filterMap fun (path, ref) =>
    constraintIssue? root path ref

/-! ## Constrained values in an instance -/

/-- A string in an instance that a schema constrains: its path, the string and the constraint. -/
structure ConstrainedString where
  path : String
  value : String
  ref : Json

/-- The constraint that a schema puts on an instance itself. -/
def constrainedHere (members : Json.Members) (path : String) (subject : Json) :
    List ConstrainedString :=
  match find? constraintKeyword members, subject with
  | some ref, .str s => [⟨path, s, ref⟩]
  | _, _ => []

/-- The strings in an instance that a schema constrains: the instance itself, the members of an
object that flattened properties describe, and the items of an array. -/
def constrainedStrings (schema : Json) (path : String) (subject : Json) :
    List ConstrainedString :=
  constrainedHere schema.members path subject ++
    (match Json.getString? "type" schema.members, subject with
      | some "object", .obj values =>
        schema.flatten.properties.attach.flatMap fun ⟨(name, property), _hp⟩ =>
          match property, find? name values with
          | .obj members, some value =>
            constrainedStrings (.obj members) (memberPath path name) value
          | _, _ => []
      | some "array", .arr items =>
        match _hi : find? "items" schema.members with
        | some (.obj members) =>
          items.zipIdx.flatMap fun (item, place) =>
            constrainedStrings (.obj members) (itemPath path place) item
        | _ => []
      | _, _ => [])
termination_by sizeOf schema
decreasing_by
  · exact Json.sizeOf_flatten_lt schema _hp
  · have h := Json.sizeOf_lt_of_find? _hi
    cases schema with
    | obj ms => simp [Json.members] at h ⊢; omega
    | _ => simp [Json.members, find?] at _hi

/-- The pattern that a constraint stands for in an instance, pointers being followed from the root
of the schema. -/
def constraintPattern (root : Json) (ref : String) : Except ConstraintCause String :=
  if Text.startsWith "/" ref then
    match pointedText? root ref with
    | none => .error (.unresolved ref)
    | some resolved =>
      if Text.startsWith Identifier.lead resolved then .ok resolved
      else .error (.resolvesToNoPattern ref resolved)
  else .ok ref

/-- The text that a pattern wants at the front of a value. -/
def patternStart (pattern : String) : String :=
  if Text.endsWith "*" pattern then Text.dropLast pattern else pattern

/-- What is wrong with a value against a pattern; with a look-up, the value must be known. -/
def valueCause? (lookup : Option Lookup) (pattern value : String) :
    Consulted (Option ConstraintCause) :=
  if !Identifier.isValid value then .pure (some (.invalidValue value))
  else if pattern ≠ "gts.*" ∧ !Text.startsWith (patternStart pattern) value then
    .pure (some (.mismatch value pattern))
  else
    match lookup with
    | none => .pure none
    | some lookup =>
      ⟨if (lookup value).isNone then some (.unregistered value) else none, [value]⟩

/-- The issue with a constrained string, if there is one. -/
def constrainedValueIssue? (lookup : Option Lookup) (root : Json) (found : ConstrainedString) :
    Consulted (Option ConstraintIssue) :=
  match found.ref with
  | .str ref =>
    match constraintPattern root ref with
    | .error cause => .pure (some ⟨found.path, .str found.value, ref, cause⟩)
    | .ok pattern =>
      (valueCause? lookup pattern found.value).mapValue fun cause? =>
        cause?.map fun cause => ⟨found.path, .str found.value, pattern, cause⟩
  | other =>
    .pure (some ⟨found.path, .str found.value, other.plain, .notString other.kindName⟩)

/-- The issues with the constrained strings of an instance. -/
def constrainedValueIssues (lookup : Option Lookup) (schema : Json) (path : String)
    (subject : Json) : Consulted (List ConstraintIssue) :=
  let checked := (constrainedStrings schema path subject).map
    (constrainedValueIssue? lookup schema)
  ⟨checked.filterMap (·.value), checked.flatMap (·.asked)⟩

end TypeRegistry
