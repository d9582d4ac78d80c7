import TypeRegistry.Identifier.Parser
import TypeRegistry.Json.Literal
import TypeRegistry.Schema.Keyword
import TypeRegistry.Text.Blank

/-!
# The form of references between schemas

A `$ref` leads to a place in its own document, if it starts with a number sign, or to a registered
schema, named by its identifier with or without the lead of a URI.  Any other form is an issue.

Main definitions:

- `ReferenceFormCause`, `ReferenceFormIssue`: what is wrong with the form of a reference.
- `referenceFormIssue?`: the check of one reference.
- `referenceFormIssues`: the check of every reference in a schema.
-/

namespace TypeRegistry

/-- What is wrong with the form of a reference. -/
inductive ReferenceFormCause where
  | notString (kind : String)
  | empty
  | invalidIdentifier (id : String)
  | unsupported
deriving DecidableEq, Repr

/-- The wording of a cause. -/
def ReferenceFormCause.message : ReferenceFormCause → String
  | notString kind => "$ref value must be a string, got " ++ kind
  | empty => "$ref value cannot be empty"
  | invalidIdentifier id => "contains invalid GTS identifier '" ++ id ++ "'"
  | unsupported =>
    "must be a local ref (starting with '#') or a GTS URI (starting with 'gts://')"

/-- A reference of a wrong form, with the path to it. -/
structure ReferenceFormIssue where
  path : String
  reference : String
  cause : ReferenceFormCause
deriving DecidableEq, Repr

/-- The wording of an issue. -/
def ReferenceFormIssue.message (issue : ReferenceFormIssue) : String :=
  "$ref validation failed for field '" ++ issue.path ++ "': " ++ issue.cause.message

/-- What is wrong with the form of a text as a reference. -/
def referenceFormCause? (ref : String) : Option ReferenceFormCause :=
  if ref.isEmpty then some .empty
  else if Text.startsWith "#" ref then none
  else
    match Text.dropStart? Identifier.uriLead ref with
    | some rest =>
      let id := Text.before '#' rest
      if Identifier.isValid id then none else some (.invalidIdentifier id)
    | none => if Identifier.isValid (Text.before '#' ref) then none else some .unsupported

/-- The issue with one reference at a path, if there is one. -/
def referenceFormIssue? (path : String) (ref : Json) : Option ReferenceFormIssue :=
  match ref with
  | .str s =>
    let text := Text.trim s
    (referenceFormCause? text).map fun cause => ⟨path, text, cause⟩
  | other => some ⟨path, other.plain, .notString other.kindName⟩

/-- The issues with the references in a schema, in document order. -/
def referenceFormIssues (path : String) (schema : Json) : List ReferenceFormIssue :=
  (occurrencesOf "$ref" path schema.members).filterMap fun (path, ref) =>
    referenceFormIssue? path ref

end TypeRegistry
