import TypeRegistry.Schema.Library
import TypeRegistry.Store

/-!
# Registered schemas

A reference names a registered schema by its identifier, with or without the lead of a URI; what
stands behind a number sign does not count.  Where a schema is used, a registered schema is fetched
when a reference comes to it, with the rules of the dialect that it declares.

Main definitions:

- `registeredSchema`: the registered schema that a reference names, or why there is none.
- `fetchRegistered`: the registered schema at an address.
-/

namespace TypeRegistry

/-- Why a reference names no registered schema. -/
inductive ReferenceCause where
  | notReference
  | notFound
  | notSchema
deriving DecidableEq, Repr

/-- The wording of a cause. -/
def ReferenceCause.message : ReferenceCause → String
  | notReference => "not a GTS reference"
  | notFound => "schema not found in store"
  | notSchema => "GTS reference is not a schema"

/-- A reference that names no registered schema. -/
structure ReferenceFault where
  reference : String
  cause : ReferenceCause
deriving DecidableEq, Repr

/-- The wording of a fault. -/
def ReferenceFault.message (fault : ReferenceFault) : String :=
  "Unresolvable reference: " ++ fault.reference ++ ": " ++ fault.cause.message

/-- The identifier that a reference names. -/
def referencedId (ref : String) : String :=
  Identifier.withoutUriLead (Text.before '#' ref)

/-- The content of the registered schema that a reference names. -/
def registeredSchema (lookup : Lookup) (ref : String) : Consulted (Except ReferenceFault Json) :=
  let id := referencedId ref
  if Identifier.isValid id then
    ⟨match lookup id with
      | none => .error ⟨ref, .notFound⟩
      | some entity =>
        if entity.isSchema then .ok entity.content else .error ⟨ref, .notSchema⟩,
      [id]⟩
  else .pure (.error ⟨ref, .notReference⟩)

/-- The registered schema at an address, unless it declares its dialect by something else than a
text. -/
def fetchRegistered (lookup : Lookup) (address : String) : Consulted (Option Resource) :=
  (registeredSchema lookup address).mapValue fun found =>
    match found with
    | .ok content =>
      (Dialect.draft202012.declaredOr content).toOption.map fun rules => ⟨content, rules⟩
    | .error _ => none

end TypeRegistry
