import TypeRegistry.Schema.IdentifierConstraint
import TypeRegistry.Schema.ReferenceForm
import TypeRegistry.Schema.Validator

/-!
# Validating registered entities

A registered instance is valid if its content is valid under the schema that governs it and every
constrained identifier in it is registered and of the wanted form.  A registered schema is valid if
its references and its constraints on identifiers are of a supported form and it has the form of its
dialect.  A check that breaks down has neither outcome.

Main definitions:

- `RegistryFault`: what an operation on registered entities may lack.
- `InstanceFault`, `validateInstance`: the check of an instance.
- `SchemaFault`, `validateSchema`: the check of a schema.
-/

namespace TypeRegistry

/-! ## What may be lacking -/

/-- What an operation on registered entities may lack. -/
inductive RegistryFault where
  | entityNotFound (id : String)
  | schemaNotFound (id : String)
  | schemaUndeterminable (id : String)
  | castFromSchema (id : String)
deriving DecidableEq, Repr

/-- The wording of a fault. -/
def RegistryFault.message : RegistryFault → String
  | entityNotFound id => "JSON object with GTS ID '" ++ id ++ "' not found in store"
  | schemaNotFound id => "JSON schema with GTS ID '" ++ id ++ "' not found in store"
  | schemaUndeterminable id =>
    "Can't determine JSON schema ID for instance with GTS ID '" ++ id ++ "'"
  | castFromSchema id =>
    "Cannot cast from schema ID '" ++ id ++
      "'. The from_id must be an instance (not ending with '~')."

/-! ## Instances -/

/-- Why a registered instance is not valid. -/
inductive InstanceFault where
  | identifier (fault : IdentifierFault)
  | registry (fault : RegistryFault)
  | notSchema (id : String)
  | content (fault : ValidationFault)
  | constraints (issues : List ConstraintIssue)

/-- The wording of a fault. -/
def InstanceFault.message : InstanceFault → String
  | identifier fault => "Invalid GTS ID: " ++ fault.message
  | registry fault => fault.message
  | notSchema id => "entity '" ++ id ++ "' is not a schema"
  | content fault => fault.message
  | constraints issues => Text.joinWith "; " (issues.map (·.message))

/-- The check of an instance against the schema that governs it. -/
def validateAgainst (store : Store) (entity schema : Entity) :
    Consulted (Verdict InstanceFault) := do
  match ← validate store schema.content entity.content with
  | .error cause => return .error cause
  | .ok (.error fault) => return .invalid (.content fault)
  | .ok (.ok ()) =>
    let issues ← constrainedValueIssues (some store.lookup?) schema.content "" entity.content
    if issues.isEmpty then return .valid else return .invalid (.constraints issues)

/-- The check of a registered instance. -/
def validateInstance (store : Store) (given : String) : Consulted (Verdict InstanceFault) :=
  match Identifier.parse given with
  | .error fault => .pure (.invalid (.identifier fault))
  | .ok id => do
    match ← Consulted.ask store.lookup? id.text with
    | none => return .invalid (.registry (.entityNotFound given))
    | some entity =>
      match entity.governedBy with
      | none => return .invalid (.registry (.schemaUndeterminable given))
      | some schemaId =>
        match ← Consulted.ask store.lookup? schemaId with
        | none => return .invalid (.registry (.schemaNotFound schemaId))
        | some schema =>
          if schema.isSchema then validateAgainst store entity schema
          else return .invalid (.notSchema schemaId)

/-! ## Schemas -/

/-- Why a registered schema is not valid. -/
inductive SchemaFault where
  | notTypeId (id : String)
  | registry (fault : RegistryFault)
  | notSchema (id : String)
  | issues (references : List ReferenceFormIssue) (constraints : List ConstraintIssue)
  | form (fault : ValidationFault)

/-- The wording of a fault. -/
def SchemaFault.message : SchemaFault → String
  | notTypeId id => "ID '" ++ id ++ "' is not a schema (must end with '~')"
  | registry fault => fault.message
  | notSchema id => "entity '" ++ id ++ "' is not a schema"
  | issues references constraints =>
    Text.joinWith "; " (references.map (·.message) ++ constraints.map (·.message))
  | form fault => fault.message

/-- The check of the content of a schema. -/
def checkSchemaContent (content : Json) : Verdict SchemaFault :=
  let references := referenceFormIssues "" content
  let constraints := constraintIssues content "" content
  if references.isEmpty && constraints.isEmpty then (formOf content).map (·.mapError .form)
  else .invalid (.issues references constraints)

/-- The check of a registered schema. -/
def validateSchema (store : Store) (given : String) : Consulted (Verdict SchemaFault) :=
  if Text.endsWith "~" given then do
    match ← Consulted.ask store.lookup? given with
    | none => return .invalid (.registry (.schemaNotFound given))
    | some entity =>
      if entity.isSchema then return checkSchemaContent entity.content
      else return .invalid (.notSchema given)
  else .pure (.invalid (.notTypeId given))

end TypeRegistry
