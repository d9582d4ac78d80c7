import TypeRegistry.Identifier.Parser
import TypeRegistry.Json.Basic

/-!
# Entities

An entity is a JSON object together with what the registry reads off it: its identifier, the
identifier of the schema that governs it, the fields both were found in, and every reference to
another entity anywhere in the document.

Main definitions:

- `FieldNames`: the fields searched for identifiers, earlier ones first.
- `Origin`: the file an entity came from.
- `Reference`: an identifier found in a document, with the path to it.
- `Entity`: a document with its identity.
-/

namespace TypeRegistry

/-- The names of the fields that are searched for an entity's own identifier and for that of its
schema.  Earlier names win. -/
structure FieldNames where
  own : List String :=
    ["$id", "$$id", "gtsId", "gtsIid", "gtsOid", "gtsI", "gts_id", "gts_oid", "gts_iid", "id"]
  schema : List String :=
    ["$schema", "$$schema", "gtsTid", "gtsT", "gts_t", "gts_tid", "type", "schema"]
deriving DecidableEq, Repr

/-- The file that an entity came from, as the directories down to it, and the entity's place in a
file that holds a list. -/
structure Origin where
  path : List String
  place : Option Nat
deriving DecidableEq, Repr

/-- The name of the file, without its directories. -/
def Origin.fileName (origin : Origin) : String :=
  origin.path.getLastD ""

/-- An identifier found in a document, and the path at which it was found. -/
structure Reference where
  id : String
  path : String
deriving DecidableEq, Repr

/-- A document with its identity. -/
structure Entity where
  content : Json
  id : Option Identifier := none
  schemaId : Option String := none
  /-- The field that the identifier was read from. -/
  idField : Option String := none
  /-- The field that the schema's identifier was read from. -/
  schemaField : Option String := none
  isSchema : Bool := false
  origin : Option Origin := none
  label : String := ""
  description : String := ""
  references : List Reference := []
deriving Inhabited

namespace Entity

/-- The text of the identifier, if there is one. -/
def idText (entity : Entity) : Option String :=
  entity.id.map (·.text)

/-- The identifier of the governing schema, if one is written. -/
def governedBy (entity : Entity) : Option String :=
  match entity.schemaId with
  | some s => if s.isEmpty then none else some s
  | none => none

end Entity

end TypeRegistry
