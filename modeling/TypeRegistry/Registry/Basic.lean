import TypeRegistry.Cast
import TypeRegistry.Graph
import TypeRegistry.Query.Results
import TypeRegistry.Selector

/-!
# The registry

A registry is a store with settings and with the names of the fields that identify documents.  A
document is added as an entity if it has an identifier, if the constraints on identifiers in a
schema are well formed, and if the store accepts it; an instance may be validated right after it was
added.

Main definitions:

- `Settings`, `Settings.clamp`: the settings, and the limit that they allow.
- `Registry`, `Registry.ofWorkspace`: registries, filled from the files that the settings name.
- `AdditionFault`: why a document was not added.
- `Registry.addEntity`, `Registry.addEntities`, `Registry.addSchema`: adding documents.
-/

namespace TypeRegistry

/-! ## Settings -/

/-- The settings of a registry. -/
structure Settings where
  /-- The files and directories that are loaded at the start. -/
  paths : List String := []
  /-- Whether references are checked when an entity is registered. -/
  checksReferences : Bool := false
  /-- Whether a query may filter on a pattern for types. -/
  allowsTypeFilters : Bool := false
  /-- The limit that applies when none is asked for. -/
  usualLimit : Int := 100
  /-- The greatest limit that is granted. -/
  greatestLimit : Int := 1000
deriving DecidableEq, Repr

/-- The limit that is granted: at least one, at most the greatest. -/
def Settings.clamp (settings : Settings) (asked : Option Int) : Int :=
  max 1 (min (asked.getD settings.usualLimit) settings.greatestLimit)

/-! ## Registries -/

/-- A store with settings and with the names of the fields that identify documents. -/
structure Registry where
  settings : Settings := {}
  names : FieldNames := {}
  store : Store := {}

namespace Registry

/-- The registry of the files that its settings name. -/
def ofWorkspace (workspace : Workspace) (settings : Settings) (names : FieldNames) : Registry :=
  let reader := if settings.paths.isEmpty then none
    else some (.files { workspace := workspace, roots := settings.paths, names := names })
  { settings := settings
    names := names
    store := Store.ofReader reader settings.checksReferences }

/-- The registry with what was looked up kept in its store. -/
def keep {α : Type} (registry : Registry) (consulted : Consulted α) : α × Registry :=
  (consulted.value, { registry with store := registry.store.takeInAll consulted.asked })

end Registry

/-! ## Adding -/

/-- Why a document was not added as an entity. -/
inductive AdditionFault where
  | notObject
  | anonymous
  | constraints (issues : List ConstraintIssue)
  | registration (fault : RegistrationFault)
  | invalid (fault : InstanceFault)

/-- The wording of a fault. -/
def AdditionFault.message : AdditionFault → String
  | notObject => "Entity content must be a JSON object"
  | anonymous => "Unable to extract GTS ID from entity"
  | constraints issues => "Validation failed: " ++ Text.joinWith "; " (issues.map (·.message))
  | registration fault => fault.message
  | invalid fault => fault.message

namespace Registry

/-- The issues with the constraints of an entity that is a schema. -/
def constraintIssuesOf (entity : Entity) : List ConstraintIssue :=
  if entity.isSchema then constraintIssues entity.content "" entity.content else []

/-- Register an entity whose constraints are well formed; the outcome is its identifier. -/
def registerEntity (registry : Registry) (entity : Entity) (id : String) :
    Except AdditionFault String × Registry :=
  let (outcome, store) := registry.store.register entity none
  ((outcome.map fun () => id).mapError .registration, { registry with store := store })

/-- Add a document as an entity; the outcome is its identifier. -/
def addUnvalidated (registry : Registry) (content : Json) :
    Except AdditionFault String × Registry :=
  if content.isObject then
    let entity := Entity.ofContent registry.names none content
    match entity.id with
    | none => (.error .anonymous, registry)
    | some id =>
      let issues := constraintIssuesOf entity
      if issues.isEmpty then registry.registerEntity entity id.text
      else (.error (.constraints issues), registry)
  else (.error .notObject, registry)

/-- Validate a document that was just added as an entity; schemas count as valid. -/
def validateAdded (registry : Registry) (content : Json) (id : String) :
    Except Breakdown (Except AdditionFault String) × Registry :=
  if (Entity.ofContent registry.names none content).isSchema then (.ok (.ok id), registry)
  else
    let (verdict, registry) := registry.keep (validateInstance registry.store id)
    (verdict.map fun validity => (validity.map fun () => id).mapError .invalid, registry)

/-- Add a document as an entity and validate it if that is asked for; the outcome is its identifier.
An instance that is found invalid stays registered, and so does one whose validation breaks down. -/
def addEntity (registry : Registry) (content : Json) (validates : Bool) :
    Except Breakdown (Except AdditionFault String) × Registry :=
  match registry.addUnvalidated content with
  | (.ok id, registry) =>
    if validates then registry.validateAdded content id else (.ok (.ok id), registry)
  | (.error fault, registry) => (.ok (.error fault), registry)

/-- Add several documents as entities, one after the other. -/
def addEntities (registry : Registry) :
    List Json → List (Except AdditionFault String) × Registry
  | [] => ([], registry)
  | content :: rest =>
    let (outcome, registry) := registry.addUnvalidated content
    let (outcomes, registry) := registry.addEntities rest
    (outcome :: outcomes, registry)

/-- Add a schema under a type identifier. -/
def addSchema (registry : Registry) (typeId : String) (schema : Json) :
    Except RegistrationFault Unit × Registry :=
  let (outcome, store) := registry.store.registerSchema typeId schema
  (outcome, { registry with store := store })

/-- Drop all entities and read them anew. -/
def reload (registry : Registry) : Registry :=
  { registry with store := registry.store.reload }

end Registry

/-! ## Selecting -/

/-- The value that a selector names in a store. -/
def Selection.ofSelector (store : Store) (selector : String) : Consulted Selection :=
  let (id, path) := Selection.split selector
  if path.isEmpty then .pure ⟨id, "", .error .pathMissing⟩
  else
    (Consulted.ask store.lookup? id).mapValue fun found =>
      match found with
      | none => ⟨id, path, .error (.entityMissing id)⟩
      | some entity => ⟨id, path, entity.content.select path⟩

end TypeRegistry
