import TypeRegistry.Schema.Relax
import TypeRegistry.Schema.Report
import TypeRegistry.Validation

/-!
# Casting an instance to another version of its schema

The content of an instance is carried over to a target schema level by level: missing properties get
their defaults, required ones first; identifiers that the target pins are exchanged; properties that
the target does not declare are dropped if it allows no others; and objects and arrays of objects
below are treated in the same way.  What was added, what was dropped and what is missing without a
default is noted by its path.  The outcome is then checked under the target with pinned identifiers
relaxed to strings.

Main definitions:

- `Casting`, `castObject`: the content carried over, with the notes.
- `CastReport`, `CastReport.toJson`: the report on a cast.
- `CastFault`, `castInstance`: the cast of a registered instance.
-/

namespace TypeRegistry

open Dictionary

/-! ## Notes -/

/-- The paths of properties that were added, that were dropped, and that are missing. -/
structure CastNotes where
  added : List String := []
  removed : List String := []
  missing : List String := []
deriving DecidableEq, Repr

namespace CastNotes

/-- Notes after other notes. -/
def append (first second : CastNotes) : CastNotes :=
  ⟨first.added ++ second.added, first.removed ++ second.removed, first.missing ++ second.missing⟩

/-- The notes of several parts, one after the other. -/
def concat (parts : List CastNotes) : CastNotes :=
  parts.foldr append {}

/-- The wording of a missing property. -/
def missingMessage (path : String) : String :=
  "Missing required property '" ++ path ++ "' and no default is defined"

/-- The diagnostics of a cast. -/
def reasons (notes : CastNotes) : List String :=
  notes.missing.map missingMessage

end CastNotes

/-- An object carried over to a schema, with the notes. -/
structure Casting where
  members : Json.Members
  notes : CastNotes := {}

/-- A value carried over to a schema, with the notes. -/
structure ValueCasting where
  value : Json
  notes : CastNotes := {}

/-! ## One level -/

/-- The default that a property schema declares. -/
def default? (property : Option Json) : Option Json :=
  property.bind (·.get? "default")

/-- Give the required names that are missing their defaults, or note them as missing. -/
def fillRequired (properties : Json.Members) (path : String) (casting : Casting) :
    List String → Casting
  | [] => casting
  | name :: rest =>
    if has name casting.members then fillRequired properties path casting rest
    else
      match default? (find? name properties) with
      | some value =>
        fillRequired properties path
          ⟨put name value casting.members,
            casting.notes.append { added := [memberPath path name] }⟩ rest
      | none =>
        fillRequired properties path
          ⟨casting.members, casting.notes.append { missing := [memberPath path name] }⟩ rest

/-- Give the other properties that are missing their defaults. -/
def fillOptional (required : List String) (path : String) (casting : Casting) :
    Json.Members → Casting
  | [] => casting
  | (name, property) :: rest =>
    if name ∈ required || has name casting.members then fillOptional required path casting rest
    else
      match default? (some property) with
      | some value =>
        fillOptional required path
          ⟨put name value casting.members,
            casting.notes.append { added := [memberPath path name] }⟩ rest
      | none => fillOptional required path casting rest

/-- The identifier that takes the place of a value, if a property schema pins another one than the
identifier that the value is. -/
def pinnedIdentifier? (property value : Json) : Option String :=
  match property.get? "const", value with
  | some (.str pinned), .str current =>
    if current ≠ pinned && Identifier.isValid pinned && Identifier.isValid current then some pinned
    else none
  | _, _ => none

/-- Exchange the identifiers that property schemas pin. -/
def pinIdentifiers (properties members : Json.Members) : Json.Members :=
  members.map fun (name, value) =>
    match (find? name properties).bind fun property => pinnedIdentifier? property value with
    | some pinned => (name, .str pinned)
    | none => (name, value)

/-- Whether a schema allows no properties but those it declares. -/
def isClosed (schema : FlatSchema) : Bool :=
  match schema.additional with
  | some (.bool false) => true
  | _ => false

/-- Drop the properties that a closed schema does not declare. -/
def dropUndeclared (schema : FlatSchema) (path : String) (casting : Casting) : Casting :=
  if isClosed schema then
    { members := casting.members.filter fun member => has member.1 schema.properties
      notes := casting.notes.append
        { removed := ((keys casting.members).filter fun name =>
            !has name schema.properties).map (memberPath path) } }
  else casting

/-- Carry the members of an object over to a schema, leaving what is below them. -/
def castLevel (schema : FlatSchema) (path : String) (members : Json.Members) : Casting :=
  let required := Text.distinct schema.requiredNames
  let filled := fillOptional required path
    (fillRequired schema.properties path ⟨members, {}⟩ required) schema.properties
  dropUndeclared schema path
    ⟨pinIdentifiers schema.properties filled.members, filled.notes⟩

/-! ## All levels -/

/-- Put the values that were carried over in the place of those they came from. -/
def replaceValues (values : Dictionary ValueCasting) (members : Json.Members) : Json.Members :=
  members.map fun (name, value) =>
    match find? name values with
    | some casting => (name, casting.value)
    | none => (name, value)

mutual

/-- Carry an object at a path over to a schema. -/
def castObject (schema : Json) (path : String) (members : Json.Members) : Casting :=
  let level := castLevel schema.flatten path members
  let values := schema.flatten.properties.attach.filterMap fun ⟨(name, property), _hp⟩ =>
    (find? name level.members).map fun value =>
      (name, castValue property (memberPath path name) value)
  { members := replaceValues values level.members
    notes := level.notes.append (.concat (values.map fun entry => entry.2.notes)) }
termination_by 2 * sizeOf schema
decreasing_by
  have := Json.sizeOf_flatten_lt schema _hp
  omega

/-- Carry a value at a path over to a property schema: an object to a schema of objects, the objects
in an array to the schema of its items; all else stays as it is. -/
def castValue (property : Json) (path : String) (value : Json) : ValueCasting :=
  match property with
  | .obj schema =>
    match value with
    | .obj members =>
      if declaredType schema = "object" then
        let casting := castObject (.obj schema) path members
        ⟨.obj casting.members, casting.notes⟩
      else ⟨value, {}⟩
    | .arr items =>
      if declaredType schema = "array" then
        match _hi : find? "items" schema with
        | some (.obj itemSchema) =>
          if declaredType itemSchema = "object" then
            let castings := items.zipIdx.map fun (item, place) =>
              match item with
              | .obj members =>
                let casting := castObject (.obj itemSchema) (itemPath path place) members
                (⟨.obj casting.members, casting.notes⟩ : ValueCasting)
              | other => ⟨other, {}⟩
            ⟨.arr (castings.map (·.value)), .concat (castings.map (·.notes))⟩
          else ⟨value, {}⟩
        | _ => ⟨value, {}⟩
      else ⟨value, {}⟩
    | other => ⟨other, {}⟩
  | _ => ⟨value, {}⟩
termination_by 2 * sizeOf property + 1
decreasing_by
  · simp
  · have := Json.sizeOf_lt_of_find? _hi
    simp at this ⊢
    omega

end

/-! ## Reports -/

/-- The report on a cast: what the two versions mean for each other, the content carried over, and
whether it is valid under the target. -/
structure CastReport where
  comparison : CompatibilityReport
  content : Json
  conforms : Bool

/-- A report as a document; full compatibility asks for valid content too. -/
def CastReport.toJson (report : CastReport) : Json :=
  .obj (report.comparison.toMembers (report.comparison.isFull && report.conforms) ++
    [("casted_entity", report.content)])

/-- Why there is no report. -/
inductive CastFault where
  | registry (fault : RegistryFault)
  | comparison (fault : ComparisonFault)
  | breakdown (cause : Breakdown)
deriving DecidableEq, Repr

/-- The report on content that was carried over, given the comparison of the versions and what is
wrong with the content, if anything is. -/
def CastReport.ofCasting (comparison : CompatibilityReport) (casting : Casting)
    (fault? : Option ValidationFault) : CastReport where
  comparison :=
    { comparison with
      added := Text.sortedDistinct casting.notes.added
      removed := Text.sortedDistinct casting.notes.removed
      reasons := Text.distinct
        (comparison.reasons ++ casting.notes.reasons ++ fault?.toList.map (·.message)) }
  content := .obj casting.members
  conforms := fault?.isNone

/-- The report on the cast of an instance's content to a target schema. -/
def castReport (store : Store) (comparison : CompatibilityReport) (content target : Json) :
    Consulted (Except CastFault CastReport) :=
  let casting := castObject target "" content.members
  (validate store target.relax (.obj casting.members)).mapValue fun
    | .error cause => .error (.breakdown cause)
    | .ok (.error fault) => .ok (.ofCasting comparison casting (some fault))
    | .ok (.ok ()) => .ok (.ofCasting comparison casting none)

/-- The cast of an instance from one schema to another.  If the minor version goes down, the target
is the older of the two. -/
def castBetween (store : Store) (instanceId sourceId targetId : String)
    (content source target : Json) : Consulted (Except CastFault CastReport) :=
  let direction := Direction.between sourceId targetId
  let comparison :=
    if direction = .down then
      CompatibilityReport.build instanceId targetId targetId sourceId direction target source
    else CompatibilityReport.build instanceId targetId sourceId targetId direction source target
  match comparison with
  | .error fault => .pure (.error (.comparison fault))
  | .ok comparison => castReport store comparison content target

/-- The cast of a registered instance to a registered schema. -/
def castInstance (store : Store) (instanceId targetId : String) :
    Consulted (Except CastFault CastReport) := do
  match ← Consulted.ask store.lookup? instanceId with
  | none => return .error (.registry (.entityNotFound instanceId))
  | some entity =>
    match ← Consulted.ask store.lookup? targetId with
    | none => return .error (.registry (.schemaNotFound targetId))
    | some target =>
      if entity.isSchema then return .error (.registry (.castFromSchema instanceId))
      else
        match entity.governedBy with
        | none => return .error (.registry (.schemaUndeterminable instanceId))
        | some sourceId =>
          match ← Consulted.ask store.lookup? sourceId with
          | none => return .error (.registry (.schemaNotFound sourceId))
          | some source =>
            castBetween store instanceId sourceId targetId entity.content source.content
              target.content

end TypeRegistry
