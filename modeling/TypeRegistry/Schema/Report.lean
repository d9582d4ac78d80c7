import TypeRegistry.Schema.Difference
import TypeRegistry.Store

/-!
# Reports on compatibility

A report puts together what two versions of a schema mean for each other: the direction in which the
minor version moves, the difference of their properties, and the violations in both modes.

Main definitions:

- `Direction`, `Direction.between`: how the minor versions of two identifiers relate.
- `CompatibilityReport`, `CompatibilityReport.toJson`: reports.
- `CompatibilityReport.ofSchemas`, `compareSchemas`: of two schemas, and of two registered ones.
- `requireCompatible`: the violations in one mode, as a failure.
-/

namespace TypeRegistry

/-! ## Direction -/

/-- How the minor version moves from one identifier to another. -/
inductive Direction where
  | up
  | down
  | none
  | unknown
deriving DecidableEq, Repr

namespace Direction

/-- The name of a direction. -/
def name : Direction → String
  | up => "up"
  | down => "down"
  | none => "none"
  | unknown => "unknown"

/-- The minor version of the last segment of an identifier, if the text is one and writes it. -/
def lastMinor? (id : String) : Option Nat :=
  match Identifier.parse id with
  | .ok parsed => parsed.segments.getLast?.bind (·.written.minor)
  | .error _ => Option.none

/-- How the minor versions of the last segments of two identifiers relate. -/
def between (source target : String) : Direction :=
  match lastMinor? source, lastMinor? target with
  | some past, some now => if past < now then up else if now < past then down else none
  | _, _ => unknown

end Direction

/-! ## Reports -/

/-- What two versions of a schema mean for each other. -/
structure CompatibilityReport where
  sourceId : String
  targetId : String
  oldId : String
  newId : String
  direction : Direction := .unknown
  added : List String := []
  removed : List String := []
  changed : List PropertyChange := []
  isBackward : Bool := false
  isForward : Bool := false
  reasons : List String := []
  backwardErrors : List String := []
  forwardErrors : List String := []
deriving DecidableEq, Repr

/-- An integer bound beyond all finite doubles: no comparison is made. -/
inductive ComparisonFault where
  | boundTooLarge
deriving DecidableEq, Repr

namespace CompatibilityReport

/-- Compatible in both modes. -/
def isFull (report : CompatibilityReport) : Bool :=
  report.isBackward && report.isForward

/-- The members of a report as a document, given whether it counts as fully compatible. -/
def toMembers (report : CompatibilityReport) (isFull : Bool) : Json.Members :=
  [("from", .str report.sourceId), ("to", .str report.targetId), ("old", .str report.oldId),
    ("new", .str report.newId), ("direction", .str report.direction.name),
    ("added_properties", .arr (report.added.map .str)),
    ("removed_properties", .arr (report.removed.map .str)),
    ("changed_properties", .arr (report.changed.map (·.toJson))),
    ("is_fully_compatible", .bool isFull),
    ("is_backward_compatible", .bool report.isBackward),
    ("is_forward_compatible", .bool report.isForward),
    ("incompatibility_reasons", .arr (report.reasons.map .str)),
    ("backward_errors", .arr (report.backwardErrors.map .str)),
    ("forward_errors", .arr (report.forwardErrors.map .str))]

/-- A report as a document. -/
def toJson (report : CompatibilityReport) : Json :=
  .obj (report.toMembers report.isFull)

/-- The report on two schemas, given the identifiers that are compared and the direction. -/
def ofSchemas (sourceId targetId oldId newId : String) (direction : Direction) (old new : Json) :
    CompatibilityReport :=
  let backward := (violations .backward old new).map (·.message)
  let forward := (violations .forward old new).map (·.message)
  let found := difference old new
  { sourceId := sourceId
    targetId := targetId
    oldId := oldId
    newId := newId
    direction := direction
    added := found.added
    removed := found.removed
    changed := found.changed
    isBackward := backward.isEmpty
    isForward := forward.isEmpty
    reasons := Text.distinct (backward ++ forward)
    backwardErrors := backward
    forwardErrors := forward }

/-- The report on two schemas if their bounds can be compared. -/
def build (sourceId targetId oldId newId : String) (direction : Direction) (old new : Json) :
    Except ComparisonFault CompatibilityReport :=
  if boundsAreRepresentable old new then
    .ok (ofSchemas sourceId targetId oldId newId direction old new)
  else .error .boundTooLarge

/-- The report on two versions under their own identifiers. -/
def ofVersions (oldId newId : String) (old new : Json) :
    Except ComparisonFault CompatibilityReport :=
  build oldId newId oldId newId (Direction.between oldId newId) old new

/-- The report on versions one of which is not known. -/
def missing (oldId newId : String) : CompatibilityReport :=
  { sourceId := oldId
    targetId := newId
    oldId := oldId
    newId := newId
    backwardErrors := ["Schema not found"]
    forwardErrors := ["Schema not found"] }

end CompatibilityReport

/-- The report on two registered schemas. -/
def compareSchemas (lookup : Lookup) (oldId newId : String) :
    Consulted (Except ComparisonFault CompatibilityReport) :=
  ⟨match lookup oldId, lookup newId with
    | some old, some new => CompatibilityReport.ofVersions oldId newId old.content new.content
    | _, _ => .ok (CompatibilityReport.missing oldId newId),
    [oldId, newId]⟩

/-! ## Required compatibility -/

/-- Violations that were to be excluded, in the order in which they are found. -/
structure Incompatibility where
  mode : Mode
  violations : List String
deriving DecidableEq, Repr

/-- The wording of an incompatibility: the number of violations, and each on a line. -/
def Incompatibility.message (found : Incompatibility) : String :=
  "Schema " ++ found.mode.name ++ " compatibility check failed with " ++
    Text.ofNat found.violations.length ++ " violation(s):\n" ++
    Text.joinWith "\n" (found.violations.map ("  - " ++ ·))

/-- What stands in the way of compatibility in one mode, if anything does. -/
def requireCompatible (mode : Mode) (old new : Json) : Option Incompatibility :=
  let found := (violations mode old new).map (·.message)
  if found.isEmpty then none else some ⟨mode, found⟩

end TypeRegistry
