import TypeRegistry.Registry.Basic

/-!
# Replies

What a registry replies to a request.  A reply is shown as a document with fixed members in a fixed
order, and counts as a success or a failure, which the command line turns into its exit code.

Main definitions:

- `Reply`: replies, one kind for each kind of request.
- `Reply.toJson?`: the document of a reply.
- `Reply.isSuccess`: whether a reply counts as a success.
-/

namespace TypeRegistry

/-! ## Parts of replies -/

/-- A version number as a document, `null` if it is not written. -/
def versionJson : Option Nat → Json
  | some version => .int version
  | none => .null

/-- A text as a document, `null` if there is none. -/
def textJson : Option String → Json
  | some text => .str text
  | none => .null

/-- What a segment says as a document. -/
def Segment.toJson (segment : Segment) : Json :=
  let written := segment.written
  .obj [("vendor", textJson written.vendor), ("package", textJson written.package),
    ("namespace", textJson written.space), ("type", textJson written.typeName),
    ("ver_major", versionJson written.major), ("ver_minor", versionJson written.minor),
    ("is_type", .bool segment.isType), ("is_wildcard", .bool segment.isWildcard)]

/-- The outcome of matching as a document. -/
def MatchReport.toJson (report : MatchReport) : Json :=
  .obj [("candidate", .str report.candidate), ("pattern", .str report.pattern),
    ("match", .bool report.isMatch), ("error", .str report.problem)]

/-- The identity of a document, as a document. -/
def Identity.toJson (identity : Identity) : Json :=
  .obj [("id", .str identity.id), ("schema_id", textJson identity.schemaId),
    ("selected_entity_field", textJson identity.idField),
    ("selected_schema_id_field", textJson identity.schemaField),
    ("is_schema", .bool identity.isSchema)]

/-- The summary of an entity in a list. -/
def Entity.summary (entity : Entity) : Json :=
  .obj [("id", textJson entity.idText), ("schema_id", textJson entity.schemaId),
    ("is_schema", .bool entity.isSchema)]

/-- A page of a store as a document. -/
def Store.Page.toJson (page : Store.Page) : Json :=
  .obj [("entities", .arr (page.entities.map Entity.summary)),
    ("count", .int page.entities.length), ("total", .int page.total)]

/-- A document that only gives the wording of a fault. -/
def problemJson (problem : String) : Json :=
  .obj [("error", .str problem)]

/-- The outcome of adding an entity as a document. -/
def additionJson : Except AdditionFault String → Json
  | .ok id => .obj [("ok", .bool true), ("gts_id", .str id)]
  | .error fault => .obj [("ok", .bool false), ("error", .str fault.message)]

/-- The number of entities that were added. -/
def additionCount (outcomes : List (Except AdditionFault String)) : Nat :=
  (outcomes.filter Except.isOk).length

/-- The outcome of adding several entities as a document. -/
def additionsJson (outcomes : List (Except AdditionFault String)) : Json :=
  .obj [("ok", .bool (additionCount outcomes = outcomes.length)),
    ("count", .int (additionCount outcomes)), ("total", .int outcomes.length),
    ("results", .arr (outcomes.map additionJson))]

/-! ## Replies -/

/-- What a registry replies. -/
inductive Reply where
  /-- Whether a text is an identifier. -/
  | validity (id : String) (outcome : Except IdentifierFault Identifier)
  /-- The segments of an identifier. -/
  | segments (id : String) (outcome : Except IdentifierFault Identifier)
  /-- The UUID of an identifier. -/
  | uuid (id : String) (outcome : Except IdentifierFault Identifier)
  /-- The outcome of matching. -/
  | matching (report : MatchReport)
  /-- The identity of a document. -/
  | identity (read : Identity)
  /-- The identifier of an entity that was added. -/
  | added (outcome : Except AdditionFault String)
  /-- The identifiers of several entities that were added. -/
  | addedAll (outcomes : List (Except AdditionFault String))
  /-- Whether a schema was added. -/
  | addedSchema (typeId : String) (outcome : Except RegistrationFault Unit)
  /-- The number of entities after they were read anew. -/
  | reloaded (count : Nat)
  /-- The entity under an identifier. -/
  | entity (id : String) (found : Option Entity)
  /-- A page of the entities held. -/
  | page (shown : Store.Page)
  /-- The results of a query. -/
  | results (found : QueryResults)
  /-- The value that a selector names. -/
  | selection (selected : Selection)
  /-- The graph of an entity. -/
  | graph (root : GraphNode)
  /-- Whether an entity is valid, with what is wrong with it. -/
  | validation (id : String) (problem : Option String)
  /-- What two schemas mean for each other. -/
  | comparison (outcome : Except ComparisonFault CompatibilityReport)
  /-- The cast of an instance. -/
  | cast (outcome : Except CastFault CastReport)
  /-- Why a check broke down. -/
  | broken (cause : Breakdown)

namespace Reply

/-- The wording of what is wrong with an identifier, empty if nothing is. -/
def faultText : Except IdentifierFault Identifier → String
  | .ok _ => ""
  | .error fault => fault.message

/-- The document of a reply.  A comparison that could not be made has none, nor has a check that broke
down. -/
def toJson? : Reply → Option Json
  | validity id outcome =>
    some (.obj
      [("id", .str id), ("valid", .bool outcome.isOk), ("error", .str (faultText outcome))])
  | segments id outcome =>
    let parts := match outcome with
      | .ok parsed => parsed.segments.map Segment.toJson
      | .error _ => []
    some (.obj [("id", .str id), ("ok", .bool outcome.isOk), ("segments", .arr parts),
      ("error", .str (faultText outcome))])
  | uuid id outcome =>
    let text := match outcome with
      | .ok parsed => parsed.uuid
      | .error _ => ""
    some (.obj [("id", .str id), ("uuid", .str text), ("error", .str (faultText outcome))])
  | matching report => some report.toJson
  | identity read => some read.toJson
  | added outcome => some (additionJson outcome)
  | addedAll outcomes => some (additionsJson outcomes)
  | addedSchema typeId outcome =>
    match outcome with
    | .ok () => some (.obj [("ok", .bool true), ("type_id", .str typeId)])
    | .error fault =>
      some (.obj [("ok", .bool false), ("type_id", .str typeId), ("error", .str fault.message)])
  | reloaded count => some (.obj [("ok", .bool true), ("count", .int count)])
  | entity id found =>
    match found with
    | some held =>
      some (.obj [("id", .str (held.idText.getD id)), ("content", held.content)])
    | none => some (problemJson ("Entity not found: " ++ id))
  | page shown => some shown.toJson
  | results found => some found.toJson
  | selection selected => some selected.toJson
  | graph root => some root.toJson
  | validation id problem =>
    some (.obj [("id", .str id), ("ok", .bool problem.isNone), ("error", .str (problem.getD ""))])
  | comparison (.ok report) => some report.toJson
  | comparison (.error _) => none
  | cast (.ok report) => some report.toJson
  | cast (.error (.registry fault)) => some (problemJson fault.message)
  | cast (.error (.comparison _)) => none
  | cast (.error (.breakdown _)) => none
  | broken _ => none

/-- Whether a reply counts as a success. -/
def isSuccess : Reply → Bool
  | validity _ outcome => outcome.isOk
  | segments _ outcome => outcome.isOk
  | uuid _ outcome => outcome.isOk
  | matching report => report.problem.isEmpty
  | identity read => !read.id.isEmpty
  | added outcome => outcome.isOk
  | addedAll outcomes => additionCount outcomes = outcomes.length
  | addedSchema _ outcome => outcome.isOk
  | reloaded _ => true
  | entity _ found => found.isSome
  | page _ => true
  | results found => found.outcome.isOk
  | selection selected => selected.outcome.isOk
  | graph root => root.problem.isNone
  | validation _ problem => problem.isNone
  | comparison outcome =>
    match outcome with
    | .ok report => report.isFull
    | .error _ => false
  | cast outcome => outcome.isOk
  | broken _ => false

end Reply

end TypeRegistry
