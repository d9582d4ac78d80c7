import TypeRegistry.Registry.Reply

/-!
# Requests

Everything that can be asked of a registry: inquiries, which only look at it, and changes.
Answering an inquiry leaves the registry as it is, except that an entity which the reader had and
the store had not yet is kept once it was looked up.

Main definitions:

- `Inquiry`, `Registry.consult`: inquiries, and the reply with the identifiers looked up for it.
- `Request`, `Registry.answer`: requests, and the reply with the registry afterwards.
- `Registry.answerAll`: the replies to several requests, one after the other.
-/

namespace TypeRegistry

/-! ## Inquiries -/

/-- What can be asked of a registry without changing it. -/
inductive Inquiry where
  /-- Whether a text is an identifier. -/
  | validateId (id : String)
  /-- The segments of an identifier. -/
  | parseId (id : String)
  /-- The UUID of an identifier. -/
  | uuid (id : String)
  /-- Whether a pattern matches an identifier. -/
  | matchId (candidate pattern : String)
  /-- The identity of a document. -/
  | extractId (content : Json)
  /-- The entity under an identifier. -/
  | entity (id : String)
  /-- The first entities held. -/
  | list (limit : Option Int)
  /-- The results of a query. -/
  | query (expression : String) (limit : Option Int)
  /-- The value that a selector names. -/
  | select (selector : String)
  /-- The graph of an entity. -/
  | graph (id : String)
  /-- Whether an instance is valid. -/
  | validateInstance (id : String)
  /-- Whether a schema is valid. -/
  | validateSchema (id : String)
  /-- What two schemas mean for each other. -/
  | compare (oldId newId : String)
  /-- The cast of an instance to a schema. -/
  | cast (instanceId targetId : String)

/-- The reply on the check of an entity. -/
def Reply.ofCheck {ε : Type} (message : ε → String) (id : String) : Verdict ε → Reply
  | .ok (.ok ()) => validation id none
  | .ok (.error fault) => validation id (some (message fault))
  | .error cause => broken cause

/-- The reply on the addition of an entity. -/
def Reply.ofAddition : Except Breakdown (Except AdditionFault String) → Reply
  | .ok outcome => added outcome
  | .error cause => broken cause

/-- The reply to an inquiry. -/
def Registry.consult (registry : Registry) : Inquiry → Consulted Reply
  | .validateId id => .pure (.validity id (Identifier.parse id))
  | .parseId id => .pure (.segments id (Identifier.parse id))
  | .uuid id => .pure (.uuid id (Identifier.parse id))
  | .matchId candidate pattern => .pure (.matching (MatchReport.ofTexts candidate pattern))
  | .extractId content => .pure (.identity (Identity.ofContent registry.names content))
  | .entity id => (Consulted.ask registry.store.lookup? id).mapValue (.entity id)
  | .list limit => .pure (.page (registry.store.page (registry.settings.clamp limit)))
  | .query expression limit =>
    .pure (.results (registry.store.query registry.settings.allowsTypeFilters expression
      (registry.settings.clamp limit)))
  | .select selector => (Selection.ofSelector registry.store selector).mapValue .selection
  | .graph id => (relationGraph registry.store id).mapValue .graph
  | .validateInstance id =>
    (TypeRegistry.validateInstance registry.store id).mapValue (.ofCheck InstanceFault.message id)
  | .validateSchema id =>
    (TypeRegistry.validateSchema registry.store id).mapValue (.ofCheck SchemaFault.message id)
  | .compare oldId newId =>
    (compareSchemas registry.store.lookup? oldId newId).mapValue .comparison
  | .cast instanceId targetId => (castInstance registry.store instanceId targetId).mapValue .cast

/-! ## Requests -/

/-- What can be asked of a registry. -/
inductive Request where
  /-- An inquiry. -/
  | ask (inquiry : Inquiry)
  /-- Add a document as an entity. -/
  | addEntity (content : Json) (validates : Bool)
  /-- Add several documents as entities. -/
  | addEntities (contents : List Json)
  /-- Add a schema under a type identifier. -/
  | addSchema (typeId : String) (schema : Json)
  /-- Drop all entities and read them anew. -/
  | reload

namespace Registry

/-- The reply to a request, and the registry afterwards. -/
def answer (registry : Registry) : Request → Reply × Registry
  | .ask inquiry => registry.keep (registry.consult inquiry)
  | .addEntity content validates =>
    let (outcome, registry) := registry.addEntity content validates
    (.ofAddition outcome, registry)
  | .addEntities contents =>
    let (outcomes, registry) := registry.addEntities contents
    (.addedAll outcomes, registry)
  | .addSchema typeId schema =>
    let (outcome, registry) := registry.addSchema typeId schema
    (.addedSchema typeId outcome, registry)
  | .reload =>
    let registry := registry.reload
    (.reloaded registry.store.entries.length, registry)

/-- The replies to several requests, one after the other, and the registry afterwards. -/
def answerAll (registry : Registry) : List Request → List Reply × Registry
  | [] => ([], registry)
  | request :: rest =>
    let (reply, registry) := registry.answer request
    let (replies, registry) := registry.answerAll rest
    (reply :: replies, registry)

end Registry

end TypeRegistry
