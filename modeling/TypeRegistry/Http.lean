import TypeRegistry.Registry.Request
import TypeRegistry.Text.Parameter
import TypeRegistry.Text.Percent

/-!
# The service

The registry as a service: a call is a method, a path, parameters and perhaps a document, an answer
is a status and a document.  A method and a path name an endpoint, which makes a request to the
registry out of the parameters and the document, unless one of them is missing or ill formed.  An
operation that fails is still answered with the status 200; only an entity that is asked for and not
known yields 404.  A method may be written in small letters.  Steps to the same place and one place
up are taken out of a path before it is looked at, and its escapes are read.  Where no path ends in
slashes, the call is sent on to the path without them.  Members of a document that are meant for
internal use are not sent.

Main definitions:

- `Call`, `Answer`: what comes in and what goes out.
- `Json.published`: a document as it is sent.
- `walked`: a path without steps to the same place and one place up.
- `spelledPath`, `sentOn`: the path that the text of a call spells, and the one it is sent on to.
- `Endpoint`, `Endpoint.find?`: what a method and a path name.
- `Endpoint.request?`: the request that a call makes at an endpoint.
- `Registry.serve`: the answer to a call, and the registry afterwards.
-/

namespace TypeRegistry

open Dictionary

/-! ## Calls and answers -/

/-- A call: a method, a path, parameters by name, and the document sent along. -/
structure Call where
  method : String
  path : String
  parameters : Dictionary String := []
  body : Option Json := none

/-- An answer: a status and a document. -/
structure Answer where
  status : Nat
  body : Json

namespace Answer

/-- The answer to a call whose parameters or document are missing or ill formed. -/
def badRequest : Answer := ⟨400, problemJson "Invalid request"⟩

/-- The answer to a call of an unknown path. -/
def notFound : Answer := ⟨404, .obj [("detail", .str "Not Found")]⟩

/-- The answer to a call of a known path with a method that it does not have. -/
def methodNotAllowed : Answer := ⟨405, .obj [("detail", .str "Method Not Allowed")]⟩

/-- The answer to a call for a page about the service; the page itself is left out. -/
def pageSent : Answer := ⟨200, .null⟩

/-- The answer to a call that cannot be carried out. -/
def failed : Answer := ⟨500, .obj [("detail", .str "Internal Server Error")]⟩

end Answer

/-! ## Documents as they are sent -/

/-- Whether the member of a name is meant for internal use, which its first letters say. -/
def isInternalName (name : String) : Bool :=
  Text.startsWith "_sa" name

mutual

/-- A document without the members meant for internal use, at any depth. -/
def Json.published : Json → Json
  | .obj members => .obj (publishedMembers members)
  | .arr items => .arr (publishedItems items)
  | scalar => scalar

/-- The items of an array as they are sent. -/
def publishedItems : List Json → List Json
  | [] => []
  | item :: rest => Json.published item :: publishedItems rest

/-- The members of an object as they are sent. -/
def publishedMembers : Json.Members → Json.Members
  | [] => []
  | (name, value) :: rest =>
    if isInternalName name then publishedMembers rest
    else (name, Json.published value) :: publishedMembers rest

end

/-! ## Paths -/

/-- The steps of a path without those to the same place, and without the steps that a step up takes
back, given the steps so far.  There is no step up from the start of a path. -/
def walkedSteps : (sofar : List (List Char)) → List (List Char) → List (List Char)
  | sofar, [] => sofar
  | sofar, step :: rest =>
    if step = ['.'] then walkedSteps sofar rest
    else if step = ['.', '.'] then
      walkedSteps (if sofar = [[]] then sofar else sofar.dropLast) rest
    else walkedSteps (sofar ++ [step]) rest

/-- A path without steps to the same place and one place up. -/
def walked (path : List Char) : List Char :=
  (Text.joinWith "/" ((walkedSteps [] (Text.splitOn '/' path)).map String.ofList)).toList

/-- A path with one slash in front.  A host behind two slashes, which may stand before it, is of no
account. -/
def rooted (path : List Char) : List Char :=
  let behindHost := match path with
    | '/' :: '/' :: rest => rest.dropWhile (· ≠ '/')
    | cs => cs
  '/' :: behindHost.dropWhile (· = '/')

/-- The path that the text of a call spells. -/
def spelledPath (text : String) : String :=
  String.ofList (Text.percentDecoded (walked (rooted text.toList)))

/-- The path that a call is sent on to: up to a query or a fragment, with what escapes are left in
it read, and those that come to light. -/
def sentOn (path : String) : String :=
  let place := path.toList.takeWhile fun c => c ≠ '?' && c ≠ '#'
  String.ofList (Text.percentDecoded (Text.percentDecoded (walked place)))

/-! ## Endpoints -/

/-- What a method and a path name. -/
inductive Endpoint where
  | page
  | health
  | listEntities
  | getEntity (id : String)
  | addEntity
  | addEntities
  | addSchema
  | validateId
  | parseId
  | uuid
  | matchId
  | extractId
  | validateInstance
  | graph
  | compare
  | cast
  | query
  | select
deriving DecidableEq, Repr

namespace Endpoint

/-- The identifier in the path of an entity: all behind the lead, if it has no slash. -/
def entityId? (path : String) : Option String :=
  match Text.dropStart? "/entities/" path with
  | some id => if id.isEmpty || id.toList.contains '/' then none else some id
  | none => none

/-- A path without a line break at its end. -/
def withoutBreak (path : String) : String :=
  String.ofList (withoutFinalBreak path.toList)

/-- The endpoint that a path names for reading.  A line break at the end does not count, except in
the identifier of an entity. -/
def forGet? (path : String) : Option Endpoint :=
  match withoutBreak path with
  | "/docs" => some page
  | "/docs/oauth2-redirect" => some page
  | "/redoc" => some page
  | "/openapi.json" => some page
  | "/health" => some health
  | "/entities" => some listEntities
  | "/validate-id" => some validateId
  | "/parse-id" => some parseId
  | "/uuid" => some uuid
  | "/match-id-pattern" => some matchId
  | "/resolve-relationships" => some graph
  | "/compatibility" => some compare
  | "/query" => some query
  | "/attr" => some select
  | _ => (entityId? path).map getEntity

/-- The endpoint that a path names for sending a document; a line break at the end does not count.
-/
def forPost? (path : String) : Option Endpoint :=
  match withoutBreak path with
  | "/entities" => some addEntity
  | "/entities/bulk" => some addEntities
  | "/schemas" => some addSchema
  | "/extract-id" => some extractId
  | "/validate-instance" => some validateInstance
  | "/cast" => some cast
  | _ => none

/-- Whether a path names an endpoint for some method. -/
def isPath (path : String) : Bool :=
  (forGet? path).isSome || (forPost? path).isSome

/-- The endpoint that a method and a path name. -/
def find? (method path : String) : Option Endpoint :=
  match String.ofList (method.toList.map Char.toUpper) with
  | "GET" => forGet? path
  | "POST" => forPost? path
  | _ => none

/-- The path of an endpoint that a path leads to.  A path that names no endpoint, but does without
the slashes at its end, is sent on, up to a number of times. -/
def knownPath? : (times : Nat) → (path : String) → Option String
  | 0, path => if isPath path then some path else none
  | times + 1, path =>
    if isPath path then some path
    else
      let bare := String.ofList (path.toList.reverse.dropWhile (· == '/')).reverse
      if isPath bare then knownPath? times (sentOn bare) else none

/-! ## Requests -/

/-- A parameter that may be left out, if it is well formed where it is given. -/
def optional? {α : Type} (call : Call) (name : String) (read : String → Option α) :
    Option (Option α) :=
  match Dictionary.find? name call.parameters with
  | none => some none
  | some text => (read text).map some

/-- A parameter that must be given. -/
def required? (call : Call) (name : String) : Option String :=
  Dictionary.find? name call.parameters

/-- The document sent along, if it is an object. -/
def object? (call : Call) : Option Json :=
  call.body.filter Json.isObject

/-- The documents of the array sent along, if all of them are objects. -/
def objects? (call : Call) : Option (List Json) :=
  match call.body with
  | some (.arr items) => if items.all Json.isObject then some items else none
  | _ => none

/-- A string among the members of the object sent along. -/
def text? (call : Call) (name : String) : Option String :=
  (object? call).bind fun document => Json.getString? name document.members

/-- The request that a call makes at an endpoint, unless something is missing or ill formed.  The
pages about the service and its state of health make none. -/
def request? (call : Call) : Endpoint → Option Request
  | page => none
  | health => none
  | listEntities => do return .ask (.list (← optional? call "limit" Text.integer?))
  | getEntity id => some (.ask (.entity id))
  | addEntity => do
    let validates ← optional? call "validate" Text.truth?
    return .addEntity (← object? call) (validates.getD false)
  | addEntities => do return .addEntities (← objects? call)
  | addSchema => do
    let schema ← (← object? call).get? "schema"
    if schema.isObject then return .addSchema (← text? call "type_id") schema else none
  | validateId => do return .ask (.validateId (← required? call "gts_id"))
  | parseId => do return .ask (.parseId (← required? call "gts_id"))
  | uuid => do return .ask (.uuid (← required? call "gts_id"))
  | matchId => do
    return .ask (.matchId (← required? call "candidate") (← required? call "pattern"))
  | extractId => do return .ask (.extractId (← object? call))
  | validateInstance => do return .ask (.validateInstance (← text? call "instance_id"))
  | graph => do return .ask (.graph (← required? call "gts_id"))
  | compare => do
    return .ask (.compare (← required? call "old_schema_id") (← required? call "new_schema_id"))
  | cast => do
    return .ask (.cast (← text? call "instance_id") (← text? call "to_schema_id"))
  | query => do
    let limit ← optional? call "limit" Text.integer?
    return .ask (.query (← required? call "expr") limit)
  | select => do return .ask (.select (← required? call "gts_with_path"))

end Endpoint

/-! ## Serving -/

/-- The answer that carries a reply. -/
def Answer.ofReply (reply : Reply) : Answer :=
  match reply.toJson? with
  | none => failed
  | some document =>
    match reply with
    | .entity _ none => ⟨404, document⟩
    | _ => ⟨200, document.published⟩

namespace Registry

/-- The state of health of the service. -/
def health (registry : Registry) : Json :=
  .obj [("status", .str "healthy"), ("service", .str "gts-registry"),
    ("entities", .int registry.store.entries.length)]

/-- The answer to a call at an endpoint, and the registry afterwards. -/
def serveAt (registry : Registry) (call : Call) (endpoint : Endpoint) : Answer × Registry :=
  if endpoint = .page then (.pageSent, registry)
  else if endpoint = .health then (⟨200, registry.health⟩, registry)
  else
    match endpoint.request? call with
    | none => (.badRequest, registry)
    | some request =>
      let (reply, registry) := registry.answer request
      (.ofReply reply, registry)

/-- How often a call is sent on at most. -/
def sendLimit : Nat := 20

/-- The answer to a call, and the registry afterwards. -/
def serve (registry : Registry) (call : Call) : Answer × Registry :=
  match Endpoint.knownPath? sendLimit (spelledPath call.path) with
  | none => (.notFound, registry)
  | some path =>
    match Endpoint.find? call.method path with
    | none => (.methodNotAllowed, registry)
    | some endpoint => registry.serveAt call endpoint

/-- The answers to several calls, one after the other. -/
def serveAll (registry : Registry) : List Call → List Answer
  | [] => []
  | call :: rest =>
    let (answer, registry) := registry.serve call
    answer :: registry.serveAll rest

end Registry

end TypeRegistry
