import TypeRegistry.Schema.Part

/-!
# Libraries of schemas

A library holds schemas under their addresses.  A schema is put in under the address that it was
fetched from.  Only when an address is not there are the schemas explored that were put in last:
what they and the schemas inside them call themselves is written down, addresses being joined to
that of the schema around them, and fragments being kept with the address that they belong to.

Main definitions:

- `Resource`, `Anchor`, `Library`: schemas, what fragments call them by, and both under addresses.
- `placements`: a schema and the schemas inside it, with their addresses.
- `Library.put`, `Library.explored`: putting a schema in, and exploring what was put in.
- `Library.find?`, `Library.anchor?`: the schema at an address, and the one that a fragment names.
-/

namespace TypeRegistry

/-! ## Schemas and their names -/

/-- A schema, with the dialect whose rules tell what it calls itself and where the schemas inside it
stand. -/
structure Resource where
  content : Json
  rules : Dialect

/-- What a schema calls itself. -/
def Resource.id? (resource : Resource) : Except Breakdown (Option String) :=
  resource.rules.idOf resource.content

/-- A schema that a fragment of an address names; it may move with the place it is called from. -/
structure Anchor where
  address : String
  name : String
  resource : Resource
  moves : Bool

/-- A schema at an address, which may be its own or that of a schema around it. -/
structure Placement where
  address : String
  resource : Resource
  isNamed : Bool

/-- The address of a schema that calls itself something at an address. -/
def addressOf (base : String) : Option String → Except Breakdown String
  | none => .ok base
  | some id =>
    match Address.join? base id with
    | some address => .ok address
    | none => .error .malformedAddress

/-- Whether a value under a keyword is passed over because it is no object: before draft-06 a truth
value there is no schema. -/
def isPassedOver (rules : Dialect) (keyword : String) (value : Json) : Bool :=
  !rules.isSince .draft06 && (keyword == "additionalItems" || keyword == "additionalProperties") &&
    !value.isObject

/-- A value that is not the list of schemas that it should be breaks the exploration down, unless
there is nothing in it. -/
def requireEmpty (value : Json) : Except Breakdown (List Placement) := do
  if (← value.listed?).isEmpty then return [] else throw .noMembers

/-- Whether a value that is a schema or a list of schemas is taken for a schema. -/
def isSchemaLike : Json → Bool
  | .arr _ => false
  | .str _ => false
  | .null => false
  | _ => true

mutual

/-- A schema and the schemas inside it, with their addresses; of the parts of a schema the last
comes first. -/
def placements (rules : Dialect) (base : String) : Json → Except Breakdown (List Placement)
  | .bool _ => .ok []
  | .obj members => do
    let id ← rules.idOf (.obj members)
    let address ← addressOf base id
    return ⟨address, ⟨.obj members, rules⟩, id.isSome⟩ ::
      (← placementsOfMembers rules address members)
  | .arr _ => .error .noMembers
  | .str _ => .error .noMembers
  | value => do
    let _ ← rules.idOf value
    return []

/-- The schemas inside the values of keywords. -/
def placementsOfMembers (rules : Dialect) (base : String) :
    Json.Members → Except Breakdown (List Placement)
  | [] => .ok []
  | (keyword, value) :: rest => do
    let others ← placementsOfMembers rules base rest
    let found ←
      match rules.partForm? keyword with
      | none => pure []
      | some .whole =>
        if isPassedOver rules keyword value then pure []
        else placements (← rules.declaredOr value) base value
      | some .items =>
        match value with
        | .arr items => placementsOfItems rules base items
        | other => requireEmpty other
      | some .members =>
        match value with
        | .obj parts => placementsOfParts rules base parts
        | _ => throw .noMembers
      | some .wholeOrItems =>
        if isSchemaLike value then placements (← rules.declaredOr value) base value
        else
          match value with
          | .arr items => placementsOfItems rules base items
          | .null => pure []
          | other => requireEmpty other
      | some .membersIfFirst =>
        match value with
        | .obj parts =>
          if (parts.head?.map (·.2.isObject)).getD false then placementsOfParts rules base parts
          else pure []
        | .null => pure []
        | _ => throw .noMembers
    return others ++ found

/-- The schemas in a list. -/
def placementsOfItems (rules : Dialect) (base : String) :
    List Json → Except Breakdown (List Placement)
  | [] => .ok []
  | item :: rest => do
    let others ← placementsOfItems rules base rest
    return others ++ (← placements (← rules.declaredOr item) base item)

/-- The schemas under names. -/
def placementsOfParts (rules : Dialect) (base : String) :
    Json.Members → Except Breakdown (List Placement)
  | [] => .ok []
  | (_, part) :: rest => do
    let others ← placementsOfParts rules base rest
    return others ++ (← placements (← rules.declaredOr part) base part)

end

/-! ## Libraries -/

/-- Schemas under their addresses and what fragments call them by, the latest first, and the
addresses of the schemas that are not explored. -/
structure Library where
  resources : Dictionary Resource := []
  anchors : List Anchor := []
  unexplored : List String := []

namespace Library

/-- Put a schema in under an address. -/
def put (library : Library) (address : String) (resource : Resource) : Library :=
  { library with
    resources := (address, resource) :: library.resources
    unexplored := address :: library.unexplored }

/-- Write down what a schema at an address calls itself. -/
def note (library : Library) (placement : Placement) : Library :=
  { library with
    resources :=
      if placement.isNamed then (placement.address, placement.resource) :: library.resources
      else library.resources
    anchors :=
      (placement.resource.rules.anchorsOf placement.resource.content).foldl
        (fun anchors (name, moves) =>
          ⟨placement.address, name, placement.resource, moves⟩ :: anchors) library.anchors }

/-- The schemas at some addresses, and the schemas inside them. -/
def placementsAt (library : Library) : List String → Except Breakdown (List Placement)
  | [] => .ok []
  | address :: rest => do
    let found ←
      match Dictionary.find? address library.resources with
      | some resource => placements resource.rules address resource.content
      | none => pure []
    return found ++ (← library.placementsAt rest)

/-- Explore what is not explored. -/
def explored (library : Library) : Except Breakdown Library := do
  let placements ← library.placementsAt library.unexplored
  return { placements.foldl note library with unexplored := [] }

/-- The schema at an address, and the library afterwards. -/
def find? (library : Library) (address : String) :
    Except Breakdown (Option Resource × Library) := do
  match Dictionary.find? address library.resources with
  | some resource => return (some resource, library)
  | none =>
    let explored ← library.explored
    return (Dictionary.find? address explored.resources, explored)

/-- What a fragment of an address is written down for. -/
def noted? (library : Library) (address name : String) : Option Anchor :=
  library.anchors.find? fun anchor => anchor.address = address && anchor.name = name

/-- What a fragment of an address names, and the library afterwards.  A schema may also be called by
the name that it has for itself. -/
def anchor? (library : Library) (address name : String) :
    Except Breakdown (Option Anchor × Library) := do
  match library.noted? address name with
  | some anchor => return (some anchor, library)
  | none =>
    let explored ← library.explored
    match explored.noted? address name, Dictionary.find? address library.resources with
    | some anchor, _ => return (some anchor, explored)
    | none, some resource =>
      return ((← resource.id?).bind fun id => explored.noted? id name, explored)
    | none, none => return (none, explored)

/-- A library with all of several schemas under the names that they have for themselves, explored.
-/
def ofResources (resources : List Resource) : Except Breakdown Library := do
  let named ← resources.mapM fun resource => do return ((← resource.id?), resource)
  let library : Library := named.foldl (fun library (id, resource) =>
    match id with
    | some id => library.put id resource
    | none => library) {}
  library.explored

end Library

end TypeRegistry
