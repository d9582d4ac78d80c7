import TypeRegistry.Entity.References
import TypeRegistry.Text.Blank

/-!
# Reading the identity of a document

The identifier of a document is taken from the first searched field that holds a valid one; if none
does, the first field with any text is noted, and the document stays anonymous.  A document is a
schema if it declares a dialect.  The governing schema follows from the identifier where it can: an
instance is governed by the type before its last segment, a derived schema by the first type of its
chain.  Otherwise it is read from the fields for schema identifiers.

Main definitions:

- `Entity.ofContent`: the entity of a document.
- `Identity`, `Identity.ofContent`: the identity of a document, anonymous ones under their raw text.
-/

namespace TypeRegistry

namespace Entity

/-- Whether an object declares itself a schema. -/
def declaresSchema (members : Json.Members) : Bool :=
  Dictionary.has "$schema" members || Dictionary.has "$$schema" members

/-- The text of a field, without blanks around it and, in `$id`, without the lead of a URI. -/
def fieldText? (members : Json.Members) (name : String) : Option String :=
  match Json.getString? name members with
  | none => none
  | some s =>
    let text := Text.trim s
    let bare := if name = "$id" then Identifier.withoutUriLead text else text
    if bare.isEmpty then none else some bare

/-- The first of some fields that has a text of a given kind, with the text. -/
def firstField? (members : Json.Members) (wanted : String → Bool) :
    List String → Option (String × String)
  | [] => none
  | name :: rest =>
    match fieldText? members name with
    | some text => if wanted text then some (name, text) else firstField? members wanted rest
    | none => firstField? members wanted rest

/-- The field that identifies: the first with a valid identifier, else the first with a text. -/
def identifyingField? (members : Json.Members) (names : List String) : Option (String × String) :=
  match firstField? members Identifier.isValid names with
  | some found => some found
  | none => firstField? members (fun _ => true) names

/-- The text up to and with the first tilde. -/
def throughFirstTilde (cs : List Char) : List Char :=
  match Text.cutAt? '~' cs with
  | some (before, _) => before ++ ['~']
  | none => cs

/-- The field and the identifier of the governing schema, given the identifying field. -/
def governing? (names : FieldNames) (members : Json.Members) (isSchema : Bool)
    (identified : Option (String × String)) : Option (String × String) :=
  let valid? := identified.filter fun found => Identifier.isValid found.2
  if isSchema then
    match valid? with
    | some (field, id) =>
      if Text.endsWith "~" id && 2 ≤ Text.count '~' id then
        some (field, String.ofList (throughFirstTilde id.toList))
      else (fieldText? members "$schema").map fun url => ("$schema", url)
    | none => (fieldText? members "$schema").map fun url => ("$schema", url)
  else
    match valid? with
    | some (field, id) =>
      if !Text.endsWith "~" id then
        some (field, String.ofList (Identifier.throughLastTilde id.toList))
      else identifyingField? members names.schema
    | none => identifyingField? members names.schema

/-- The label of an entity: its file and place, its file, or its identifier. -/
def labelFor (origin : Option Origin) (id : Option Identifier) : String :=
  match origin with
  | some origin =>
    match origin.place with
    | some place => origin.fileName ++ "#" ++ Text.ofNat place
    | none => origin.fileName
  | none =>
    match id with
    | some id => id.text
    | none => ""

/-- The entity of a document; one that is no object counts as an empty object. -/
def ofContent (names : FieldNames) (origin : Option Origin) (document : Json) : Entity :=
  let members := document.members
  let isSchema := declaresSchema members
  let identified := identifyingField? members names.own
  let governing := governing? names members isSchema identified
  let id := identified.bind fun found => Identifier.parse? found.2
  { content := .obj members
    id := id
    schemaId := governing.map (·.2)
    idField := identified.map (·.1)
    schemaField := governing.map (·.1)
    isSchema := isSchema
    origin := origin
    label := labelFor origin id
    description := (Json.getString? "description" members).getD ""
    references := Reference.ofDocument (.obj members) }

end Entity

/-! ## Identity of raw documents -/

/-- What a raw document says about its identity. -/
structure Identity where
  id : String
  schemaId : Option String
  idField : Option String
  schemaField : Option String
  isSchema : Bool
deriving DecidableEq, Repr

/-- The identity of a document.  An anonymous instance goes by the raw text of its identifying
field. -/
def Identity.ofContent (names : FieldNames) (document : Json) : Identity :=
  let entity := Entity.ofContent names none document
  let id := match entity.id with
    | some id => id.text
    | none =>
      if entity.isSchema then ""
      else (entity.idField.bind fun field => Json.getString? field entity.content.members).getD ""
  { id := id
    schemaId := entity.schemaId
    idField := entity.idField
    schemaField := entity.schemaField
    isSchema := entity.isSchema }

end TypeRegistry
