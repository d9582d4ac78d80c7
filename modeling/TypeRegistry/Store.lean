import TypeRegistry.Source.Reader

/-!
# The store

The store holds entities under their identifiers, in the order in which the identifiers first came
in.  An entity that is not held may still be known to the reader; it is then taken into the store
when it is looked up.  What a look-up finds does not depend on what was taken in before, so an
operation is a function of the view `lookup?`, and says which identifiers it looked up on the way.

Main definitions:

- `Store`, `Store.ofReader`, `Store.reload`: stores, filled from a reader.
- `Store.lookup?`, `Store.takeIn`: the view of a store, and the effect of looking up.
- `Store.known`: all that looking up can lead to.
- `Consulted`: a result with the identifiers looked up for it.
- `Store.register`, `Store.registerSchema`: adding entities.
- `ReferenceProblem`, `brokenReferences`: the check of an entity's references.
- `Store.page`: the first of the entities held.
-/

namespace TypeRegistry

open Dictionary

/-- Entities under their identifiers, with the reader they may still come from. -/
structure Store where
  entries : Dictionary Entity := []
  reader : Option Reader := none
  /-- Whether references are checked when an entity is registered. -/
  checksReferences : Bool := false

/-- What a store knows under an identifier. -/
abbrev Lookup := String → Option Entity

/-- A result, and the identifiers that were looked up for it, in order. -/
structure Consulted (α : Type) where
  value : α
  asked : List String

namespace Consulted

/-- A result for which nothing was looked up. -/
def pure {α : Type} (value : α) : Consulted α := ⟨value, []⟩

/-- Work on with a result. -/
def bind {α β : Type} (first : Consulted α) (next : α → Consulted β) : Consulted β :=
  let second := next first.value
  ⟨second.value, first.asked ++ second.asked⟩

/-- Look an identifier up. -/
def ask (lookup : Lookup) (id : String) : Consulted (Option Entity) := ⟨lookup id, [id]⟩

instance : Monad Consulted where
  pure := pure
  bind := bind

/-- Change the result. -/
def mapValue {α β : Type} (f : α → β) (consulted : Consulted α) : Consulted β :=
  ⟨f consulted.value, consulted.asked⟩

end Consulted

namespace Store

/-! ## Looking up -/

/-- The entity under an identifier, held or known to the reader. -/
def lookup? (store : Store) (id : String) : Option Entity :=
  match find? id store.entries with
  | some entity => some entity
  | none => store.reader.bind (·.find? id)

/-- Look an identifier up and keep what the reader had under it. -/
def takeIn (store : Store) (id : String) : Store :=
  if has id store.entries then store
  else
    match store.reader.bind (·.find? id) with
    | some entity => { store with entries := store.entries ++ [(id, entity)] }
    | none => store

/-- Look several identifiers up. -/
def takeInAll (store : Store) (ids : List String) : Store :=
  ids.foldl takeIn store

/-- The number of entities that the store can know. -/
def capacity (store : Store) : Nat :=
  store.entries.length + (store.reader.map (·.lookupCount)).getD 0

/-! ## Filling from a reader -/

/-- Hold an entity under its identifier; one without an identifier is left out. -/
def hold (entries : Dictionary Entity) (entity : Entity) : Dictionary Entity :=
  match entity.id with
  | some id => put id.text entity entries
  | none => entries

/-- Hold all that the reader still hands out. -/
def fill (store : Store) : Store :=
  match store.reader with
  | some reader =>
    { store with
      entries := reader.remaining.foldl hold store.entries
      reader := some reader.exhausted }
  | none => store

/-- What a reader can look up, under the identifiers. -/
def readable : Option Reader → Dictionary Entity
  | some (.list reader) => reader.entities.foldl hold []
  | _ => []

/-- All that a store can know: what it holds, and what its reader can look up besides.  Looking up
moves entities from the second part to the first. -/
def known (store : Store) : Dictionary Entity :=
  store.entries ++ (readable store.reader).filter fun entry => !has entry.1 store.entries

/-- The store of a reader. -/
def ofReader (reader : Option Reader) (checksReferences : Bool) : Store :=
  fill { entries := [], reader := reader, checksReferences := checksReferences }

/-- Drop everything and read it anew from the start of the reader. -/
def reload (store : Store) : Store :=
  fill { store with entries := [], reader := store.reader.map (·.rewound) }

end Store

/-! ## References -/

/-- Whether a text is the address of a JSON Schema dialect. -/
def isDialectAddress (s : String) : Bool :=
  Text.startsWith "http://json-schema.org" s || Text.startsWith "https://json-schema.org" s

/-- What is wrong with a reference. -/
inductive ReferenceProblem where
  | missing (reference : Reference)
  | noSchema (reference : Reference)
deriving DecidableEq, Repr

/-- The wording of a problem. -/
def ReferenceProblem.message : ReferenceProblem → String
  | missing ref => "referenced entity not found: " ++ ref.id ++ " (at " ++ ref.path ++ ")"
  | noSchema ref =>
    "schema reference points to non-schema entity: " ++ ref.id ++ " (at " ++ ref.path ++ ")"

/-- The references of an entity that lead elsewhere: neither to itself nor to a dialect. -/
def Entity.outwardReferences (entity : Entity) (ownId : Option String) : List Reference :=
  entity.references.filter fun ref => !(some ref.id == ownId || isDialectAddress ref.id)

/-- What is wrong with one reference of an entity. -/
def referenceProblem? (lookup : Lookup) (entity : Entity) (ref : Reference) :
    Option ReferenceProblem :=
  match lookup ref.id with
  | none => some (.missing ref)
  | some target =>
    if entity.isSchema && Text.contains "$ref" ref.path && !target.isSchema then
      some (.noSchema ref)
    else none

/-- What is wrong with the references of an entity: every one must lead to a known entity, and a
`$ref` of a schema to a schema. -/
def brokenReferences (lookup : Lookup) (entity : Entity) : Consulted (List ReferenceProblem) :=
  let outward := entity.outwardReferences entity.idText
  ⟨outward.filterMap (referenceProblem? lookup entity), outward.map (·.id)⟩

/-! ## Registering -/

/-- Why an entity is not registered. -/
inductive RegistrationFault where
  | anonymous
  | brokenReferences (id : String) (problems : List ReferenceProblem)
  | notTypeId (given : String)
  | identifier (fault : IdentifierFault)
deriving DecidableEq, Repr

/-- The wording of a fault. -/
def RegistrationFault.message : RegistrationFault → String
  | anonymous => "entity must have a valid gts_id"
  | brokenReferences id problems =>
    "GTS reference validation failed for entity " ++ id ++ ": " ++
      Text.joinWith "; " (problems.map (·.message))
  | notTypeId _ => "schema type_id must end with '~'"
  | identifier fault => fault.message

namespace Store

/-- Register an entity, replacing one under the same identifier.  The store's rule on checking
references can be overridden. -/
def register (store : Store) (entity : Entity) (checks : Option Bool) :
    Except RegistrationFault Unit × Store :=
  match entity.id with
  | none => (.error .anonymous, store)
  | some id =>
    if checks.getD store.checksReferences then
      let broken := brokenReferences store.lookup? entity
      let store := store.takeInAll broken.asked
      if broken.value.isEmpty then
        (.ok (), { store with entries := put id.text entity store.entries })
      else (.error (.brokenReferences id.text broken.value), store)
    else
      (.ok (), { store with entries := put id.text entity store.entries })

/-- The entity of a schema that is registered under a type identifier, whatever the schema says. -/
def schemaEntity (id : Identifier) (schema : Json) : Entity :=
  { content := schema, id := some id, isSchema := true, label := id.text }

/-- Register a schema under a type identifier. -/
def registerSchema (store : Store) (typeId : String) (schema : Json) :
    Except RegistrationFault Unit × Store :=
  if Text.endsWith "~" typeId then
    match Identifier.parse typeId with
    | .error fault => (.error (.identifier fault), store)
    | .ok id =>
      (.ok (), { store with entries := put id.text (schemaEntity id schema) store.entries })
  else (.error (.notTypeId typeId), store)

/-! ## Listing -/

/-- The first entities held, and the number of all. -/
structure Page where
  entities : List Entity
  total : Nat

/-- The first entities held, up to a limit. -/
def page (store : Store) (limit : Int) : Page :=
  ⟨(store.entries.take limit.toNat).map (·.2), store.entries.length⟩

end Store

/-- The content of the schema under an identifier, if there is one. -/
def schemaContent? (lookup : Lookup) (id : String) : Option Json :=
  match lookup id with
  | some entity => if entity.isSchema then some entity.content else none
  | none => none

/-! ## Looking up does not change what is known -/

namespace Store

@[simp]
theorem lookup?_takeIn (store : Store) (id other : String) :
    (store.takeIn id).lookup? other = store.lookup? other := by
  unfold takeIn
  split
  · rfl
  next hhas =>
    split
    next entity hread =>
      simp only [lookup?, find?_append]
      cases hheld : find? other store.entries with
      | some held => rfl
      | none =>
        simp only [Option.none_or, find?]
        by_cases h : id = other
        · subst h
          simp [hread]
        · simp [h]
    · rfl

/-- An operation that looks entities up changes the answer of no later look-up. -/
@[simp]
theorem lookup?_takeInAll (store : Store) (ids : List String) (other : String) :
    (store.takeInAll ids).lookup? other = store.lookup? other := by
  induction ids generalizing store with
  | nil => rfl
  | cons id rest ih =>
    have := ih (store.takeIn id)
    simpa [takeInAll] using this

end Store

end TypeRegistry
