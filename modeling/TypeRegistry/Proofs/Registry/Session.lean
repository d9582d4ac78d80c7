import TypeRegistry.Proofs.Store.Run
import TypeRegistry.Registry.Request

/-!
# Sessions with a registry

A request changes the store of a registry by calls that can be read off the request alone; after
these the store only takes in what was looked up.  So what holds of a store after every run of calls
holds of a registry after every session.

The constraints on identifiers in a schema are checked before a document is added as an entity.
They are not checked when a schema is added under a type identifier.

Main results:

- Definition `Request.changes`: the calls by which a request changes the store.
- Theorem `answer_eq`, `answerAll_eq`: requests are runs of calls.
- Theorem `constraintIssues_answerAll`: the schemas held have well-formed constraints, raw schemas
  apart.
- Theorem `constraintIssues_looseItem`: a raw schema with an ill-formed constraint.
-/

namespace TypeRegistry

open Dictionary

/-! ## Requests as calls -/

/-- The calls by which a document is added as an entity: none if it is turned away before it gets to
the store. -/
def additionCalls (names : FieldNames) (content : Json) : List Store.Call :=
  let entity := Entity.ofContent names none content
  if content.isObject && (Registry.constraintIssuesOf entity).isEmpty then [.register entity none]
  else []

/-- The calls by which a request changes the store. -/
def Request.changes (names : FieldNames) : Request → List Store.Call
  | .ask _ => []
  | .addEntity content _ => additionCalls names content
  | .addEntities contents => contents.flatMap (additionCalls names)
  | .addSchema typeId schema => [.registerSchema typeId schema]
  | .reload => [.reload]

namespace Registry

@[simp]
theorem withStore_store (registry : Registry) (store : Store) :
    (registry.withStore store).store = store :=
  rfl

@[simp]
theorem withStore_self (registry : Registry) : registry.withStore registry.store = registry :=
  rfl

/-- A document that is added, or turned away, does to the store what its calls do. -/
theorem addUnvalidated_eq (registry : Registry) (content : Json) :
    (registry.addUnvalidated content).2 =
      registry.withStore (registry.store.run (additionCalls registry.names content)) := by
  simp only [addUnvalidated, additionCalls]
  generalize Entity.ofContent registry.names none content = entity
  cases content.isObject with
  | false => rfl
  | true =>
    simp only [if_true, Bool.true_and]
    cases hid : entity.id with
    | none =>
      have hanonymous : registry.store.perform (.register entity none) = registry.store := by
        rw [Store.perform, Store.register, hid]
      simp only
      split
      · rw [Store.run_cons, Store.run_nil, hanonymous, withStore_self]
      · rfl
    | some id =>
      simp only
      split
      · rfl
      · rfl

/-- Adding several documents is a run of the calls for each. -/
theorem addEntities_eq (registry : Registry) (contents : List Json) :
    (registry.addEntities contents).2 =
      registry.withStore
        (registry.store.run (contents.flatMap (additionCalls registry.names))) := by
  induction contents generalizing registry with
  | nil => rfl
  | cons content rest ih =>
    rw [addEntities, List.flatMap_cons, Store.run_append]
    simp only [ih, addUnvalidated_eq]
    rfl

/-- Adding a document with or without its validation is a run of its calls, after which what the
validation looked up is taken in. -/
theorem addEntity_eq (registry : Registry) (content : Json) (validates : Bool) :
    ∃ ids, (registry.addEntity content validates).2 =
      registry.withStore
        ((registry.store.run (additionCalls registry.names content)).takeInAll ids) := by
  have hadded := registry.addUnvalidated_eq content
  rw [addEntity]
  generalize registry.addUnvalidated content = added at hadded
  obtain ⟨outcome, after⟩ := added
  cases outcome with
  | error fault => exact ⟨[], hadded⟩
  | ok id =>
    cases validates with
    | false => exact ⟨[], hadded⟩
    | true =>
      obtain rfl : after = _ := hadded
      simp only [if_true, validateAdded]
      split
      · exact ⟨[], rfl⟩
      · exact ⟨_, rfl⟩

/-- A request does to the store what its calls do, after which what was looked up for the reply is
taken in. -/
theorem answer_eq (registry : Registry) (request : Request) :
    ∃ ids, (registry.answer request).2 = registry.withStore
      ((registry.store.run (request.changes registry.names)).takeInAll ids) := by
  cases request with
  | ask inquiry => exact ⟨(registry.consult inquiry).asked, rfl⟩
  | addEntity content validates => exact registry.addEntity_eq content validates
  | addEntities contents => exact ⟨[], registry.addEntities_eq contents⟩
  | addSchema typeId schema => exact ⟨[], rfl⟩
  | reload => exact ⟨[], rfl⟩

/-- Several requests are a run of calls: those by which they change the store, and look-ups. -/
theorem answerAll_eq (registry : Registry) (requests : List Request) :
    ∃ calls, (registry.answerAll requests).2 = registry.withStore (registry.store.run calls) ∧
      ∀ call ∈ calls, (∃ id, call = .get id) ∨
        ∃ request ∈ requests, call ∈ request.changes registry.names := by
  induction requests generalizing registry with
  | nil => exact ⟨[], rfl, by simp⟩
  | cons request rest ih =>
    obtain ⟨ids, hfirst⟩ := registry.answer_eq request
    obtain ⟨later, hlater, hcalls⟩ := ih (registry.answer request).2
    rw [hfirst] at hlater hcalls
    refine ⟨request.changes registry.names ++ (ids.map .get ++ later), ?_, ?_⟩
    · rw [Store.run_append, Store.run_append, Store.run_get]
      simp only [answerAll, hfirst]
      exact hlater
    · intro call hcall
      rcases List.mem_append.1 hcall with hmem | hmem
      · exact .inr ⟨request, List.mem_cons_self, hmem⟩
      · rcases List.mem_append.1 hmem with hmem | hmem
        · obtain ⟨id, -, rfl⟩ := List.mem_map.1 hmem
          exact .inl ⟨id, rfl⟩
        · rcases hcalls call hmem with hget | ⟨other, hother, hchange⟩
          · exact .inl hget
          · exact .inr ⟨other, List.mem_cons_of_mem _ hother, hchange⟩

/-! ## Constraints in the schemas held -/

/-- The store after any requests holds what calls among their changes bring. -/
theorem forall_entries_answerAll {P : String → Entity → Prop} {registry : Registry} {checks : Bool}
    (hstore : registry.store = Store.ofReader none checks) {requests : List Request}
    (hbrought : ∀ request ∈ requests, ∀ call ∈ request.changes registry.names,
      ∀ entity, call.Brings entity → ∀ id, entity.idText = some id → P id entity) :
    ∀ entry ∈ (registry.answerAll requests).2.store.entries, P entry.1 entry.2 := by
  obtain ⟨calls, heq, hcalls⟩ := registry.answerAll_eq requests
  rw [heq, withStore_store, hstore]
  refine Store.forall_entries_run_ofReader none checks (by simp) ?_
  intro call hcall
  rcases hcalls call hcall with ⟨id, rfl⟩ | ⟨request, hrequest, hchange⟩
  · intro entity hbrings
    cases hbrings
  · exact hbrought request hrequest call hchange

/-- What a document is added as has well-formed constraints if it is a schema. -/
theorem constraintIssues_of_mem_additionCalls {names : FieldNames} {content : Json}
    {call : Store.Call} {entity : Entity} (hcall : call ∈ additionCalls names content)
    (hbrings : call.Brings entity) (hschema : entity.isSchema = true) :
    constraintIssues entity.content "" entity.content = [] := by
  simp only [additionCalls] at hcall
  split at hcall
  next hadded =>
    obtain rfl := List.mem_singleton.1 hcall
    cases hbrings
    simp only [Bool.and_eq_true, List.isEmpty_iff] at hadded
    have hissues := hadded.2
    rwa [constraintIssuesOf, if_pos hschema] at hissues
  next => cases hcall

/-- In a registry that is filled by requests alone, all schemas have well-formed constraints on
identifiers, but for raw schemas that were added under type identifiers. -/
theorem constraintIssues_answerAll (settings : Settings) (names : FieldNames) (checks : Bool)
    (requests : List Request) (entry : String × Entity)
    (hentry : entry ∈
      (answerAll ⟨settings, names, Store.ofReader none checks⟩ requests).2.store.entries)
    (hschema : entry.2.isSchema = true) :
    constraintIssues entry.2.content "" entry.2.content = [] ∨
      ∃ typeId schema id, .addSchema typeId schema ∈ requests ∧
        Identifier.parse typeId = .ok id ∧ entry = (id.text, Store.schemaEntity id schema) := by
  revert hschema
  apply forall_entries_answerAll (P := fun key entity => entity.isSchema = true →
    constraintIssues entity.content "" entity.content = [] ∨
      ∃ typeId schema id, .addSchema typeId schema ∈ requests ∧
        Identifier.parse typeId = .ok id ∧
        (key, entity) = (id.text, Store.schemaEntity id schema)) rfl ?_ entry hentry
  intro request hrequest call hcall entity hbrings key hkey hschema
  cases request with
  | ask inquiry => cases hcall
  | addEntity content validates =>
    exact .inl (constraintIssues_of_mem_additionCalls hcall hbrings hschema)
  | addEntities contents =>
    obtain ⟨content, -, hmem⟩ := List.mem_flatMap.1 hcall
    exact .inl (constraintIssues_of_mem_additionCalls hmem hbrings hschema)
  | addSchema typeId schema =>
    obtain rfl := List.mem_singleton.1 hcall
    cases hbrings with
    | @schema _ id hid =>
      obtain rfl := Option.some.inj hkey
      exact .inr ⟨typeId, schema, id, hrequest, hid, rfl⟩
  | reload =>
    obtain rfl := List.mem_singleton.1 hcall
    cases hbrings

end Registry

/-- A schema with a constraint that is neither an identifier nor a pointer. -/
def looseItem : Json :=
  .obj [("$id", .str "gts://gts.acme.shop.cart.item.v1~"),
    ("$schema", .str "http://json-schema.org/draft-07/schema#"), ("x-gts-ref", .str "thing")]

/-- The schema is added as an entity, and then under its type identifier. -/
def looseRequests : List Request :=
  [.addEntity looseItem false, .addSchema "gts.acme.shop.cart.item.v1~" looseItem]

/-- The registry after some requests. -/
def Registry.afterRequests (requests : List Request) : Registry :=
  (Registry.answerAll ⟨{}, {}, Store.ofReader none false⟩ requests).2

/-- The schemas held, each with the paths of its ill-formed constraints. -/
def Registry.illFormed (registry : Registry) : List (String × List String) :=
  (registry.store.entries.filter fun entry => entry.2.isSchema).map fun entry =>
    (entry.1, (constraintIssues entry.2.content "" entry.2.content).map (·.path))

/-- The schema is held, and it was added under its type identifier. -/
theorem constraintIssues_answerAll_looseRequests :
    ∃ entry ∈ (Registry.afterRequests looseRequests).store.entries, entry.2.isSchema = true ∧
      (constraintIssues entry.2.content "" entry.2.content = [] ∨
        ∃ typeId schema id, .addSchema typeId schema ∈ looseRequests ∧
          Identifier.parse typeId = .ok id ∧ entry = (id.text, Store.schemaEntity id schema)) := by
  have hheld : ∃ entry ∈ (Registry.afterRequests looseRequests).store.entries,
      entry.2.isSchema = true := by
    decide +kernel
  obtain ⟨entry, hentry, hschema⟩ := hheld
  exact ⟨entry, hentry, hschema,
    Registry.constraintIssues_answerAll {} {} false looseRequests entry hentry hschema⟩

/-- The schema is turned away as an entity and accepted under its type identifier. -/
theorem constraintIssues_looseItem :
    (Registry.afterRequests (looseRequests.take 1)).illFormed = [] ∧
    (Registry.afterRequests looseRequests).illFormed =
      [("gts.acme.shop.cart.item.v1~", ["x-gts-ref"])] := by
  decide +kernel

end TypeRegistry
