import Mathlib.Data.List.Induction
import TypeRegistry.Proofs.Store.Run

/-!
# References of what a store holds

The references of an entity are read off its document when the entity is made.  A raw schema is
registered without that: whatever it refers to, its entity has no references.

In a store that a reader and calls have filled with what was read off documents, whatever is found
is the entity of a document or that of a raw schema, under the identifier of the entity.

References are checked once, when the entity that has them is registered.  Whatever happens later,
they lead to known entities, for nothing is dropped but everything at once.  A schema may however be
replaced by an instance under the same identifier, and what refers to the schema is not looked at.

Main results:

- Definition `Store.IsOfDocuments`: stores that were filled with what was read off documents.
- Theorem `references_run`: all entities held know all their references, raw schemas apart.
- Theorem `references_itemDraft`: a raw schema that refers to another and does not know it.
- Theorem `brokenReferences_run`: under checked registration a reference breaks only where the
  schema it leads to is replaced by an instance.
- Theorem `brokenReferences_replacedThing`: a reference that breaks in this way.
-/

namespace TypeRegistry

open Dictionary

/-! ## Entities of documents -/

/-- An entity that was read off a document. -/
def Entity.IsRead (entity : Entity) : Prop :=
  ∃ names origin document, entity = ofContent names origin document

/-- An entity that was read off a document knows all references in its content. -/
theorem Entity.IsRead.references {entity : Entity} (h : entity.IsRead) :
    entity.references = Reference.ofDocument entity.content := by
  obtain ⟨names, origin, document, rfl⟩ := h
  rfl

namespace Store

/-- A store that a reader and calls have filled with what was read off documents. -/
def IsOfDocuments (store : Store) : Prop :=
  ∃ reader checks calls, store = (ofReader reader checks).run calls ∧
    (∀ source ∈ reader, ∀ entity, source.HandsOut entity → entity.IsRead) ∧
    ∀ entity override, .register entity override ∈ calls → entity.IsRead

/-- An entity that was read off a document, or the entity of a raw schema. -/
def IsReadOrRaw (entity : Entity) : Prop :=
  entity.IsRead ∨ ∃ typeId identifier schema, Identifier.parse typeId = .ok identifier ∧
    entity = schemaEntity identifier schema

/-- What is found in a store of documents has the identifier that it is found under. -/
theorem IsOfDocuments.of_lookup? {store : Store} (h : store.IsOfDocuments) {id : String}
    {entity : Entity} (hfound : store.lookup? id = some entity) :
    entity.idText = some id ∧ IsReadOrRaw entity := by
  obtain ⟨reader, checks, calls, rfl, hreader, hcalls⟩ := h
  apply of_lookup?_run_ofReader reader checks ?_ ?_ hfound
    (P := fun id entity => entity.idText = some id ∧ IsReadOrRaw entity)
  · intro source hsource entity hentity id hid
    exact ⟨hid, .inl (hreader source hsource entity hentity)⟩
  · intro call hcall entity hbrings id hid
    refine ⟨hid, ?_⟩
    cases hbrings with
    | entity _ override => exact .inl (hcalls entity override hcall)
    | @schema typeId identifier hparse schema =>
      exact .inr ⟨typeId, identifier, schema, hparse, rfl⟩

/-! ## What entities know of their references -/

/-- The entity of a raw schema among some calls that refers to something and does not know it. -/
def IsUnread (calls : List Call) (id : String) (entity : Entity) : Prop :=
  ∃ typeId schema identifier, .registerSchema typeId schema ∈ calls ∧
    Identifier.parse typeId = .ok identifier ∧ id = identifier.text ∧
    entity = schemaEntity identifier schema ∧ entity.references = [] ∧
    Reference.ofDocument schema ≠ []

/-- What a call brings knows its references or is the entity of a raw schema. -/
theorem Call.Brings.references {calls : List Call} {call : Call} {entity : Entity} {id : String}
    (h : call.Brings entity) (hcall : call ∈ calls) (hid : entity.idText = some id)
    (hregistered : ∀ entity override, .register entity override ∈ calls → entity.IsRead) :
    entity.references = Reference.ofDocument entity.content ∨ IsUnread calls id entity := by
  cases h with
  | entity _ override => exact .inl (hregistered entity override hcall).references
  | @schema typeId identifier hparse schema =>
    by_cases hnone : Reference.ofDocument schema = []
    · exact .inl hnone.symm
    · exact .inr ⟨typeId, schema, identifier, hcall, hparse, (Option.some.inj hid).symm, rfl, rfl,
        hnone⟩

/-- All entities that a store holds after a run know all references in their contents, whether they
were registered or came from its reader.  Only entities of raw schemas that refer to something do
not: they have no references at all. -/
theorem references_run (reader : Option ListReader) (checks : Bool) (calls : List Call)
    (hread : ∀ list ∈ reader, ∀ entity ∈ list.entities, entity.IsRead)
    (hregistered : ∀ entity override, .register entity override ∈ calls → entity.IsRead) :
    ∀ entry ∈ ((ofReader (reader.map .list) checks).run calls).entries,
      entry.2.references = Reference.ofDocument entry.2.content ∨
        IsUnread calls entry.1 entry.2 := by
  apply forall_entries_run_ofReader reader checks (P := fun id entity =>
    entity.references = Reference.ofDocument entity.content ∨ IsUnread calls id entity)
  · intro list hlist entity hentity id hid
    exact .inl (hread list hlist entity hentity).references
  · intro call hcall entity hbrings id hid
    exact hbrings.references hcall hid hregistered

end Store

/-- The registration of the entity of a document. -/
def Store.Call.ofDocument (document : Json) : Store.Call :=
  .register (Entity.ofContent {} none document) none

/-- A store in which documents are registered is one of documents. -/
theorem Store.isOfDocuments_run_ofDocument (checks : Bool) (documents : List Json) :
    ((Store.ofReader none checks).run (documents.map .ofDocument)).IsOfDocuments := by
  refine ⟨none, checks, _, rfl, nofun, ?_⟩
  intro entity override hcall
  obtain ⟨document, -, heq⟩ := List.mem_map.1 hcall
  obtain ⟨rfl, -⟩ := Store.Call.register.inj heq
  exact ⟨_, _, _, rfl⟩

/-- A reader of one thing. -/
def thingReader : ListReader :=
  .ofEntities [Entity.ofContent {} none (.obj [("id", .str "gts.acme.shop.base.thing.v1~")])]

/-- A document that refers to the thing. -/
def itemDraft : Json :=
  .obj [("$ref", .str "gts://gts.acme.shop.base.thing.v1~")]

/-- The thing is looked up, a gift is registered, and the draft is registered as a raw schema. -/
def draftCalls : List Store.Call :=
  [.get "gts.acme.shop.base.thing.v1~",
    .ofDocument (.obj [("id", .str "gts.acme.shop.base.thing.v1~acme.shop.base.gift.v1")]),
    .registerSchema "gts.acme.shop.cart.item.v1~" itemDraft]

/-- The store after these calls. -/
def draftStore : Store :=
  (Store.ofReader ((some thingReader).map .list) false).run draftCalls

/-- The thing and the gift were read off documents, and the draft is unread. -/
theorem references_run_draftCalls :
    ∃ entry ∈ draftStore.entries, Store.IsUnread draftCalls entry.1 entry.2 := by
  have hunknown : ∃ entry ∈ draftStore.entries,
      entry.2.references ≠ Reference.ofDocument entry.2.content := by
    decide +kernel
  have hread : ∀ list ∈ some thingReader, ∀ entity ∈ list.entities, entity.IsRead := by
    intro list hlist entity hentity
    obtain rfl := Option.some.inj hlist
    have hmem := List.mem_singleton.1 (List.mem_filter.1 hentity).1
    exact ⟨_, _, _, hmem⟩
  have hregistered : ∀ entity override, .register entity override ∈ draftCalls →
      entity.IsRead := by
    intro entity override hcall
    simp only [draftCalls, Store.Call.ofDocument, List.mem_cons, List.not_mem_nil, reduceCtorEq,
      Store.Call.register.injEq, or_false, false_or] at hcall
    exact ⟨_, _, _, hcall.1⟩
  obtain ⟨entry, hentry, hne⟩ := hunknown
  have hentries := Store.references_run (some thingReader) false draftCalls hread hregistered
  exact ⟨entry, hentry, (hentries entry hentry).resolve_left hne⟩

/-- The draft refers to the thing, and its entity knows of no reference. -/
theorem references_itemDraft :
    draftStore.entries.map (fun entry => (entry.1, entry.2.references)) =
      [("gts.acme.shop.base.thing.v1~", [⟨"gts.acme.shop.base.thing.v1~", "id"⟩]),
        ("gts.acme.shop.base.thing.v1~acme.shop.base.gift.v1",
          [⟨"gts.acme.shop.base.thing.v1~acme.shop.base.gift.v1", "id"⟩]),
        ("gts.acme.shop.cart.item.v1~", [])] ∧
    (draftStore.lookup? "gts.acme.shop.cart.item.v1~").map
        (fun entity => Reference.ofDocument entity.content) =
      some [⟨"gts.acme.shop.base.thing.v1~", "$ref"⟩] := by
  decide +kernel

/-! ## References that break -/

/-- A problem is that of one of the outward references. -/
theorem mem_brokenReferences {lookup : Lookup} {entity : Entity} {problem : ReferenceProblem} :
    problem ∈ (brokenReferences lookup entity).value ↔
      ∃ ref ∈ entity.outwardReferences entity.idText,
        referenceProblem? lookup entity ref = some problem := by
  simp [brokenReferences, List.mem_filterMap]

/-- The problem with a reference depends on what is found under its identifier only. -/
theorem referenceProblem?_congr {lookup other : Lookup} {entity : Entity} {ref : Reference}
    (h : lookup ref.id = other ref.id) :
    referenceProblem? lookup entity ref = referenceProblem? other entity ref := by
  rw [referenceProblem?, referenceProblem?, h]

/-- A reference to something that is found has a problem only if it leads from a schema to an
instance. -/
theorem referenceProblem?_of_found {lookup : Lookup} {entity target : Entity} {ref : Reference}
    {problem : ReferenceProblem} (hfound : lookup ref.id = some target)
    (h : referenceProblem? lookup entity ref = some problem) :
    problem = .noSchema ref ∧ entity.isSchema = true ∧ Text.contains "$ref" ref.path = true ∧
      target.isSchema = false := by
  simp only [referenceProblem?, hfound] at h
  split at h
  next hwrong =>
    simp only [Bool.and_eq_true, Bool.not_eq_true'] at hwrong
    exact ⟨(Option.some.inj h).symm, hwrong.1.1, hwrong.1.2, hwrong.2⟩
  next => cases h

/-- A reference without a problem leads to something, from the `$ref` of a schema to a schema. -/
theorem found_of_referenceProblem?_eq_none {lookup : Lookup} {entity : Entity} {ref : Reference}
    (h : referenceProblem? lookup entity ref = none) :
    ∃ target, lookup ref.id = some target ∧
      (entity.isSchema = true → Text.contains "$ref" ref.path = true →
        target.isSchema = true) := by
  cases hfound : lookup ref.id with
  | none => simp [referenceProblem?, hfound] at h
  | some target =>
    refine ⟨target, rfl, fun hschema hpath => ?_⟩
    simpa [referenceProblem?, hfound, hschema, hpath] using h

/-- Outward references do not lead to the entity itself. -/
theorem Entity.ne_of_mem_outwardReferences {entity : Entity} {id : String} {ref : Reference}
    (hid : entity.idText = some id) (href : ref ∈ entity.outwardReferences entity.idText) :
    id ≠ ref.id := by
  rintro rfl
  have hout := (List.mem_filter.1 href).2
  simp [hid] at hout

namespace Store

/-- An entity that is registered under the rule of checking has no broken reference. -/
theorem brokenReferences_of_register {store later : Store} {entity : Entity}
    (hchecks : store.checksReferences = true)
    (h : store.register entity none = (.ok (), later)) :
    (brokenReferences store.lookup? entity).value = [] := by
  rw [register] at h
  cases hid : entity.id with
  | none => simp [hid] at h
  | some id =>
    simp only [hid, Option.getD_none, hchecks, if_true] at h
    split at h
    next hempty => simpa using hempty
    next => simp at h

/-- When an entity without broken references is put in, a reference of a held entity has the problem
that it had before, or it leads to the new entity, which is an instance. -/
theorem referenceProblem?_put {store : Store} {id : String} {entity : Entity}
    {entry : String × Entity} {ref : Reference} {problem : ReferenceProblem}
    (hid : entity.idText = some id) (hsound : (brokenReferences store.lookup? entity).value = [])
    (hentry : entry ∈ put id entity store.entries)
    (href : ref ∈ entry.2.outwardReferences entry.2.idText)
    (h : referenceProblem? (lookup? { store with entries := put id entity store.entries })
      entry.2 ref = some problem) :
    entry ∈ store.entries ∧
      (referenceProblem? store.lookup? entry.2 ref = some problem ∨
        lookup? { store with entries := put id entity store.entries } ref.id = some entity ∧
          problem = .noSchema ref ∧ entity.isSchema = false) := by
  have hlookup := lookup?_put_of_isNews (isNews_nil store) id entity ref.id
  rw [List.append_nil] at hlookup
  rcases eq_or_mem_of_mem_put hentry with rfl | hmem
  · rw [if_neg (Entity.ne_of_mem_outwardReferences hid href)] at hlookup
    rw [referenceProblem?_congr hlookup] at h
    have hbroken := mem_brokenReferences.2 ⟨ref, href, h⟩
    rw [hsound] at hbroken
    cases hbroken
  · refine ⟨hmem, ?_⟩
    by_cases heq : id = ref.id
    · rw [if_pos heq] at hlookup
      obtain ⟨hproblem, -, -, hinstance⟩ := referenceProblem?_of_found hlookup h
      exact .inr ⟨hlookup, hproblem, hinstance⟩
    · rw [if_neg heq] at hlookup
      rw [referenceProblem?_congr hlookup] at h
      exact .inl h

/-- A problem with a reference of an entity that is held after a call was there before it, or the
call has registered an instance under the identifier referred to. -/
theorem referenceProblem?_perform {store : Store} {call : Call} {entry : String × Entity}
    {ref : Reference} {problem : ReferenceProblem} (hreader : store.reader = none)
    (hchecks : store.checksReferences = true)
    (hchecked : ∀ entity override, call = .register entity override → override = none)
    (hentry : entry ∈ (store.perform call).entries)
    (href : ref ∈ entry.2.outwardReferences entry.2.idText)
    (h : referenceProblem? (store.perform call).lookup? entry.2 ref = some problem) :
    entry ∈ store.entries ∧
      (referenceProblem? store.lookup? entry.2 ref = some problem ∨
        ∃ replacement, call = .register replacement none ∧
          (store.perform call).lookup? ref.id = some replacement ∧
          problem = .noSchema ref ∧ replacement.isSchema = false) := by
  cases call with
  | get id =>
    obtain ⟨found, hstore, hnews, -⟩ := takeIn_eq store id
    rw [hnews.eq_nil hreader, followedBy_nil] at hstore
    rw [perform, hstore] at hentry h
    exact ⟨hentry, .inl h⟩
  | reload =>
    rw [perform, reload_entries, hreader] at hentry
    cases hentry
  | registerSchema typeId schema =>
    rw [perform] at hentry h
    rcases store.registerSchema_cases typeId schema with ⟨id, -, heq⟩ | ⟨fault, heq⟩
    · rw [heq] at hentry h
      obtain ⟨hmem, hold | ⟨-, -, hinstance⟩⟩ := referenceProblem?_put rfl rfl hentry href h
      · exact ⟨hmem, .inl hold⟩
      · cases hinstance
    · rw [heq] at hentry h
      exact ⟨hentry, .inl h⟩
  | register entity override =>
    obtain rfl := hchecked entity override rfl
    rw [perform] at hentry h ⊢
    rcases hregister : store.register entity none with ⟨fault | ⟨⟩, later⟩
    · obtain ⟨found, rfl, hnews, -⟩ := register_error hregister
      rw [hregister, hnews.eq_nil hreader, followedBy_nil] at hentry h
      exact ⟨hentry, .inl h⟩
    · obtain ⟨id, found, hid, hnews, rfl⟩ := register_ok hregister
      have hsound := brokenReferences_of_register hchecks hregister
      have htext : entity.idText = some id.text := by rw [Entity.idText, hid, Option.map_some]
      rw [hnews.eq_nil hreader, List.append_nil] at hregister ⊢
      rw [hregister] at hentry h
      obtain ⟨hmem, hold | hnew⟩ := referenceProblem?_put htext hsound hentry href h
      · exact ⟨hmem, .inl hold⟩
      · exact ⟨hmem, .inr ⟨entity, rfl, hnew⟩⟩

/-- Among some calls, an instance is registered in the place of the schema that a reference of a
held entity leads to. -/
def Displaced (start : Store) (calls : List Call) (entry : String × Entity) (ref : Reference) :
    Prop :=
  ∃ before replacement after old,
    calls = before ++ .register replacement none :: after ∧
    entry ∈ (start.run before).entries ∧
    (start.run before).lookup? ref.id = some old ∧ old.isSchema = true ∧
    (start.run (before ++ [.register replacement none])).lookup? ref.id = some replacement ∧
    replacement.isSchema = false

/-- What was displaced among some calls was so among these and more. -/
theorem Displaced.append {start : Store} {calls : List Call} {entry : String × Entity}
    {ref : Reference} (h : start.Displaced calls entry ref) (more : List Call) :
    start.Displaced (calls ++ more) entry ref := by
  obtain ⟨before, replacement, after, old, rfl, hrest⟩ := h
  exact ⟨before, replacement, after ++ more, old, by simp, hrest⟩

/-- Where references are checked at every registration and there is no reader, no entity that is
held after a run has a dangling reference.  A `$ref` of it may have come to lead from a schema to an
instance; then the entity was held when the instance was registered in the place of the schema that
the `$ref` did lead to. -/
theorem brokenReferences_run (calls : List Call)
    (hchecked : ∀ entity override, .register entity override ∈ calls → override = none)
    (entry : String × Entity) (problem : ReferenceProblem)
    (hentry : entry ∈ ((ofReader none true).run calls).entries)
    (hproblem : problem ∈
      (brokenReferences ((ofReader none true).run calls).lookup? entry.2).value) :
    ∃ ref ∈ entry.2.references, problem = .noSchema ref ∧
      (ofReader none true).Displaced calls entry ref := by
  obtain ⟨ref, href, h⟩ := mem_brokenReferences.1 hproblem
  refine ⟨ref, (List.mem_filter.1 href).1, ?_⟩
  clear hproblem
  -- Induction on the calls from the last one back: what the last call leaves as it was, was so
  -- before, and what it breaks, it displaces.
  induction calls using List.reverseRecOn generalizing problem with
  | nil => cases hentry
  | append_singleton before call ih =>
    have hreader : ((ofReader none true).run before).reader = none := by
      have hrewound := run_reader (ofReader none true) before
      simpa using hrewound
    have hchecks := run_checks (ofReader none true) before
    have hcheckedBefore : ∀ entity override, .register entity override ∈ before →
        override = none := by
      intro entity override hmem
      exact hchecked entity override (List.mem_append_left _ hmem)
    rw [run_append, run_cons, run_nil] at hentry h
    obtain ⟨hheld, hsame | ⟨replacement, rfl, hfound, rfl, hinstance⟩⟩ :=
      referenceProblem?_perform hreader hchecks
        (fun entity override hcall => hchecked entity override (by simp [hcall])) hentry href h
    · obtain ⟨hproblem, hdisplaced⟩ := ih hcheckedBefore problem hheld hsame
      exact ⟨hproblem, hdisplaced.append _⟩
    · refine ⟨rfl, ?_⟩
      cases hbefore : referenceProblem? ((ofReader none true).run before).lookup? entry.2 ref with
      | some earlier => exact (ih hcheckedBefore earlier hheld hbefore).2.append _
      | none =>
        obtain ⟨-, hschema, hpath, -⟩ := referenceProblem?_of_found hfound h
        obtain ⟨old, hold, htold⟩ := found_of_referenceProblem?_eq_none hbefore
        refine ⟨before, replacement, [], old, rfl, hheld, hold, htold hschema hpath, ?_, hinstance⟩
        rw [run_append]
        exact hfound

end Store

/-- The schema of things is registered, then the schema of items, which refers to it, and then an
instance under the identifier of the schema of things. -/
def replacedThing : List Store.Call :=
  [.ofDocument (.obj [("$id", .str "gts://gts.acme.shop.base.thing.v1~"),
      ("$schema", .str "http://json-schema.org/draft-07/schema#")]),
    .ofDocument (.obj [("$id", .str "gts://gts.acme.shop.cart.item.v1~"),
      ("$schema", .str "http://json-schema.org/draft-07/schema#"),
      ("allOf", .arr [.obj [("$ref", .str "gts://gts.acme.shop.base.thing.v1~")]])]),
    .ofDocument (.obj [("id", .str "gts.acme.shop.base.thing.v1~")])]

/-- The reference of the items to the things. -/
def itemReference : Reference :=
  ⟨"gts.acme.shop.base.thing.v1~", "allOf[0].$ref"⟩

/-- The store after the three registrations. -/
def replacedStore : Store :=
  (Store.ofReader none true).run replacedThing

/-- What is wrong with the references of every entity held. -/
def Store.problems (store : Store) : List (String × List ReferenceProblem) :=
  store.entries.map fun entry => (entry.1, (brokenReferences store.lookup? entry.2).value)

/-- The reference of the items is broken, and what it leads to was displaced. -/
theorem brokenReferences_run_replacedThing :
    ∃ entry ∈ replacedStore.entries,
      .noSchema itemReference ∈ (brokenReferences replacedStore.lookup? entry.2).value ∧
      (Store.ofReader none true).Displaced replacedThing entry itemReference := by
  have hbroken : ∃ entry ∈ replacedStore.entries,
      .noSchema itemReference ∈ (brokenReferences replacedStore.lookup? entry.2).value := by
    decide +kernel
  have hchecked : ∀ entity override, .register entity override ∈ replacedThing →
      override = none := by
    intro entity override hcall
    simp only [replacedThing, Store.Call.ofDocument, List.mem_cons, List.not_mem_nil,
      Store.Call.register.injEq, or_false] at hcall
    rcases hcall with ⟨-, h⟩ | ⟨-, h⟩ | ⟨-, h⟩
    all_goals exact h
  obtain ⟨entry, hentry, hproblem⟩ := hbroken
  obtain ⟨ref, -, heq, hdisplaced⟩ :=
    Store.brokenReferences_run replacedThing hchecked entry _ hentry hproblem
  rw [← ReferenceProblem.noSchema.inj heq] at hdisplaced
  exact ⟨entry, hentry, hproblem, hdisplaced⟩

/-- The schema of items was found to be in order when it was registered and refers to an instance
in the end. -/
theorem brokenReferences_replacedThing :
    ((Store.ofReader none true).run (replacedThing.take 2)).problems =
      [("gts.acme.shop.base.thing.v1~", []), ("gts.acme.shop.cart.item.v1~", [])] ∧
    replacedStore.problems =
      [("gts.acme.shop.base.thing.v1~", []),
        ("gts.acme.shop.cart.item.v1~", [.noSchema itemReference])] := by
  decide +kernel

end TypeRegistry
