import TypeRegistry.Proofs.Store.Growth
import TypeRegistry.Registry.Basic

/-!
# What a failed addition leaves behind

A document that is turned away before it is registered changes nothing that the registry holds.  The
check of its references may only have made the store take in entities that its reader knows of.  An
instance is validated after it was registered, so one that is found invalid stays in the registry,
in the place of an earlier entity under the same identifier.

Main results:

- Theorem `register_ok`, `register_error`: what a store is after an entity was registered or not.
- Theorem `addEntity_failure`: what a registry is after an addition that failed.
- Theorem `addEntity_replaces_by_invalid`: an invalid instance takes the place of an earlier entity.
-/

namespace TypeRegistry

open Dictionary

/-! ## Registering -/

/-- The identifiers that an entity refers to, leaving its own out. -/
def Entity.outwardIds (entity : Entity) : List String :=
  (entity.outwardReferences entity.idText).map (·.id)

/-- An entity does not refer outward to itself. -/
theorem Entity.not_mem_outwardIds {entity : Entity} {id : Identifier} (h : entity.id = some id) :
    id.text ∉ entity.outwardIds := by
  intro hmem
  obtain ⟨ref, href, hid⟩ := List.mem_map.1 hmem
  have hown := (List.mem_filter.1 href).2
  simp [idText, h, hid] at hown

/-- What an entity refers to outward, put behind some entries, leaves its own identifier alone. -/
theorem Entity.find?_append_outward {entity : Entity} {id : Identifier} (h : entity.id = some id)
    (entries : Dictionary Entity) {found : Dictionary Entity}
    (houtward : ∀ entry ∈ found, entry.1 ∈ entity.outwardIds) :
    find? id.text (entries ++ found) = find? id.text entries := by
  have hown : find? id.text found = none := by
    rw [← Option.not_isSome_iff_eq_none]
    intro hhas
    obtain ⟨entry, hentry, hid⟩ := List.mem_map.1 (has_iff_mem_keys.1 hhas)
    exact not_mem_outwardIds h (hid ▸ houtward entry hentry)
  rw [find?_append, hown, Option.or_none]

namespace Store

variable {store later : Store} {entity : Entity} {checks : Option Bool}

/-- An entity that is registered is put under its identifier, behind which its references may have
brought news. -/
theorem register_ok (h : store.register entity checks = (.ok (), later)) :
    ∃ id found, entity.id = some id ∧ store.IsNews found ∧
      later = { store with entries := put id.text entity (store.entries ++ found) } := by
  unfold register at h
  cases hid : entity.id with
  | none => simp [hid] at h
  | some id =>
    simp only [hid] at h
    obtain ⟨found, hstore, hnews, -⟩ :=
      takeInAll_eq store (brokenReferences store.lookup? entity).asked
    split at h
    · split at h
      · rw [hstore] at h
        exact ⟨id, found, rfl, hnews, by simpa [followedBy] using h.symm⟩
      · simp at h
    · exact ⟨id, [], rfl, isNews_nil store, by simpa using h.symm⟩

/-- An entity that is not registered may only have brought news of what it refers to, and has not
where references are not checked. -/
theorem register_error {fault : RegistrationFault}
    (h : store.register entity checks = (.error fault, later)) :
    ∃ found, later = store.followedBy found ∧ store.IsNews found ∧
      (∀ entry ∈ found, entry.1 ∈ entity.outwardIds) ∧
      (checks.getD store.checksReferences = false → found = []) := by
  unfold register at h
  cases hid : entity.id with
  | none =>
    simp only [hid, Prod.mk.injEq] at h
    exact ⟨[], by simp [h.2], isNews_nil store, by simp, fun _ => rfl⟩
  | some id =>
    simp only [hid] at h
    obtain ⟨found, hstore, hnews, hasked⟩ :=
      takeInAll_eq store (brokenReferences store.lookup? entity).asked
    split at h
    next hchecks =>
      split at h
      · simp at h
      · refine ⟨found, ?_, hnews, hasked, ?_⟩
        · rw [← hstore]
          exact (Prod.mk.inj h).2.symm
        · intro hnot
          rw [hchecks] at hnot
          contradiction
    · simp at h

end Store

/-! ## Adding -/

/-- Whether a document was turned away only by its validation. -/
def AdditionFault.isInvalid : AdditionFault → Bool
  | invalid _ => true
  | notObject | anonymous | constraints _ | registration _ => false

namespace Registry

variable {registry after : Registry} {content : Json} {fault : AdditionFault}

/-- The entity that a document is added as. -/
def entityOf (registry : Registry) (content : Json) : Entity :=
  Entity.ofContent registry.names none content

/-- The registry with another store. -/
def withStore (registry : Registry) (store : Store) : Registry :=
  { registry with store := store }

/-- An outcome with its value and its fault changed. -/
theorem mapError_map {ε δ α β : Type} (change : α → β) (wrap : ε → δ) (outcome : Except ε α) :
    (outcome.map change).mapError wrap =
      match outcome with
      | .ok value => .ok (change value)
      | .error cause => .error (wrap cause) := by
  cases outcome with
  | ok value => rfl
  | error cause => rfl

/-- Registering an entity does to the registry what it does to its store. -/
theorem registerEntity_eq {entity : Entity} {id : String} {later : Store}
    {outcome : Except RegistrationFault Unit}
    (h : registry.store.register entity none = (outcome, later)) :
    registry.registerEntity entity id =
      ((outcome.map fun () => id).mapError .registration, registry.withStore later) := by
  simp only [registerEntity, h, withStore]

/-- A document is turned away by what it says, or registered as its entity under its identifier. -/
theorem addUnvalidated_cases {outcome : Except AdditionFault String}
    (h : registry.addUnvalidated content = (outcome, after)) :
    (∃ fault, outcome = .error fault ∧ fault.isInvalid = false ∧ after = registry) ∨
      ∃ identifier registered later, (registry.entityOf content).id = some identifier ∧
        registry.store.register (registry.entityOf content) none = (registered, later) ∧
        outcome = (registered.map fun () => identifier.text).mapError .registration ∧
        after = registry.withStore later := by
  unfold addUnvalidated at h
  rw [← entityOf] at h
  split at h
  · cases hid : (registry.entityOf content).id with
    | none =>
      simp only [hid, Prod.mk.injEq] at h
      exact .inl ⟨.anonymous, h.1.symm, rfl, h.2.symm⟩
    | some identifier =>
      simp only [hid] at h
      split at h
      · rcases hregister : registry.store.register (registry.entityOf content) none with
          ⟨registered, later⟩
        rw [registerEntity_eq hregister, Prod.mk.injEq] at h
        exact .inr ⟨identifier, registered, later, rfl, rfl, h.1.symm, h.2.symm⟩
      · rw [Prod.mk.injEq] at h
        exact .inl ⟨.constraints _, h.1.symm, rfl, h.2.symm⟩
  · rw [Prod.mk.injEq] at h
    exact .inl ⟨.notObject, h.1.symm, rfl, h.2.symm⟩

/-- A document that is added is registered under its identifier. -/
theorem addUnvalidated_ok {id : String} (h : registry.addUnvalidated content = (.ok id, after)) :
    ∃ identifier found, (registry.entityOf content).id = some identifier ∧ identifier.text = id ∧
      registry.store.IsNews found ∧
      after = registry.withStore { registry.store with
        entries := put id (registry.entityOf content) (registry.store.entries ++ found) } := by
  rcases addUnvalidated_cases h with
    ⟨fault, hfault, -⟩ | ⟨identifier, registered, later, hid, hregister, houtcome, rfl⟩
  · cases hfault
  · cases registered with
    | error cause => cases houtcome
    | ok _ =>
      obtain rfl : id = identifier.text := Except.ok.inj houtcome
      obtain ⟨own, found, hown, hnews, rfl⟩ := Store.register_ok hregister
      obtain rfl : own = identifier := Option.some.inj (hown.symm.trans hid)
      exact ⟨own, found, hid, rfl, hnews, rfl⟩

/-- A document that is turned away before it is registered may only have brought news of what it
refers to, and has not where references are not checked. -/
theorem addUnvalidated_error (h : registry.addUnvalidated content = (.error fault, after)) :
    fault.isInvalid = false ∧
    ∃ found, after = registry.withStore (registry.store.followedBy found) ∧
      registry.store.IsNews found ∧
      (∀ entry ∈ found, entry.1 ∈ (registry.entityOf content).outwardIds) ∧
      (registry.store.checksReferences = false → found = []) := by
  rcases addUnvalidated_cases h with
    ⟨_, ⟨⟩, hvalid, rfl⟩ | ⟨identifier, registered, later, hid, hregister, houtcome, rfl⟩
  · exact ⟨hvalid, [], by simp [withStore], Store.isNews_nil _, by simp, fun _ => rfl⟩
  · cases registered with
    | ok _ => cases houtcome
    | error cause =>
      obtain rfl : fault = .registration cause := Except.error.inj houtcome
      obtain ⟨found, rfl, hnews, hasked, hunchecked⟩ := Store.register_error hregister
      exact ⟨rfl, found, rfl, hnews, hasked, by simpa using hunchecked⟩

/-- Validating a document that was just added changes the store by news only. -/
theorem validateAdded_eq {id : String} {result : Except Breakdown (Except AdditionFault String)}
    (h : registry.validateAdded content id = (result, after)) :
    ∃ found, after = registry.withStore (registry.store.followedBy found) ∧
      registry.store.IsNews found := by
  unfold validateAdded at h
  split at h
  · refine ⟨[], ?_, Store.isNews_nil _⟩
    simpa [withStore] using (Prod.mk.inj h).2.symm
  · obtain ⟨found, hstore, hnews, -⟩ :=
      Store.takeInAll_eq registry.store (validateInstance registry.store id).asked
    refine ⟨found, ?_, hnews⟩
    rw [← hstore]
    exact (Prod.mk.inj h).2.symm

/-- Validating a document that was just added finds it invalid or nothing wrong with it. -/
theorem validateAdded_error {id : String}
    (h : registry.validateAdded content id = (.ok (.error fault), after)) :
    fault.isInvalid = true ∧ (registry.entityOf content).isSchema = false := by
  unfold validateAdded at h
  split at h
  · simp at h
  next hschema =>
    simp only [keep, Prod.mk.injEq] at h
    cases hvalue : (validateInstance registry.store id).value with
    | error cause => simp [hvalue, Except.map] at h
    | ok validity =>
      rw [hvalue] at h
      have hverdict : (validity.map fun () => id).mapError .invalid = .error fault :=
        Except.ok.inj h.1
      rw [mapError_map] at hverdict
      cases validity with
      | ok _ => simp at hverdict
      | error cause =>
        obtain rfl := Except.error.inj hverdict
        exact ⟨rfl, by simpa [entityOf] using hschema⟩

/-- What a registry is after an addition that failed.

- A document that was turned away before it was registered leaves what stands under its identifier
  alone.  All that was held is held as before, and behind it stand at most entities that the reader
  knows under identifiers that the document refers to; there are none of these without a reader or
  without a check of references.
- A document that was found invalid is an instance that stays registered, as it is after an addition
  without validation: it stands under its identifier, in the place of an earlier entity or else at
  the end.  Its references and its validation may only have brought news from the reader. -/
theorem addEntity_failure (registry : Registry) (content : Json) (validates : Bool)
    (fault : AdditionFault) (after : Registry)
    (h : registry.addEntity content validates = (.ok (.error fault), after)) :
    (fault.isInvalid = false →
      (∃ found, after = registry.withStore (registry.store.followedBy found) ∧
        registry.store.IsNews found ∧
        ∀ entry ∈ found, entry.1 ∈ (registry.entityOf content).outwardIds) ∧
      (∀ id, (registry.entityOf content).id = some id →
        find? id.text after.store.entries = find? id.text registry.store.entries) ∧
      (registry.store.reader = none ∨ registry.store.checksReferences = false →
        after = registry)) ∧
    (fault.isInvalid = true →
      validates = true ∧ (registry.entityOf content).isSchema = false ∧
      ∃ id referred consulted registered, (registry.entityOf content).id = some id ∧
        registry.store.IsNews referred ∧
        registered = registry.withStore { registry.store with
          entries := put id.text (registry.entityOf content)
            (registry.store.entries ++ referred) } ∧
        registry.addEntity content false = (.ok (.ok id.text), registered) ∧
        registered.store.IsNews consulted ∧
        after = registered.withStore (registered.store.followedBy consulted)) := by
  rcases hadded : registry.addUnvalidated content with ⟨outcome, registered⟩
  simp only [addEntity, hadded] at h
  cases outcome with
  | error cause =>
    obtain ⟨rfl, rfl⟩ : cause = fault ∧ registered = after := by simpa using h
    obtain ⟨hvalid, found, rfl, hnews, hasked, hunchecked⟩ := addUnvalidated_error hadded
    refine ⟨fun _ => ⟨⟨found, rfl, hnews, hasked⟩, ?_, ?_⟩, ?_⟩
    · intro id hid
      exact Entity.find?_append_outward hid registry.store.entries hasked
    · intro hnone
      have hempty : found = [] := hnone.elim hnews.eq_nil hunchecked
      simp [hempty, withStore]
    · intro hinvalid
      rw [hvalid] at hinvalid
      contradiction
  | ok id =>
    simp only at h
    split at h
    next hvalidates =>
      obtain ⟨identifier, referred, hid, rfl, hnews, hregistered⟩ := addUnvalidated_ok hadded
      obtain ⟨hinvalid, hschema⟩ := validateAdded_error h
      obtain ⟨consulted, hafter, hmore⟩ := validateAdded_eq h
      refine ⟨?_, fun _ => ⟨hvalidates, ?_, ?_⟩⟩
      · intro hvalid
        rw [hvalid] at hinvalid
        contradiction
      · simpa [hregistered, entityOf, withStore] using hschema
      · exact ⟨identifier, referred, consulted, registered, hid, hnews, hregistered,
          by simp [addEntity, hadded], hmore, hafter⟩
    · simp at h

end Registry

/-- A registry that holds an entity under the identifier of a gift. -/
def heldRegistry : Registry where
  store :=
    { entries := [("gts.acme.shop.cart.item.v1~acme.shop.cart.gift.v1", { content := .null })] }

/-- A gift, whose schema is not registered. -/
def orphanGift : Json :=
  .obj [("id", .str "gts.acme.shop.cart.item.v1~acme.shop.cart.gift.v1")]

/-- What is wrong with the gift. -/
def orphanFault : AdditionFault :=
  .invalid (.registry (.schemaNotFound "gts.acme.shop.cart.item.v1~"))

/-- The gift is found invalid, and it is what the registry holds afterwards under its identifier. -/
theorem addEntity_failure_orphanGift :
    heldRegistry.addEntity orphanGift true =
      (.ok (.error orphanFault), (heldRegistry.addEntity orphanGift true).2) ∧
    ∃ id consulted registered,
      heldRegistry.addEntity orphanGift false = (.ok (.ok id), registered) ∧
      registered.store.IsNews consulted ∧
      (heldRegistry.addEntity orphanGift true).2 =
        registered.withStore (registered.store.followedBy consulted) := by
  have hfailed : heldRegistry.addEntity orphanGift true =
      (.ok (.error orphanFault), (heldRegistry.addEntity orphanGift true).2) := rfl
  obtain ⟨-, -, id, -, consulted, registered, -, -, -, hadded, hnews, hafter⟩ :=
    (heldRegistry.addEntity_failure orphanGift true orphanFault _ hfailed).2 rfl
  exact ⟨hfailed, id.text, consulted, registered, hadded, hnews, hafter⟩

/-- An addition that fails can put a document in the place of an entity that was held. -/
theorem addEntity_replaces_by_invalid :
    (heldRegistry.addEntity orphanGift true).1 = .ok (.error orphanFault) ∧
    heldRegistry.store.entries.map (fun entry => (entry.1, entry.2.content)) =
      [("gts.acme.shop.cart.item.v1~acme.shop.cart.gift.v1", .null)] ∧
    (heldRegistry.addEntity orphanGift true).2.store.entries.map
        (fun entry => (entry.1, entry.2.content)) =
      [("gts.acme.shop.cart.item.v1~acme.shop.cart.gift.v1", orphanGift)] :=
  ⟨rfl, rfl, rfl⟩

end TypeRegistry
