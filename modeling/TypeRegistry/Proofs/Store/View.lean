import TypeRegistry.Proofs.Graph.Depth
import TypeRegistry.Proofs.Relaxation.Document
import TypeRegistry.Proofs.Store.Layers
import TypeRegistry.Registry.Basic

/-!
# What can be seen of a store

Two stores may hold different entities of those that they know, because different ones were looked
up.  If they have the same reader and answer alike, nothing that is done with what they answer tells
them apart: not the check of an instance or a schema, not a comparison, a cast, a selection or a
graph, and not what is registered later.

Main results:

- Definition `Store.SeenAlike`: stores that cannot be told apart by looking entities up.
- Theorem `SeenAlike.perform`: they cannot be told apart after a call either.
- Theorem `SeenAlike.known_perm`: they know the same.
- Theorem `SeenAlike.validate`: they validate alike.
-/

namespace TypeRegistry

open Dictionary

namespace Store

/-- Two stores that answer alike, and will after they are read anew. -/
structure SeenAlike (first second : Store) : Prop where
  lookup : first.lookup? = second.lookup?
  reader : first.reader = second.reader
  checks : first.checksReferences = second.checksReferences
  nodupFirst : (keys first.entries).Nodup
  nodupSecond : (keys second.entries).Nodup

namespace SeenAlike

variable {first second third : Store}

theorem refl (h : (keys first.entries).Nodup) : SeenAlike first first :=
  ⟨rfl, rfl, rfl, h, h⟩

theorem symm (h : SeenAlike first second) : SeenAlike second first :=
  ⟨h.lookup.symm, h.reader.symm, h.checks.symm, h.nodupSecond, h.nodupFirst⟩

theorem trans (h : SeenAlike first second) (h' : SeenAlike second third) : SeenAlike first third :=
  ⟨h.lookup.trans h'.lookup, h.reader.trans h'.reader, h.checks.trans h'.checks, h.nodupFirst,
    h'.nodupSecond⟩

/-! ## What calls do to stores that are seen alike -/

/-- Looking up cannot be seen. -/
theorem takeIn (h : (keys first.entries).Nodup) (id : String) :
    SeenAlike first (first.takeIn id) where
  lookup := funext fun other => (lookup?_takeIn first id other).symm
  reader := by
    obtain ⟨found, hstore, -, -⟩ := takeIn_eq first id
    rw [hstore, followedBy_reader]
  checks := (perform_checks first (.get id)).symm
  nodupFirst := h
  nodupSecond := nodup_keys_perform h (.get id)

/-- Nor can looking up several identifiers. -/
theorem takeInAll (h : (keys first.entries).Nodup) (ids : List String) :
    SeenAlike first (first.takeInAll ids) := by
  induction ids generalizing first with
  | nil => exact refl h
  | cons id rest ih =>
    have hfirst := takeIn h id
    exact hfirst.trans (ih hfirst.nodupSecond)

/-- Whether an entity is registered depends on what can be seen. -/
theorem register_fst (h : SeenAlike first second) (entity : Entity) (checks : Option Bool) :
    (first.register entity checks).1 = (second.register entity checks).1 := by
  simp only [register, h.lookup, h.checks]
  split
  · rfl
  · split
    · split
      · rfl
      · rfl
    · rfl

/-- What a call changes depends on what can be seen. -/
theorem event? (h : SeenAlike first second) (call : Call) :
    first.event? call = second.event? call := by
  cases call with
  | register entity checks => rw [Store.event?, Store.event?, h.register_fst]
  | registerSchema typeId schema =>
    have houtcome : (first.registerSchema typeId schema).1 =
        (second.registerSchema typeId schema).1 := by
      rw [Store.registerSchema, Store.registerSchema]
      split
      · cases Identifier.parse typeId <;> rfl
      · rfl
    rw [Store.event?, Store.event?, houtcome]
  | get id => rfl
  | reload => rfl

/-- The same change leaves stores that are seen alike. -/
theorem transition (h : SeenAlike first second) {event : Option Event}
    {afterFirst afterSecond : Store} (hfirst : Transition first event afterFirst)
    (hsecond : Transition second event afterSecond) : SeenAlike afterFirst afterSecond := by
  have hreload : first.reload = second.reload := by
    rw [reload_eq, reload_eq, h.reader, h.checks]
  constructor
  case lookup =>
    funext id
    rw [hfirst.lookup?, hsecond.lookup?]
    unfold answerAfter
    rw [h.lookup, hreload]
  case reader =>
    cases hfirst with
    | looked hnews => cases hsecond with | looked hnews' => exact h.reader
    | registered hid hnews => cases hsecond with | registered hid' hnews' => exact h.reader
    | dropped => cases hsecond with | dropped => rw [hreload]
  case checks => rw [hfirst.checks, hsecond.checks, h.checks]
  case nodupFirst => exact hfirst.nodup_keys h.nodupFirst
  case nodupSecond => exact hsecond.nodup_keys h.nodupSecond

/-- A call leaves stores that are seen alike. -/
theorem perform (h : SeenAlike first second) (call : Call) :
    SeenAlike (first.perform call) (second.perform call) := by
  have hsecond := second.perform_transition call
  rw [← h.event? call] at hsecond
  exact h.transition (first.perform_transition call) hsecond

/-- So do several calls. -/
theorem run (h : SeenAlike first second) (calls : List Call) :
    SeenAlike (first.run calls) (second.run calls) := by
  induction calls generalizing first second with
  | nil => exact h
  | cons call rest ih => exact ih (h.perform call)

end SeenAlike

/-! ## What stores know -/

/-- What a reader can look up is found in what it has to offer. -/
theorem find?_readable (reader : Option Reader) (id : String) :
    find? id (readable reader) = reader.bind (·.find? id) := by
  rcases reader with _ | (files | list)
  · rfl
  · rfl
  · have hlist : find? id (list.entities.foldl hold []) = lastWith id list.entities := by
      rw [find?_foldl_hold]
      exact Option.or_none
    rw [readable, hlist, Option.bind_some]
    exact (list.find?_eq id).symm

/-- What a store answers is found in what it knows. -/
theorem find?_known (store : Store) (id : String) : find? id store.known = store.lookup? id := by
  rw [known, find?_append, find?_filter_names (fun name => !has name store.entries), find?_readable,
    lookup?_eq]
  cases hheld : find? id store.entries with
  | some entity => rfl
  | none => simp [has, hheld]

/-- No identifier occurs twice in what a reader has to offer. -/
theorem nodup_keys_readable (reader : Option Reader) : (keys (readable reader)).Nodup := by
  rcases reader with _ | (files | list)
  · exact List.nodup_nil
  · exact List.nodup_nil
  · exact nodup_keys_foldl_hold List.nodup_nil

/-- No identifier occurs twice in what a store knows. -/
theorem nodup_keys_known {store : Store} (h : (keys store.entries).Nodup) :
    (keys store.known).Nodup := by
  have hread := (nodup_keys_readable store.reader).sublist
    ((List.filter_sublist (p := fun entry => !has entry.1 store.entries)).map Prod.fst)
  refine nodup_keys_append h hread ?_
  intro entry hentry
  have hnot := (List.mem_filter.1 hentry).2
  simpa using hnot

namespace SeenAlike

variable {first second : Store}

/-- Stores that are seen alike know the same. -/
theorem known_perm (h : SeenAlike first second) : first.known.Perm second.known := by
  refine perm_of_find?_eq (nodup_keys_known h.nodupFirst) (nodup_keys_known h.nodupSecond) ?_
  intro id
  rw [find?_known, find?_known, h.lookup]

/-- References can be nested as deep in the one store as in the other. -/
theorem referenceDepth (h : SeenAlike first second) (schema subject : Json) :
    referenceDepth first schema subject = referenceDepth second schema subject := by
  have hcontents := h.known_perm.map fun entry => entry.2.content
  have hall := (hcontents.append_left Standard.documents).cons schema
  have hcount := (hall.map (Json.countNamed leadingKeywords)).sum_nat
  rw [TypeRegistry.referenceDepth, TypeRegistry.referenceDepth, Json.countNamedInItems_eq,
    Json.countNamedInItems_eq, hcount]

/-! ## What is done with what stores answer -/

/-- Stores that are seen alike validate alike. -/
theorem validate (h : SeenAlike first second) : validate first = validate second := by
  funext schema subject
  rw [TypeRegistry.validate, TypeRegistry.validate, schemaTrace, schemaTrace, h.lookup]
  simp only [h.referenceDepth]

theorem validateInstance (h : SeenAlike first second) :
    validateInstance first = validateInstance second := by
  funext id
  simp only [TypeRegistry.validateInstance, validateAgainst, h.lookup, h.validate]

theorem validateSchema (h : SeenAlike first second) :
    validateSchema first = validateSchema second := by
  funext id
  simp only [TypeRegistry.validateSchema, h.lookup]

theorem castInstance (h : SeenAlike first second) : castInstance first = castInstance second := by
  funext instanceId targetId
  simp only [TypeRegistry.castInstance, castBetween, castReport, h.lookup, h.validate]

theorem ofSelector (h : SeenAlike first second) :
    Selection.ofSelector first = Selection.ofSelector second := by
  funext selector
  simp only [Selection.ofSelector, h.lookup]

theorem relationGraph (h : SeenAlike first second) : relationGraph first = relationGraph second :=
  funext fun id => relationGraph_congr h.lookup id

end SeenAlike

end Store

end TypeRegistry
