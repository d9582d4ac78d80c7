import TypeRegistry.Proofs.Registry.Addition

/-!
# Runs of a store

Whatever is asked of a store is a call: an entity or a raw schema is registered, an identifier is
looked up, or everything is dropped and read anew.  A call does one of three things to the store,
and what holds after any run of calls follows from these three alone.

Main results:

- Definitions `Store.Call`, `Store.run`: calls, and the store after several of them.
- Definition `Store.event?`: what a call changes in what is registered.
- Theorem `perform_transition`: what a store is after a call.
- Theorem `forall_entries_run`: what holds of all entities that may come in holds of all entities
  that a store holds after a run.
- Theorem `forall_entries_run_ofReader`: the same for the store of a reader.
- Theorem `of_lookup?_run_ofReader`: the same for all that is found in the store of a reader.
-/

namespace TypeRegistry

open Dictionary

/-! ## What readers hand out -/

namespace Reader

/-- A reader that has handed out everything is rewound to its start. -/
@[simp]
theorem rewound_exhausted (reader : Reader) : reader.exhausted.rewound = reader.rewound := by
  cases reader <;> rfl

@[simp]
theorem rewound_rewound (reader : Reader) : reader.rewound.rewound = reader.rewound := by
  cases reader <;> rfl

/-- A reader hands an entity out, from where it is or from its start. -/
def HandsOut (reader : Reader) (entity : Entity) : Prop :=
  entity ∈ reader.remaining ∨ entity ∈ reader.rewound.remaining

/-- What a reader can look up it also hands out from its start, and it has the identifier. -/
theorem mem_remaining_of_find? {reader : Reader} {id : String} {entity : Entity}
    (h : reader.find? id = some entity) :
    entity ∈ reader.rewound.remaining ∧ entity.idText = some id := by
  cases reader with
  | files reader => cases h
  | list reader =>
    have hid := List.find?_some h
    have hmem := List.mem_of_find?_eq_some h
    exact ⟨List.mem_reverse.1 hmem, by simpa using hid⟩

end Reader

namespace Store

variable {store : Store}

/-! ## Holding entities -/

/-- An entity is held under its identifier. -/
theorem hold_of_idText {entity : Entity} {id : String} (h : entity.idText = some id)
    (entries : Dictionary Entity) : hold entries entity = put id entity entries := by
  obtain ⟨identifier, hid, rfl⟩ := Option.map_eq_some_iff.1 h
  rw [hold, hid]

/-- An entity without an identifier is not held. -/
theorem hold_of_anonymous {entity : Entity} (h : entity.idText = none)
    (entries : Dictionary Entity) : hold entries entity = entries := by
  have hid : entity.id = none := Option.map_eq_none_iff.1 h
  rw [hold, hid]

/-- What is held after several entities were was held before, or is one of them under its own
identifier. -/
theorem mem_foldl_hold {entry : String × Entity} {entities : List Entity}
    {entries : Dictionary Entity} (h : entry ∈ entities.foldl hold entries) :
    entry ∈ entries ∨ entry.2 ∈ entities ∧ entry.2.idText = some entry.1 := by
  induction entities generalizing entries with
  | nil => exact .inl h
  | cons entity rest ih =>
    rcases ih h with hmem | ⟨hmem, hid⟩
    · cases hid : entity.idText with
      | none =>
        rw [hold_of_anonymous hid] at hmem
        exact .inl hmem
      | some id =>
        rw [hold_of_idText hid] at hmem
        rcases eq_or_mem_of_mem_put hmem with rfl | hmem
        · exact .inr ⟨List.mem_cons_self, hid⟩
        · exact .inl hmem
    · exact .inr ⟨List.mem_cons_of_mem _ hmem, hid⟩

/-- Holding entities makes no identifier occur twice. -/
theorem nodup_keys_foldl_hold {entities : List Entity} {entries : Dictionary Entity}
    (h : (keys entries).Nodup) : (keys (entities.foldl hold entries)).Nodup := by
  induction entities generalizing entries with
  | nil => exact h
  | cons entity rest ih =>
    apply ih
    cases hid : entity.idText with
    | none => rwa [hold_of_anonymous hid]
    | some id =>
      rw [hold_of_idText hid]
      exact nodup_keys_put h

/-- The store of a reader holds what the reader still hands out. -/
theorem ofReader_entries (reader : Option Reader) (checks : Bool) :
    (ofReader reader checks).entries =
      ((reader.map (·.remaining)).getD []).foldl hold [] := by
  cases reader <;> rfl

@[simp]
theorem ofReader_reader (reader : Option Reader) (checks : Bool) :
    (ofReader reader checks).reader = reader.map (·.exhausted) := by
  cases reader <;> rfl

@[simp]
theorem ofReader_checks (reader : Option Reader) (checks : Bool) :
    (ofReader reader checks).checksReferences = checks := by
  cases reader <;> rfl

/-- A store that is read anew is that of its reader at the start. -/
theorem reload_eq (store : Store) :
    store.reload = ofReader (store.reader.map Reader.rewound) store.checksReferences :=
  rfl

/-- A store that is read anew holds what its reader hands out from its start. -/
theorem reload_entries (store : Store) :
    store.reload.entries =
      ((store.reader.map fun reader => reader.rewound.remaining).getD []).foldl hold [] := by
  rw [reload_eq, ofReader_entries, Option.map_map]
  rfl

/-- A store keeps its reader, wherever in its list or its files the reader has got to. -/
theorem reload_reader (store : Store) :
    store.reload.reader.map Reader.rewound = store.reader.map Reader.rewound := by
  rw [reload_eq, ofReader_reader]
  cases store.reader <;> simp

/-- A raw schema is put under its type identifier, or refused. -/
theorem registerSchema_cases (store : Store) (typeId : String) (schema : Json) :
    (∃ id, Identifier.parse typeId = .ok id ∧ store.registerSchema typeId schema =
      (.ok (), { store with entries := put id.text (schemaEntity id schema) store.entries })) ∨
    ∃ fault, store.registerSchema typeId schema = (.error fault, store) := by
  rw [registerSchema]
  split
  · cases Identifier.parse typeId with
    | ok id => exact .inl ⟨id, rfl, rfl⟩
    | error fault => exact .inr ⟨_, rfl⟩
  · exact .inr ⟨_, rfl⟩

/-! ## Calls -/

/-- What can be asked of a store. -/
inductive Call where
  /-- Register an entity, perhaps overriding the rule on checking references. -/
  | register (entity : Entity) (checks : Option Bool)
  /-- Register a raw schema under a type identifier. -/
  | registerSchema (typeId : String) (schema : Json)
  /-- Look an identifier up. -/
  | get (id : String)
  /-- Drop everything and read it anew. -/
  | reload

/-- The store after a call. -/
def perform (store : Store) : Call → Store
  | .register entity checks => (store.register entity checks).2
  | .registerSchema typeId schema => (store.registerSchema typeId schema).2
  | .get id => store.takeIn id
  | .reload => store.reload

/-- The store after several calls, one after the other. -/
def run (store : Store) (calls : List Call) : Store :=
  calls.foldl perform store

@[simp]
theorem run_nil (store : Store) : store.run [] = store :=
  rfl

@[simp]
theorem run_cons (store : Store) (call : Call) (rest : List Call) :
    store.run (call :: rest) = (store.perform call).run rest :=
  rfl

@[simp]
theorem run_append (store : Store) (first second : List Call) :
    store.run (first ++ second) = (store.run first).run second :=
  List.foldl_append

/-- Looking several identifiers up is a run. -/
theorem run_get (store : Store) (ids : List String) :
    store.run (ids.map .get) = store.takeInAll ids :=
  List.foldl_map

/-! ## What a call does -/

/-- A change in what is registered. -/
inductive Event where
  /-- An entity was put under an identifier. -/
  | registered (id : String) (entity : Entity)
  /-- Everything was dropped. -/
  | dropped

/-- What a call changes in what is registered.  A call that is refused and one that only looks up
change nothing. -/
def event? (store : Store) : Call → Option Event
  | .register entity checks =>
    if (store.register entity checks).1.isOk then entity.idText.map (.registered · entity) else none
  | .registerSchema typeId schema =>
    match (store.registerSchema typeId schema).1, Identifier.parse typeId with
    | .ok (), .ok id => some (.registered id.text (schemaEntity id schema))
    | _, _ => none
  | .get _ => none
  | .reload => some .dropped

/-- What a store may be after a change in what is registered, or none.  Besides, it may have got
news from its reader. -/
inductive Transition (store : Store) : Option Event → Store → Prop
  | looked {found : Dictionary Entity} (hnews : store.IsNews found) :
      Transition store none (store.followedBy found)
  | registered {id : String} {entity : Entity} {found : Dictionary Entity}
      (hid : entity.idText = some id) (hnews : store.IsNews found) :
      Transition store (some (.registered id entity))
        { store with entries := put id entity (store.entries ++ found) }
  | dropped : Transition store (some .dropped) store.reload

/-- Nothing happens to a store without a change and without news. -/
theorem Transition.unchanged (store : Store) : Transition store none store := by
  have h := Transition.looked (isNews_nil store)
  rwa [followedBy_nil] at h

/-- What a store is after a call. -/
theorem perform_transition (store : Store) (call : Call) :
    Transition store (store.event? call) (store.perform call) := by
  cases call with
  | get id =>
    obtain ⟨found, hstore, hnews, -⟩ := takeIn_eq store id
    rw [perform, event?, hstore]
    exact .looked hnews
  | reload => exact .dropped
  | register entity checks =>
    rw [perform, event?]
    rcases hregister : store.register entity checks with ⟨fault | ⟨⟩, later⟩
    · obtain ⟨found, rfl, hnews, -⟩ := register_error hregister
      exact .looked hnews
    · obtain ⟨id, found, hid, hnews, rfl⟩ := register_ok hregister
      have htext : entity.idText = some id.text := by rw [Entity.idText, hid, Option.map_some]
      rw [htext]
      exact .registered htext hnews
  | registerSchema typeId schema =>
    rw [perform, event?]
    rcases store.registerSchema_cases typeId schema with ⟨id, hparse, heq⟩ | ⟨fault, heq⟩
    · have hid : (schemaEntity id schema).idText = some id.text := rfl
      have h := Transition.registered hid (isNews_nil store)
      rw [List.append_nil] at h
      rw [heq, hparse]
      exact h
    · rw [heq]
      exact .unchanged store

/-- The entity under an identifier is the one held, else the one the reader has. -/
theorem lookup?_eq (store : Store) (id : String) :
    store.lookup? id = (find? id store.entries).or (store.reader.bind (·.find? id)) := by
  rw [lookup?]
  cases find? id store.entries <;> rfl

/-- News change no answer. -/
theorem IsNews.lookup?_followedBy {found : Dictionary Entity} (h : store.IsNews found)
    (id : String) : (store.followedBy found).lookup? id = store.lookup? id := by
  rw [lookup?_eq, lookup?_eq, followedBy, find?_append, Option.or_assoc]
  congr 1
  cases hfound : find? id found with
  | none => rfl
  | some entity =>
    have hknown := h.known _ (mem_of_find? hfound)
    simpa using hknown.symm

/-- An entity that was put under an identifier is found there, and nothing else is found under the
other identifiers. -/
theorem lookup?_put_of_isNews {found : Dictionary Entity} (h : store.IsNews found) (id : String)
    (entity : Entity) (other : String) :
    Store.lookup? { store with entries := put id entity (store.entries ++ found) } other =
      if id = other then some entity else store.lookup? other := by
  have hnews := h.lookup?_followedBy other
  rw [lookup?_eq, followedBy] at hnews
  rw [lookup?_eq]
  split
  next heq => rw [← heq, find?_put_self, Option.some_or]
  next hne => rw [find?_put_of_ne hne, hnews]

/-! ## What a change does -/

/-- What is found under an identifier after a change in what is registered, or none. -/
def answerAfter (store : Store) (id : String) : Option Event → Option Entity
  | none => store.lookup? id
  | some (.registered own entity) => if own = id then some entity else store.lookup? id
  | some .dropped => store.reload.lookup? id

namespace Transition

variable {event : Option Event} {later : Store}

/-- A change keeps the reader, wherever it has got to. -/
theorem reader (h : Transition store event later) :
    later.reader.map Reader.rewound = store.reader.map Reader.rewound := by
  cases h with
  | looked hnews => rfl
  | registered hid hnews => rfl
  | dropped => exact store.reload_reader

/-- A change keeps the rule on checking references. -/
theorem checks (h : Transition store event later) :
    later.checksReferences = store.checksReferences := by
  cases h with
  | looked hnews => rfl
  | registered hid hnews => rfl
  | dropped => rw [reload_eq, ofReader_checks]

/-- A change makes no identifier occur twice. -/
theorem nodup_keys (h : Transition store event later) (hnodup : (keys store.entries).Nodup) :
    (keys later.entries).Nodup := by
  cases h with
  | looked hnews => exact hnews.nodup_followedBy hnodup
  | registered hid hnews => exact nodup_keys_put (hnews.nodup_followedBy hnodup)
  | dropped =>
    rw [reload_entries]
    exact nodup_keys_foldl_hold List.nodup_nil

/-- A store answers after a change as it is said to. -/
theorem lookup? (h : Transition store event later) (id : String) :
    later.lookup? id = store.answerAfter id event := by
  cases h with
  | looked hnews => exact hnews.lookup?_followedBy id
  | registered hid hnews => exact lookup?_put_of_isNews hnews _ _ id
  | dropped => rfl

end Transition

/-- A call brings an entity if that is what it registers unless it is refused. -/
inductive Call.Brings : Call → Entity → Prop
  | entity (entity : Entity) (checks : Option Bool) : Brings (.register entity checks) entity
  | schema {typeId : String} {id : Identifier} (hid : Identifier.parse typeId = .ok id)
      (schema : Json) : Brings (.registerSchema typeId schema) (schemaEntity id schema)

/-- What a call registers is what it brings. -/
theorem brings_of_event? {call : Call} {id : String} {entity : Entity}
    (h : store.event? call = some (.registered id entity)) : call.Brings entity := by
  cases call with
  | get id => cases h
  | reload => cases h
  | register brought checks =>
    rw [event?] at h
    split at h
    · obtain ⟨text, -, heq⟩ := Option.map_eq_some_iff.1 h
      obtain ⟨-, rfl⟩ := Event.registered.inj heq
      exact .entity brought checks
    · cases h
  | registerSchema typeId schema =>
    rw [event?] at h
    split at h
    next hparse =>
      obtain ⟨-, rfl⟩ := Event.registered.inj (Option.some.inj h)
      exact .schema hparse schema
    next => cases h

/-! ## What holds after every run -/

/-- Calls keep the reader, wherever it has got to. -/
theorem perform_reader (store : Store) (call : Call) :
    (store.perform call).reader.map Reader.rewound = store.reader.map Reader.rewound :=
  (store.perform_transition call).reader

theorem run_reader (store : Store) (calls : List Call) :
    (store.run calls).reader.map Reader.rewound = store.reader.map Reader.rewound := by
  induction calls generalizing store with
  | nil => rfl
  | cons call rest ih => rw [run_cons, ih, perform_reader]

/-- Calls keep the rule on checking references. -/
theorem perform_checks (store : Store) (call : Call) :
    (store.perform call).checksReferences = store.checksReferences :=
  (store.perform_transition call).checks

theorem run_checks (store : Store) (calls : List Call) :
    (store.run calls).checksReferences = store.checksReferences := by
  induction calls generalizing store with
  | nil => rfl
  | cons call rest ih => rw [run_cons, ih, perform_checks]

/-- Calls make no identifier occur twice. -/
theorem nodup_keys_perform (h : (keys store.entries).Nodup) (call : Call) :
    (keys (store.perform call).entries).Nodup :=
  (store.perform_transition call).nodup_keys h

/-- After a run no identifier occurs twice, as before. -/
theorem nodup_keys_run (h : (keys store.entries).Nodup) (calls : List Call) :
    (keys (store.run calls).entries).Nodup := by
  induction calls generalizing store with
  | nil => exact h
  | cons call rest ih => exact ih (nodup_keys_perform h call)

section Invariant

variable {P : String → Entity → Prop}
  (hread : ∀ reader ∈ store.reader, ∀ entity ∈ reader.rewound.remaining,
    ∀ id, entity.idText = some id → P id entity)
include hread

/-- What holds of all that the reader may bring holds of the news from it. -/
theorem IsNews.forall {found : Dictionary Entity} (hnews : store.IsNews found) :
    ∀ entry ∈ found, P entry.1 entry.2 := by
  intro entry hentry
  obtain ⟨reader, hreader, hfound⟩ := Option.bind_eq_some_iff.1 (hnews.known entry hentry)
  obtain ⟨hmem, hid⟩ := Reader.mem_remaining_of_find? hfound
  exact hread reader hreader entry.2 hmem entry.1 hid

/-- What holds of all that is held, read and registered holds of all that is held after a change. -/
theorem Transition.forall_entries {event : Option Event} {later : Store}
    (h : Transition store event later) (hheld : ∀ entry ∈ store.entries, P entry.1 entry.2)
    (hregistered : ∀ id entity, event = some (.registered id entity) →
      entity.idText = some id → P id entity) :
    ∀ entry ∈ later.entries, P entry.1 entry.2 := by
  intro entry hentry
  cases h with
  | looked hnews =>
    rcases List.mem_append.1 hentry with hmem | hmem
    · exact hheld entry hmem
    · exact hnews.forall hread entry hmem
  | registered hid hnews =>
    rcases eq_or_mem_of_mem_put hentry with rfl | hmem
    · exact hregistered _ _ rfl hid
    · rcases List.mem_append.1 hmem with hmem | hmem
      · exact hheld entry hmem
      · exact hnews.forall hread entry hmem
  | dropped =>
    rw [reload_entries] at hentry
    cases hreader : store.reader with
    | none => simp [hreader] at hentry
    | some reader =>
      rw [hreader] at hentry
      rcases mem_foldl_hold hentry with hmem | ⟨hmem, hid⟩
      · cases hmem
      · exact hread reader hreader entry.2 hmem entry.1 hid

/-- What holds of all that is held, read and brought holds of all that is held after a call. -/
theorem forall_entries_perform {call : Call} (hheld : ∀ entry ∈ store.entries, P entry.1 entry.2)
    (hbrought : ∀ entity, call.Brings entity → ∀ id, entity.idText = some id → P id entity) :
    ∀ entry ∈ (store.perform call).entries, P entry.1 entry.2 := by
  apply (store.perform_transition call).forall_entries hread hheld
  intro id entity hevent hid
  exact hbrought entity (brings_of_event? hevent) id hid

/-- What holds of all that is held at the start, that the reader hands out from its start and that
calls bring holds of all that a store holds after a run. -/
theorem forall_entries_run {calls : List Call}
    (hheld : ∀ entry ∈ store.entries, P entry.1 entry.2)
    (hbrought : ∀ call ∈ calls, ∀ entity, call.Brings entity →
      ∀ id, entity.idText = some id → P id entity) :
    ∀ entry ∈ (store.run calls).entries, P entry.1 entry.2 := by
  induction calls generalizing store with
  | nil => exact hheld
  | cons call rest ih =>
    refine ih ?_ ?_ fun other hother => hbrought other (List.mem_cons_of_mem _ hother)
    · intro reader hreader
      have hrewound := store.perform_reader call
      rw [Option.mem_def.1 hreader] at hrewound
      obtain ⟨before, hbefore, hsame⟩ := Option.map_eq_some_iff.1 hrewound.symm
      rw [← hsame]
      exact hread before hbefore
    · exact forall_entries_perform hread hheld (hbrought call List.mem_cons_self)

end Invariant

/-- What holds of all that a list reader has and that calls bring holds of all that the store of the
reader holds after a run, wherever in its list the reader had got to. -/
theorem forall_entries_run_ofReader {P : String → Entity → Prop} (reader : Option ListReader)
    (checks : Bool) {calls : List Call}
    (hread : ∀ list ∈ reader, ∀ entity ∈ list.entities,
      ∀ id, entity.idText = some id → P id entity)
    (hbrought : ∀ call ∈ calls, ∀ entity, call.Brings entity →
      ∀ id, entity.idText = some id → P id entity) :
    ∀ entry ∈ ((ofReader (reader.map .list) checks).run calls).entries, P entry.1 entry.2 := by
  apply forall_entries_run
  case hbrought => exact hbrought
  case hread =>
    cases reader with
    | none => simp
    | some list => simpa [Reader.rewound, Reader.remaining, ListReader.rewound,
        ListReader.remaining, Reader.exhausted, ListReader.exhausted] using hread
  case hheld =>
    intro entry hentry
    rw [ofReader_entries] at hentry
    cases reader with
    | none => cases hentry
    | some list =>
      rcases mem_foldl_hold hentry with hmem | ⟨hmem, hid⟩
      · cases hmem
      · exact hread list rfl entry.2 (List.mem_of_mem_drop hmem) entry.1 hid

/-- What holds of all that a reader hands out and that calls bring holds of all that is found in the
store of the reader after a run, whether the store holds it or only the reader has it. -/
theorem of_lookup?_run_ofReader {P : String → Entity → Prop} (reader : Option Reader)
    (checks : Bool) {calls : List Call}
    (hread : ∀ source ∈ reader, ∀ entity, source.HandsOut entity →
      ∀ id, entity.idText = some id → P id entity)
    (hbrought : ∀ call ∈ calls, ∀ entity, call.Brings entity →
      ∀ id, entity.idText = some id → P id entity)
    {id : String} {entity : Entity}
    (hfound : ((ofReader reader checks).run calls).lookup? id = some entity) : P id entity := by
  have hrewound : ∀ source ∈ (ofReader reader checks).reader,
      ∃ start ∈ reader, source.rewound = start.rewound := by
    intro source hsource
    rw [ofReader_reader] at hsource
    obtain ⟨start, hstart, rfl⟩ := Option.map_eq_some_iff.1 hsource
    exact ⟨start, hstart, start.rewound_exhausted⟩
  rw [lookup?_eq, Option.or_eq_some_iff] at hfound
  rcases hfound with hheld | ⟨-, hfound⟩
  · refine forall_entries_run ?_ ?_ hbrought _ (mem_of_find? hheld)
    · intro source hsource entity hentity id hid
      obtain ⟨start, hstart, hsame⟩ := hrewound source hsource
      exact hread start hstart entity (.inr (hsame ▸ hentity)) id hid
    · intro entry hentry
      rw [ofReader_entries] at hentry
      cases reader with
      | none => cases hentry
      | some start =>
        obtain hmem | ⟨hmem, hid⟩ := mem_foldl_hold hentry
        · cases hmem
        · exact hread start rfl entry.2 (.inl hmem) entry.1 hid
  · obtain ⟨source, hsource, hfound⟩ := Option.bind_eq_some_iff.1 hfound
    obtain ⟨hmem, hid⟩ := Reader.mem_remaining_of_find? hfound
    have hrun := run_reader (ofReader reader checks) calls
    rw [hsource] at hrun
    obtain ⟨before, hbefore, hsame⟩ := Option.map_eq_some_iff.1 hrun.symm
    obtain ⟨start, hstart, hstart'⟩ := hrewound before hbefore
    refine hread start hstart entity (.inr ?_) id hid
    rwa [← hstart', hsame]

end Store

end TypeRegistry
