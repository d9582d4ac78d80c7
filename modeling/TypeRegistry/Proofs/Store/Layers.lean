import Mathlib.Data.List.Induction
import TypeRegistry.Proofs.Store.Run

/-!
# The two layers of a store

A store over a list of entities answers like two layers: what was registered since everything was
last dropped lies over what the list has.  Of several entities under one identifier the last counts
in both layers.  What was preloaded, what was taken in on a look-up and where the reader stands in
its list make no difference.

Main results:

- Definition `lastWith`: the lower layer.
- Definitions `Store.history`, `latest?`: the upper layer.
- Theorem `lookup?_run`: the answer of a store after a run.
- Theorem `idText_run`: every entity is held under its own identifier.
- Theorem `reload_run`: what a store that is read anew holds, and in which order.
- Theorem `overList_run`: all of this for the store over given entities.
-/

namespace TypeRegistry

open Dictionary

/-! ## The lower layer -/

/-- The last of some entities under an identifier. -/
def lastWith (id : String) (entities : List Entity) : Option Entity :=
  (entities.filter fun entity => entity.idText == some id).getLast?

/-- The last entity is looked for at the end first. -/
theorem lastWith_append (id : String) (first second : List Entity) :
    lastWith id (first ++ second) = (lastWith id second).or (lastWith id first) := by
  rw [lastWith, lastWith, lastWith, List.filter_append, List.getLast?_append]

/-- The first entity is the last one only if no later one is. -/
theorem lastWith_cons (id : String) (entity : Entity) (rest : List Entity) :
    lastWith id (entity :: rest) =
      (lastWith id rest).or (if entity.idText = some id then some entity else none) := by
  have happend := lastWith_append id [entity] rest
  rw [List.singleton_append] at happend
  rw [happend]
  by_cases h : entity.idText = some id
  · simp [lastWith, h]
  · simp [lastWith, h]

/-- Entities without an identifier are the last under none. -/
theorem lastWith_filter_isSome (id : String) (entities : List Entity) :
    lastWith id (entities.filter (·.id.isSome)) = lastWith id entities := by
  rw [lastWith, lastWith, List.filter_filter]
  congr 1
  apply List.filter_congr
  intro entity _
  cases hid : entity.id <;> simp [Entity.idText, hid]

/-- A list reader looks the last entity up, wherever in its list it stands. -/
theorem ListReader.find?_eq (reader : ListReader) (id : String) :
    reader.find? id = lastWith id reader.entities := by
  rw [find?, lastWith, ← List.head?_filter, List.filter_reverse, List.head?_reverse]

/-- A list reader keeps its list, however many requests it answers. -/
theorem Reader.skip_list (requests : Nat) (reader : ListReader) :
    ∃ position, skip requests (.list reader) = .list ⟨reader.entities, position⟩ := by
  induction requests generalizing reader with
  | zero => exact ⟨reader.position, rfl⟩
  | succ requests ih =>
    have hentities : reader.next.2.entities = reader.entities := by
      rw [ListReader.next]
      cases reader.entities[reader.position]? <;> rfl
    rw [← hentities]
    exact ih reader.next.2

namespace Store

/-- Of the entities that are held one after the other, the last under an identifier stays. -/
theorem find?_foldl_hold (id : String) (entities : List Entity) (entries : Dictionary Entity) :
    find? id (entities.foldl hold entries) = (lastWith id entities).or (find? id entries) := by
  induction entities generalizing entries with
  | nil => rfl
  | cons entity rest ih =>
    rw [List.foldl_cons, ih, lastWith_cons, Option.or_assoc]
    congr 1
    cases hid : entity.idText with
    | none => simp [hold_of_anonymous hid]
    | some own =>
      rw [hold_of_idText hid]
      by_cases heq : own = id
      · simp [heq]
      · simp [find?_put_of_ne heq, heq]

/-- Entities that are held one after the other come in the order in which their identifiers first
occur. -/
theorem keys_foldl_hold (entities : List Entity) (entries : Dictionary Entity) :
    keys (entities.foldl hold entries) =
      (entities.filterMap (·.idText)).foldl
        (fun kept s => if s ∈ kept then kept else kept ++ [s]) (keys entries) := by
  induction entities generalizing entries with
  | nil => rfl
  | cons entity rest ih =>
    rw [List.foldl_cons, ih]
    cases hid : entity.idText with
    | none => rw [hold_of_anonymous hid, List.filterMap_cons_none hid]
    | some id =>
      rw [hold_of_idText hid, List.filterMap_cons_some hid, List.foldl_cons, keys_put]
      simp only [has_iff_mem_keys]

/-- The store of a list reader answers with the last entity of the whole list, whether it was
preloaded or stands before the reader. -/
theorem lookup?_ofReader (reader : ListReader) (checks : Bool) (id : String) :
    (ofReader (some (.list reader)) checks).lookup? id = lastWith id reader.entities := by
  have hheld : (ofReader (some (.list reader)) checks).entries =
      (reader.entities.drop reader.position).foldl hold [] :=
    ofReader_entries _ checks
  have hread : (Reader.list reader).exhausted.find? id = lastWith id reader.entities :=
    reader.exhausted.find?_eq id
  have hsplit := lastWith_append id (reader.entities.take reader.position)
    (reader.entities.drop reader.position)
  rw [List.take_append_drop] at hsplit
  rw [lookup?_eq, hheld, find?_foldl_hold, ofReader_reader, Option.map_some, Option.bind_some,
    hread, hsplit, ← Option.or_assoc]
  simp [find?]

end Store

/-! ## The upper layer -/

/-- The entity that a change puts under an identifier. -/
def Store.Event.under? (id : String) : Store.Event → Option Entity
  | .registered other entity => if other = id then some entity else none
  | .dropped => none

/-- Whether a change drops everything. -/
def Store.Event.isDrop : Store.Event → Bool
  | .registered _ _ => false
  | .dropped => true

/-- The entity that was registered last under an identifier, since everything was last dropped. -/
def latest? (id : String) (events : List Store.Event) : Option Entity :=
  (events.reverse.takeWhile fun event => !event.isDrop).findSome? (·.under? id)

/-- What was registered last is seen from the last change. -/
theorem latest?_concat (id : String) (events : List Store.Event) (event : Store.Event) :
    latest? id (events ++ [event]) =
      if event.isDrop then none else (event.under? id).or (latest? id events) := by
  rw [latest?, latest?, List.reverse_concat]
  cases event with
  | registered other entity =>
    by_cases h : other = id
    · simp [Store.Event.isDrop, Store.Event.under?, h]
    · simp [Store.Event.isDrop, Store.Event.under?, h]
  | dropped => simp [Store.Event.isDrop]

namespace Store

/-- The changes that calls make in what is registered, the earliest first. -/
def history (store : Store) : List Call → List Event
  | [] => []
  | call :: rest => (store.event? call).toList ++ (store.perform call).history rest

theorem history_append (store : Store) (first second : List Call) :
    store.history (first ++ second) =
      store.history first ++ (store.run first).history second := by
  induction first generalizing store with
  | nil => rfl
  | cons call rest ih => rw [List.cons_append, history, history, ih, run_cons, List.append_assoc]

/-- The answer of a store after a run is the entity that was registered last under the identifier
since everything was last dropped, else the last one of the list. -/
theorem lookup?_run (reader : ListReader) (checks : Bool) (calls : List Call) (id : String) :
    ((ofReader (some (.list reader)) checks).run calls).lookup? id =
      (latest? id ((ofReader (some (.list reader)) checks).history calls)).or
        (lastWith id reader.entities) := by
  induction calls using List.reverseRecOn with
  | nil => exact lookup?_ofReader reader checks id
  | append_singleton before call ih =>
    have hreader := run_reader (ofReader (some (.list reader)) checks) before
    rw [history_append, run_append, run_cons, run_nil, history, history, List.append_nil,
      (perform_transition _ call).lookup? id]
    cases event? ((ofReader (some (.list reader)) checks).run before) call with
    | none =>
      rw [Option.toList_none, List.append_nil]
      exact ih
    | some event =>
      rw [Option.toList_some, latest?_concat]
      cases event with
      | registered own entity =>
        rw [answerAfter, ih]
        by_cases heq : own = id
        · simp [heq, Event.under?, Event.isDrop]
        · simp [heq, Event.under?, Event.isDrop]
      | dropped =>
        rw [answerAfter, reload_eq, hreader]
        exact lookup?_ofReader reader.rewound _ id

/-! ## What is held under which identifier -/

/-- Every entity is held under its own identifier. -/
theorem idText_run (reader : ListReader) (checks : Bool) (calls : List Call) :
    ∀ entry ∈ ((ofReader (some (.list reader)) checks).run calls).entries,
      entry.2.idText = some entry.1 := by
  refine forall_entries_run_ofReader (P := fun id entity => entity.idText = some id)
    (some reader) checks ?_ ?_
  · exact fun _ _ _ _ _ hid => hid
  · exact fun _ _ _ _ _ hid => hid

/-- What a store of a list reader that is read anew holds. -/
theorem reload_run_entries (reader : ListReader) (checks : Bool) (calls : List Call) :
    ((ofReader (some (.list reader)) checks).run (calls ++ [.reload])).entries =
      reader.entities.foldl hold [] := by
  have hreader := run_reader (ofReader (some (.list reader)) checks) calls
  rw [run_append, run_cons, run_nil, perform, reload_eq, hreader]
  exact ofReader_entries _ _

/-- A store of a list reader that is read anew holds every identifier of the list once, in the order
in which they first occur, and under each the last entity that has it. -/
theorem reload_run (reader : ListReader) (checks : Bool) (calls : List Call) :
    keys ((ofReader (some (.list reader)) checks).run (calls ++ [.reload])).entries =
        Text.distinct (reader.entities.filterMap (·.idText)) ∧
      (keys ((ofReader (some (.list reader)) checks).run (calls ++ [.reload])).entries).Nodup ∧
      ∀ id entity,
        (id, entity) ∈ ((ofReader (some (.list reader)) checks).run (calls ++ [.reload])).entries ↔
          lastWith id reader.entities = some entity := by
  rw [reload_run_entries]
  have hnodup : (keys (reader.entities.foldl hold [])).Nodup :=
    nodup_keys_foldl_hold List.nodup_nil
  refine ⟨keys_foldl_hold reader.entities [], hnodup, fun id entity => ?_⟩
  rw [← find?_eq_some_iff_mem hnodup, find?_foldl_hold]
  simp [find?]

/-! ## Stores over given entities -/

/-- The store that is built on a reader of some entities after some requests to the reader. -/
def overList (entities : List Entity) (requests : Nat) (checks : Bool) : Store :=
  ofReader (some (Reader.skip requests (.list (.ofEntities entities)))) checks

/-- The requests only move the reader in its list, where entities without an identifier are left
out. -/
theorem overList_eq (entities : List Entity) (requests : Nat) (checks : Bool) :
    ∃ position, overList entities requests checks =
      ofReader (some (.list ⟨entities.filter (·.id.isSome), position⟩)) checks := by
  obtain ⟨position, hreader⟩ := Reader.skip_list requests (.ofEntities entities)
  exact ⟨position, by rw [overList, hreader]; rfl⟩

/-- No identifier occurs twice in what such a store holds. -/
theorem nodup_keys_overList (entities : List Entity) (requests : Nat) (checks : Bool) :
    (keys (overList entities requests checks).entries).Nodup := by
  rw [overList, ofReader_entries]
  exact nodup_keys_foldl_hold List.nodup_nil

/-- The identifiers of entities, those without one being left out or not. -/
theorem filterMap_idText_filter_isSome (entities : List Entity) :
    (entities.filter (·.id.isSome)).filterMap (·.idText) = entities.filterMap (·.idText) := by
  rw [List.filterMap_filter]
  congr 1
  funext entity
  cases hid : entity.id <;> simp [Entity.idText, hid]

/-- What a store over given entities holds and answers after any calls, in terms of two layers. -/
theorem overList_run (entities : List Entity) (requests : Nat) (checks : Bool)
    (calls : List Call) :
    (∀ entry ∈ ((overList entities requests checks).run calls).entries,
      entry.2.idText = some entry.1) ∧
    (∀ id, ((overList entities requests checks).run calls).lookup? id =
      (latest? id ((overList entities requests checks).history calls)).or
        (lastWith id entities)) ∧
    keys ((overList entities requests checks).run (calls ++ [.reload])).entries =
      Text.distinct (entities.filterMap (·.idText)) ∧
    (keys ((overList entities requests checks).run (calls ++ [.reload])).entries).Nodup ∧
    ∀ id entity,
      (id, entity) ∈ ((overList entities requests checks).run (calls ++ [.reload])).entries ↔
        lastWith id entities = some entity := by
  obtain ⟨position, heq⟩ := overList_eq entities requests checks
  obtain ⟨hkeys, hnodup, hentries⟩ :=
    reload_run ⟨entities.filter (·.id.isSome), position⟩ checks calls
  rw [filterMap_idText_filter_isSome] at hkeys
  rw [heq]
  refine ⟨idText_run _ checks calls, fun id => ?_, hkeys, hnodup, fun id entity => ?_⟩
  · rw [lookup?_run, lastWith_filter_isSome]
  · rw [hentries, lastWith_filter_isSome]

end Store

end TypeRegistry
