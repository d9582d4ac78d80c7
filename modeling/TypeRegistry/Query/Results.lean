import TypeRegistry.Query
import TypeRegistry.Store

/-!
# Results of queries

A query selects the contents of the entities whose identifiers match its pattern and whose fields
pass its filters.  The results keep the order of the store and are cut off at a limit.  An entity
without an identifier or with empty content is never selected.

Main definitions:

- `QueryResults`, `QueryResults.toJson`: the results of a query, or why there are none.
- `Query.selects`: whether an entity is among them.
- `Query.collect`: the contents of selected entities, as many as there is room for.
- `Store.selection`: the contents of all selected entities.
- `Store.query`: the results of an expression in a store.
-/

namespace TypeRegistry

/-- The results of a query up to a limit, or why the expression is no query. -/
structure QueryResults where
  limit : Nat
  outcome : Except QueryFault (List Json)

namespace QueryResults

/-- The limit that applies unless a positive one is given. -/
def defaultLimit : Nat := 100

/-- The limit that applies when a number is given. -/
def limitFor (given : Int) : Nat :=
  if given ≤ 0 then defaultLimit else given.toNat

/-- The contents found; none if the expression is no query. -/
def contents (results : QueryResults) : List Json :=
  match results.outcome with
  | .ok contents => contents
  | .error _ => []

/-- The wording of the fault, empty if there is none. -/
def problem (results : QueryResults) : String :=
  match results.outcome with
  | .ok _ => ""
  | .error fault => fault.message

/-- Results as a document. -/
def toJson (results : QueryResults) : Json :=
  .obj [("error", .str results.problem), ("count", .int results.contents.length),
    ("limit", .int results.limit), ("results", .arr results.contents)]

end QueryResults

/-- Whether an entity is selected by the filters of a query, given the pattern at its base. -/
def Query.selects (query : Query) (pattern : Pattern) (entity : Entity) : Bool :=
  match entity.id with
  | some id =>
    entity.content.isInhabited && pattern.matchesIdentifier id &&
      filtersAccept query.filters entity.content.members
  | none => false

/-- The contents of the first entities that a query selects, as many as there is room for.  Entities
behind the last of them are not looked at. -/
def Query.collect (query : Query) (pattern : Pattern) : (room : Nat) → List Entity → List Json
  | 0, _ => []
  | _, [] => []
  | room + 1, entity :: rest =>
    if query.selects pattern entity then entity.content :: query.collect pattern room rest
    else query.collect pattern (room + 1) rest

/-- What is collected are the first of all selected contents. -/
theorem Query.collect_eq_take (query : Query) (pattern : Pattern) (room : Nat)
    (entities : List Entity) :
    query.collect pattern room entities =
      ((entities.filter (query.selects pattern)).map (·.content)).take room := by
  induction entities generalizing room with
  | nil => cases room <;> rfl
  | cons entity rest ih =>
    cases room with
    | zero => rfl
    | succ room =>
      rw [collect]
      by_cases h : query.selects pattern entity = true
      · rw [if_pos h, ih, List.filter_cons_of_pos h, List.map_cons, List.take_succ_cons]
      · rw [if_neg h, ih, List.filter_cons_of_neg h]

namespace Store

/-- The contents of all entities that a query selects, in store order. -/
def selection (store : Store) (query : Query) (pattern : Pattern) : List Json :=
  (store.entries.filter fun entry => query.selects pattern entry.2).map (·.2.content)

/-- The results of an expression, up to a limit. -/
def query (store : Store) (allowTypeFilters : Bool) (expression : String) (limit : Int) :
    QueryResults :=
  { limit := QueryResults.limitFor limit
    outcome :=
      match Query.parse allowTypeFilters expression with
      | .error fault => .error fault
      | .ok query =>
        match Query.pattern query.base with
        | .error fault => .error fault
        | .ok pattern =>
          .ok (query.collect pattern (QueryResults.limitFor limit) (store.entries.map (·.2))) }

/-- The entities of a store are collected as the first of its selection. -/
theorem collect_entries (store : Store) (query : Query) (pattern : Pattern) (room : Nat) :
    query.collect pattern room (store.entries.map (·.2)) =
      (store.selection query pattern).take room := by
  rw [Query.collect_eq_take, selection, List.filter_map, List.map_map]
  rfl

end Store

end TypeRegistry
