import TypeRegistry.Json.Basic
import TypeRegistry.Store

/-!
# The graph of relations

The graph of an entity shows the entities it refers to, each under the path of the reference, and
its governing schema, and so on from each of them.  An identifier is expanded where it is met first;
wherever it is met again it stands as a bare leaf, so cycles come to an end.  Entities that are not
known are nodes with a problem.

Main definitions:

- `GraphNode`, `GraphNode.toJson`: the nodes of a graph.
- `expand`: a node, and the identifiers expanded so far.
- `relationGraph`: the graph of an identifier.
-/

namespace TypeRegistry

open Dictionary

/-- What is wrong with an entity in the graph. -/
inductive GraphProblem where
  | notFound
  | noSchema
deriving DecidableEq, Repr

/-- The wording of a problem. -/
def GraphProblem.message : GraphProblem → String
  | notFound => "Entity not found"
  | noSchema => "Schema not recognized"

/-- An entity in the graph: what it refers to under the paths of the references, the schema that
governs it, and what is wrong with it. -/
inductive GraphNode where
  | node (id : String) (references : List (String × GraphNode)) (schema : Option GraphNode)
    (problem : Option GraphProblem)
deriving Inhabited

namespace GraphNode

/-- A node without expansion. -/
def leaf (id : String) : GraphNode :=
  node id [] none none

/-- What is wrong with the entity of the node. -/
def problem : GraphNode → Option GraphProblem
  | node _ _ _ problem => problem

mutual

/-- A node as a document; empty parts are left out. -/
def toJson : GraphNode → Json
  | node id references schema problem =>
    .obj ([("id", .str id)] ++
      (match references with
        | [] => []
        | entry :: rest => [("refs", .obj (membersOf (entry :: rest)))]) ++
      (match schema with
        | some schema => [("schema_id", toJson schema)]
        | none => []) ++
      (match problem with
        | some problem => [("errors", .arr [.str problem.message])]
        | none => []))

/-- The nodes under their paths as members of an object. -/
def membersOf : List (String × GraphNode) → Json.Members
  | [] => []
  | (path, target) :: rest => (path, toJson target) :: membersOf rest

end

end GraphNode

mutual

/-- The node of an identifier, and the identifiers expanded so far, the latest first.  The fuel
bounds the depth; a chain of expansions never meets an identifier twice. -/
def expand (lookup : Lookup) : (fuel : Nat) → (id : String) → (seen : List String) →
    GraphNode × List String
  | 0, id, seen => (.leaf id, seen)
  | fuel + 1, id, seen =>
    if id ∈ seen then (.leaf id, seen)
    else
      match lookup id with
      | none => (.node id [] none (some .notFound), id :: seen)
      | some entity =>
        let (references, seen) :=
          expandReferences lookup fuel (entity.outwardReferences (some id)) [] (id :: seen)
        match entity.governedBy with
        | some schemaId =>
          if isDialectAddress schemaId then (.node id references none none, seen)
          else
            let (schema, seen) := expand lookup fuel schemaId seen
            (.node id references (some schema) none, seen)
        | none =>
          (.node id references none (if entity.isSchema then none else some .noSchema), seen)

/-- The nodes of references, put under their paths after those done so far. -/
def expandReferences (lookup : Lookup) : (fuel : Nat) → List Reference →
    (done : List (String × GraphNode)) → (seen : List String) →
    List (String × GraphNode) × List String
  | _, [], done, seen => (done, seen)
  | fuel, ref :: rest, done, seen =>
    let (target, seen) := expand lookup fuel ref.id seen
    expandReferences lookup fuel rest (put ref.path target done) seen

end

/-- The graph of an identifier in a store. -/
def relationGraph (store : Store) (id : String) : Consulted GraphNode :=
  let (root, seen) := expand store.lookup? (store.capacity + 2) id []
  ⟨root, seen.reverse⟩

end TypeRegistry
