import Mathlib.Data.List.Basic
import TypeRegistry.Graph

/-!
# The chronicle of an expansion

The nodes of a graph, every node before the nodes below it, tell in which order identifiers were
met.  A chronicle says what such a list looks like when some identifiers were expanded before: a
node whose identifier was met already is a bare leaf, any other node shows the entity of its
identifier in full and is the only one to do so.  Chronicles of siblings follow one another, which
carries the list of identifiers met from one sibling to the next.

Main results:

- Definition `GraphNode.nodes`: all nodes of a graph, every node before those below it.
- Definition `Shows`: a node shows all that its entity leads to.
- Definition `Chronicle`: what is met, given what was met before.
- Theorem `Chronicle.exists_first`: of the nodes of an identifier the first shows its entity, and
  all others are bare leaves.
-/

namespace TypeRegistry

/-! ## The nodes of a graph -/

namespace GraphNode

/-- The identifier of a node. -/
def id : GraphNode → String
  | node id _ _ _ => id

/-- The nodes under the paths of the references. -/
def references : GraphNode → List (String × GraphNode)
  | node _ references _ _ => references

/-- The node of the governing schema. -/
def schema : GraphNode → Option GraphNode
  | node _ _ schema _ => schema

/-- The nodes right below a node. -/
def children (root : GraphNode) : List GraphNode :=
  root.references.map (·.2) ++ root.schema.toList

mutual

/-- All nodes of a graph, every node before the nodes below it. -/
def nodes : GraphNode → List GraphNode
  | node id references schema problem =>
    node id references schema problem :: (nodesUnder references ++
      (match schema with
        | some schema => nodes schema
        | none => []))

/-- All nodes of the graphs under the paths of references. -/
def nodesUnder : List (String × GraphNode) → List GraphNode
  | [] => []
  | (_, target) :: rest => nodes target ++ nodesUnder rest

end

section Parts

variable (id : String) (below : List (String × GraphNode)) (governing : Option GraphNode)
  (wrong : Option GraphProblem)

@[simp]
theorem id_node : (node id below governing wrong).id = id := rfl

@[simp]
theorem references_node : (node id below governing wrong).references = below := rfl

@[simp]
theorem schema_node : (node id below governing wrong).schema = governing := rfl

end Parts

@[simp]
theorem id_leaf (id : String) : (leaf id).id = id := rfl

@[simp]
theorem nodes_leaf (id : String) : (leaf id).nodes = [leaf id] := rfl

/-- The nodes under references are those of the references in turn. -/
theorem nodesUnder_eq_flatMap (references : List (String × GraphNode)) :
    nodesUnder references = references.flatMap fun entry => entry.2.nodes := by
  induction references with
  | nil => rfl
  | cons entry rest ih =>
    obtain ⟨path, target⟩ := entry
    rw [nodesUnder, ih, List.flatMap_cons]

/-- The nodes of a graph are its root and the nodes of the graphs below. -/
theorem nodes_eq (root : GraphNode) :
    root.nodes = root :: root.children.flatMap nodes := by
  obtain ⟨id, references, schema, problem⟩ := root
  cases schema <;> simp [nodes, nodesUnder_eq_flatMap, children, List.flatMap_map]

theorem self_mem_nodes (root : GraphNode) : root ∈ root.nodes := by
  rw [nodes_eq]
  exact List.mem_cons_self

/-- The nodes of a graph below the root are nodes of the root. -/
theorem nodes_subset_of_mem_children {root child : GraphNode} (h : child ∈ root.children) :
    child.nodes ⊆ root.nodes := by
  intro node hnode
  rw [nodes_eq root]
  exact List.mem_cons_of_mem _ (List.mem_flatMap_of_mem h hnode)

/-- A child is smaller than the node that it belongs to. -/
theorem sizeOf_lt_of_mem_children {root child : GraphNode} (h : child ∈ root.children) :
    sizeOf child < sizeOf root := by
  obtain ⟨id, references, schema, problem⟩ := root
  rcases List.mem_append.1 h with h | h
  · obtain ⟨⟨path, target⟩, hentry, rfl⟩ := List.mem_map.1 h
    have hlt := List.sizeOf_lt_of_mem hentry
    simp only [references_node, Prod.mk.sizeOf_spec, node.sizeOf_spec] at hlt ⊢
    omega
  · obtain rfl : schema = some child := by simpa using h
    simp only [node.sizeOf_spec, Option.some.sizeOf_spec]
    omega

/-- What holds of the root and is handed on from every node to its children holds of all nodes. -/
theorem forall_nodes_of_step (Holds : GraphNode → Prop) (root : GraphNode) (hroot : Holds root)
    (hstep : ∀ node ∈ root.nodes, Holds node → ∀ child ∈ node.children, Holds child) :
    ∀ node ∈ root.nodes, Holds node := by
  intro node hnode
  rw [nodes_eq] at hnode
  rcases List.mem_cons.1 hnode with rfl | hbelow
  · exact hroot
  · obtain ⟨child, hchild, hnode⟩ := List.mem_flatMap.1 hbelow
    have hchildHolds := hstep root root.self_mem_nodes hroot child hchild
    refine forall_nodes_of_step Holds child hchildHolds ?_ node hnode
    intro inner hinner
    exact hstep inner (nodes_subset_of_mem_children hchild hinner)
termination_by sizeOf root
decreasing_by exact sizeOf_lt_of_mem_children hchild

/-- The children of a node of a graph are nodes of the graph. -/
theorem mem_nodes_of_mem_children {root node child : GraphNode} (hnode : node ∈ root.nodes)
    (hchild : child ∈ node.children) : child ∈ root.nodes := by
  have hsubset : node.nodes ⊆ root.nodes := by
    refine forall_nodes_of_step (fun node => node.nodes ⊆ root.nodes) root ?_ ?_ node hnode
    · exact fun _ h => h
    · intro node _ hnode child hchild
      exact fun _ h => hnode (nodes_subset_of_mem_children hchild h)
  exact hsubset (nodes_subset_of_mem_children hchild child.self_mem_nodes)

end GraphNode

/-! ## What a node shows -/

/-- Whether a reference of the entity of an identifier is followed: it leads neither back to the
identifier nor to a dialect. -/
def Reference.isFollowed (ref : Reference) (id : String) : Bool :=
  decide (ref.id ≠ id) && !isDialectAddress ref.id

/-- The governing schema of an entity if it is followed: it is written and no dialect. -/
def Entity.followedSchema (entity : Entity) : Option String :=
  entity.schemaId.filter fun schemaId => decide (schemaId ≠ "") && !isDialectAddress schemaId

theorem Entity.outwardReferences_some (entity : Entity) (id : String) :
    entity.outwardReferences (some id) = entity.references.filter (·.isFollowed id) := by
  apply List.filter_congr
  intro ref _
  simp [Reference.isFollowed, beq_eq_decide]

theorem Entity.followedSchema_eq (entity : Entity) :
    entity.followedSchema =
      entity.governedBy.filter fun schemaId => !isDialectAddress schemaId := by
  rw [followedSchema, governedBy]
  cases entity.schemaId with
  | none => rfl
  | some schemaId =>
    by_cases hempty : schemaId = ""
    · subst hempty
      rfl
    · simp [hempty, Option.filter]

/-- What is wrong with a known entity: it is no schema, and no schema governs it. -/
def Entity.graphProblem (entity : Entity) : Option GraphProblem :=
  if entity.governedBy = none ∧ !entity.isSchema then some .noSchema else none

/-- A node shows all that its entity leads to: the followed references under their paths, and the
governing schema if it is followed.  Of an identifier that is not known it shows the problem. -/
def Shows (lookup : Lookup) (node : GraphNode) : Prop :=
  match lookup node.id with
  | none => node = .node node.id [] none (some .notFound)
  | some entity =>
    node.references.map (fun entry => (entry.1, entry.2.id)) =
        (entity.references.filter (·.isFollowed node.id)).map (fun ref => (ref.path, ref.id)) ∧
      node.schema.map (·.id) = entity.followedSchema ∧
      node.problem = entity.graphProblem

/-! ## Chronicles -/

/-- What is met, node by node, when some identifiers were met before, and all that were met in the
end.  The identifiers are listed with the latest first. -/
inductive Chronicle (lookup : Lookup) : List String → List GraphNode → List String → Prop
  /-- Nothing is met. -/
  | done (seen : List String) : Chronicle lookup seen [] seen
  /-- An identifier that was met before is a bare leaf. -/
  | again {id : String} {seen : List String} {nodes : List GraphNode} {later : List String} :
    id ∈ seen → Chronicle lookup seen nodes later →
      Chronicle lookup seen (.leaf id :: nodes) later
  /-- An identifier that was not met before is shown with all that it leads to. -/
  | first {node : GraphNode} {seen : List String} {nodes : List GraphNode} {later : List String} :
    node.id ∉ seen → Shows lookup node → Chronicle lookup (node.id :: seen) nodes later →
      Chronicle lookup seen (node :: nodes) later

namespace Chronicle

variable {lookup : Lookup} {seen middle later : List String} {nodes first second : List GraphNode}

/-- Chronicles follow one another. -/
theorem append (hfirst : Chronicle lookup seen first middle)
    (hsecond : Chronicle lookup middle second later) :
    Chronicle lookup seen (first ++ second) later := by
  induction hfirst with
  | done => exact hsecond
  | again hseen _ ih => exact again hseen (ih hsecond)
  | first hseen hshows _ ih => exact .first hseen hshows (ih hsecond)

/-- The identifiers met in the end are those met before and those of the nodes. -/
theorem mem_iff (h : Chronicle lookup seen nodes later) {id : String} :
    id ∈ later ↔ id ∈ seen ∨ id ∈ nodes.map (·.id) := by
  induction h with
  | done => simp
  | again hseen _ ih =>
    rw [ih, List.map_cons, List.mem_cons, GraphNode.id_leaf]
    constructor
    · exact Or.imp_right Or.inr
    · rintro (h | rfl | h)
      · exact .inl h
      · exact .inl hseen
      · exact .inr h
  | first _ _ _ ih =>
    rw [ih, List.map_cons, List.mem_cons, List.mem_cons, or_assoc, or_left_comm]

theorem subset (h : Chronicle lookup seen nodes later) : seen ⊆ later :=
  fun _ hid => h.mem_iff.2 (.inl hid)

/-- The nodes of an identifier that was met before are bare leaves. -/
theorem eq_leaf_of_mem (h : Chronicle lookup seen nodes later) {node : GraphNode}
    (hnode : node ∈ nodes) (hid : node.id ∈ seen) : node = .leaf node.id := by
  induction h with
  | done => simp at hnode
  | again _ _ ih =>
    rcases List.mem_cons.1 hnode with rfl | hnode
    · rfl
    · exact ih hnode hid
  | first hseen _ _ ih =>
    rcases List.mem_cons.1 hnode with rfl | hnode
    · exact absurd hid hseen
    · exact ih hnode (List.mem_cons_of_mem _ hid)

/-- Every node is a bare leaf or shows its entity. -/
theorem leaf_or_shows (h : Chronicle lookup seen nodes later) {node : GraphNode}
    (hnode : node ∈ nodes) : node = .leaf node.id ∨ Shows lookup node := by
  induction h with
  | done => simp at hnode
  | again _ _ ih =>
    rcases List.mem_cons.1 hnode with rfl | hnode
    · exact .inl rfl
    · exact ih hnode
  | first _ hshows _ ih =>
    rcases List.mem_cons.1 hnode with rfl | hnode
    · exact .inr hshows
    · exact ih hnode

/-- Of the nodes of an identifier that was not met before, the first shows all that it leads to,
and those behind it are bare leaves. -/
theorem exists_first (h : Chronicle lookup seen nodes later) {id : String} (hseen : id ∉ seen)
    (hid : id ∈ nodes.map (·.id)) :
    ∃ before node after, nodes = before ++ node :: after ∧ node.id = id ∧ Shows lookup node ∧
      id ∉ before.map (·.id) ∧ ∀ other ∈ after, other.id = id → other = .leaf id := by
  induction h with
  | done => simp at hid
  | @again met _ _ _ hmet _ ih =>
    have hne : met ≠ id := by
      rintro rfl
      exact hseen hmet
    obtain ⟨before, node, after, rfl, hnode, hshows, hbefore, hafter⟩ :=
      ih hseen (by simpa [hne.symm] using hid)
    exact ⟨.leaf met :: before, node, after, rfl, hnode, hshows, by simpa [hne.symm] using hbefore,
      hafter⟩
  | @first met _ _ _ _ hshows hrest ih =>
    by_cases hmet : met.id = id
    · refine ⟨[], met, _, rfl, hmet, hshows, by simp, ?_⟩
      intro other hother hid
      rw [← hid]
      exact hrest.eq_leaf_of_mem hother (by simp [hid, hmet])
    · obtain ⟨before, node, after, rfl, hnode, hshows, hbefore, hafter⟩ :=
        ih (by simp [hseen, Ne.symm hmet]) (by simpa [Ne.symm hmet] using hid)
      exact ⟨met :: before, node, after, rfl, hnode, hshows,
        by simpa [Ne.symm hmet] using hbefore, hafter⟩

end Chronicle

end TypeRegistry
