import Mathlib.Data.List.Nodup
import Mathlib.Logic.Relation
import TypeRegistry.Proofs.Graph.Chronicle
import TypeRegistry.Proofs.Lookup

/-!
# What a graph of relations shows

An expansion with enough fuel is a chronicle.  Enough is one more than the number of known
identifiers that were not met before, because every step down meets another one of them.  From the
chronicle of a whole graph, in which nothing was met before, it follows that the nodes are closed
under what an identifier leads to, so that nothing reachable is cut off by an earlier visit.

Main results:

- Definition `LeadsTo`: an identifier leads to another.
- Theorem `expand_chronicle`: an expansion with enough fuel is a chronicle.
- Theorem `relationGraph_complete`: the identifiers in a graph are those that can be reached from
  its root, and every known one of them is expanded once, with all that it leads to.
-/

namespace TypeRegistry

open Dictionary

/-! ## Identifiers that a store knows -/

namespace Store

/-- The identifiers that a store may know: those it holds, and those its reader can look up. -/
def knownIds (store : Store) : List String :=
  keys store.entries ++
    match store.reader with
    | some (.list reader) => reader.entities.filterMap (·.idText)
    | _ => []

/-- What is found is under a known identifier. -/
theorem mem_knownIds {store : Store} {id : String} {entity : Entity}
    (h : store.lookup? id = some entity) : id ∈ store.knownIds := by
  rw [lookup?] at h
  rw [knownIds, List.mem_append]
  cases hheld : find? id store.entries with
  | some held => exact .inl (has_iff_mem_keys.1 (by simp [has, hheld]))
  | none =>
    rw [hheld] at h
    obtain ⟨reader, hreader, hread⟩ := Option.bind_eq_some_iff.1 h
    cases reader with
    | files reader => cases hread
    | list reader =>
      right
      rw [hreader]
      have hmem := List.mem_of_find?_eq_some hread
      have hid := List.find?_some hread
      exact List.mem_filterMap.2 ⟨entity, List.mem_reverse.1 hmem, by simpa using hid⟩

/-- The capacity of a store bounds the number of identifiers that it may know. -/
theorem length_knownIds_le (store : Store) : store.knownIds.length ≤ store.capacity := by
  rw [knownIds, capacity, List.length_append, keys, List.length_map]
  apply Nat.add_le_add_left
  rcases store.reader with _ | (reader | reader)
  · exact Nat.le_refl _
  · exact Nat.le_refl _
  · exact List.length_filterMap_le _ _

end Store

/-! ## Enough fuel -/

/-- The number of known identifiers that were not met. -/
def unmet (known seen : List String) : Nat :=
  (known.filter fun id => decide (id ∉ seen)).length

/-- When more is met, less is unmet. -/
theorem unmet_le_of_subset {known seen later : List String} (h : seen ⊆ later) :
    unmet known later ≤ unmet known seen := by
  apply List.Sublist.length_le
  apply List.monotone_filter_right
  intro id hid
  simp only [decide_eq_true_eq] at hid ⊢
  exact fun hseen => hid (h hseen)

/-- Meeting a known identifier makes it one less that is unmet. -/
theorem unmet_cons_lt {known seen : List String} {id : String} (hknown : id ∈ known)
    (hseen : id ∉ seen) : unmet known (id :: seen) < unmet known seen := by
  have hsplit : (known.filter fun other => decide (other ∉ id :: seen)) =
      (known.filter fun other => decide (other ∉ seen)).filter fun other =>
        decide (other ≠ id) := by
    rw [List.filter_filter]
    apply List.filter_congr
    intro other _
    simp [not_or]
  rw [unmet, unmet, hsplit]
  apply List.length_filter_lt_length_iff_exists.2
  exact ⟨id, List.mem_filter.2 ⟨hknown, by simpa using hseen⟩, by simp⟩

/-! ## Expansions are chronicles -/

section Expansion

variable {lookup : Lookup} {known : List String}

/-- The expansion of an identifier below a depth is a chronicle of the node and all below it. -/
def ChroniclesBelow (lookup : Lookup) (known : List String) (fuel : Nat) : Prop :=
  ∀ id seen, unmet known seen < fuel → (expand lookup fuel id seen).1.id = id ∧
    Chronicle lookup seen (expand lookup fuel id seen).1.nodes (expand lookup fuel id seen).2

/-- The nodes of references under fresh paths join those done so far, and they are a chronicle. -/
theorem expandReferences_chronicle {fuel : Nat} (hbelow : ChroniclesBelow lookup known fuel)
    (refs : List Reference) (done : List (String × GraphNode)) (seen : List String)
    (hfuel : unmet known seen < fuel) (hpaths : (keys done ++ refs.map (·.path)).Nodup) :
    ∃ targets, (expandReferences lookup fuel refs done seen).1 = done ++ targets ∧
      targets.map (fun entry => (entry.1, entry.2.id)) =
        refs.map (fun ref => (ref.path, ref.id)) ∧
      Chronicle lookup seen (GraphNode.nodesUnder targets)
        (expandReferences lookup fuel refs done seen).2 := by
  induction refs generalizing done seen with
  | nil =>
    rw [expandReferences]
    exact ⟨[], (List.append_nil done).symm, rfl, .done seen⟩
  | cons ref rest ih =>
    obtain ⟨hid, hnodes⟩ := hbelow ref.id seen hfuel
    rw [expandReferences]
    generalize expand lookup fuel ref.id seen = expansion at hid hnodes
    obtain ⟨target, middle⟩ := expansion
    have hfresh : ref.path ∉ keys done := by
      intro hmem
      exact (List.nodup_append.1 hpaths).2.2 ref.path hmem ref.path (by simp) rfl
    have hput : put ref.path target done = done ++ [(ref.path, target)] :=
      put_of_not_mem hfresh target
    have hfuel' : unmet known middle < fuel :=
      Nat.lt_of_le_of_lt (unmet_le_of_subset hnodes.subset) hfuel
    have hpaths' : (keys (put ref.path target done) ++ rest.map (·.path)).Nodup := by
      rw [hput]
      simpa [keys] using hpaths
    obtain ⟨targets, hdone, hids, hrest⟩ := ih (put ref.path target done) middle hfuel' hpaths'
    refine ⟨(ref.path, target) :: targets, ?_, ?_, hnodes.append hrest⟩
    · rw [hdone, hput, List.append_assoc, List.singleton_append]
    · rw [List.map_cons, List.map_cons, hids]
      exact congrArg (fun found => (ref.path, found) :: _) hid

/-- A known identifier that was not met before is expanded to its references and then, if it is
followed, to its governing schema. -/
theorem expand_known {fuel : Nat} {id : String} {seen : List String} {entity : Entity}
    (hseen : id ∉ seen) (hfound : lookup id = some entity) :
    expand lookup (fuel + 1) id seen =
      let below := expandReferences lookup fuel (entity.outwardReferences (some id)) [] (id :: seen)
      match entity.followedSchema with
      | some schemaId =>
        let schema := expand lookup fuel schemaId below.2
        (.node id below.1 (some schema.1) entity.graphProblem, schema.2)
      | none => (.node id below.1 none entity.graphProblem, below.2) := by
  rw [expand, if_neg hseen, hfound, entity.followedSchema_eq, Entity.graphProblem]
  cases hgoverned : entity.governedBy with
  | none => cases hkind : entity.isSchema <;> simp [hgoverned, hkind]
  | some schemaId =>
    cases hdialect : isDialectAddress schemaId <;> simp [hgoverned, Option.filter, hdialect]

/-- An expansion with enough fuel is a chronicle. -/
theorem expand_chronicle (hknown : ∀ id entity, lookup id = some entity → id ∈ known)
    (hpaths : ∀ id entity, lookup id = some entity → (entity.references.map (·.path)).Nodup)
    (fuel : Nat) : ChroniclesBelow lookup known fuel := by
  induction fuel with
  | zero => exact fun _ _ hfuel => absurd hfuel (Nat.not_lt_zero _)
  | succ fuel ih =>
    intro id seen hfuel
    by_cases hseen : id ∈ seen
    · rw [expand, if_pos hseen]
      exact ⟨rfl, .again hseen (.done seen)⟩
    · cases hfound : lookup id with
      | none =>
        rw [expand, if_neg hseen, hfound]
        refine ⟨rfl, .first hseen ?_ (.done _)⟩
        simp only [Shows, GraphNode.id_node, hfound]
      | some entity =>
        have hfuel' : unmet known (id :: seen) < fuel := by
          have := unmet_cons_lt (hknown id entity hfound) hseen
          omega
        have hfresh : ((entity.outwardReferences (some id)).map (·.path)).Nodup :=
          (hpaths id entity hfound).sublist (List.filter_sublist.map _)
        obtain ⟨targets, hdone, hids, hbelow⟩ :=
          expandReferences_chronicle ih (entity.outwardReferences (some id)) [] (id :: seen) hfuel'
            hfresh
        rw [entity.outwardReferences_some] at hids
        rw [List.nil_append] at hdone
        rw [expand_known hseen hfound]
        simp only [hdone]
        cases hschema : entity.followedSchema with
        | none =>
          refine ⟨rfl, .first hseen ?_ (by simpa [GraphNode.nodes] using hbelow)⟩
          rw [Shows, GraphNode.id_node, hfound]
          exact ⟨hids, hschema.symm, rfl⟩
        | some schemaId =>
          have hfuel'' := Nat.lt_of_le_of_lt (unmet_le_of_subset hbelow.subset) hfuel'
          obtain ⟨hid, hnodes⟩ := ih schemaId _ hfuel''
          refine ⟨rfl, .first hseen ?_ (hbelow.append hnodes)⟩
          rw [Shows, GraphNode.id_node, hfound]
          refine ⟨hids, ?_, rfl⟩
          rw [GraphNode.schema_node, Option.map_some, hid, hschema]

end Expansion

/-! ## Reachability -/

/-- An identifier leads to another if a followed reference of its entity names the other, or if
the other is the followed schema of its entity. -/
def LeadsTo (lookup : Lookup) (id target : String) : Prop :=
  ∃ entity, lookup id = some entity ∧
    ((∃ ref ∈ entity.references, ref.isFollowed id ∧ ref.id = target) ∨
      entity.followedSchema = some target)

/-- The children of a node that shows its entity are what its identifier leads to. -/
theorem Shows.exists_child_iff {lookup : Lookup} {node : GraphNode} (h : Shows lookup node)
    {target : String} :
    (∃ child ∈ node.children, child.id = target) ↔ LeadsTo lookup node.id target := by
  rw [Shows] at h
  cases hfound : lookup node.id with
  | none =>
    rw [hfound] at h
    constructor
    · rintro ⟨child, hchild, _⟩
      rw [h] at hchild
      simp [GraphNode.children] at hchild
    · rintro ⟨entity, hentity, _⟩
      rw [hfound] at hentity
      cases hentity
  | some entity =>
    rw [hfound] at h
    obtain ⟨hreferences, hschema, _⟩ := h
    have hfollowed : (∃ entry ∈ node.references, entry.2.id = target) ↔
        ∃ ref ∈ entity.references, ref.isFollowed node.id ∧ ref.id = target := by
      have hids := congrArg (List.map Prod.snd) hreferences
      simp only [List.map_map, Function.comp_def] at hids
      have hmem := congrArg (target ∈ ·) hids
      simpa only [List.mem_map, List.mem_filter, and_assoc, eq_iff_iff] using hmem
    have hgoverning : (∃ child ∈ node.schema.toList, child.id = target) ↔
        entity.followedSchema = some target := by
      rw [← hschema]
      simp
    constructor
    · rintro ⟨child, hchild, htarget⟩
      refine ⟨entity, hfound, ?_⟩
      rcases List.mem_append.1 hchild with hchild | hchild
      · obtain ⟨entry, hentry, rfl⟩ := List.mem_map.1 hchild
        exact .inl (hfollowed.1 ⟨entry, hentry, htarget⟩)
      · exact .inr (hgoverning.1 ⟨child, hchild, htarget⟩)
    · rintro ⟨other, hother, hleads⟩
      obtain rfl := Option.some.inj (hfound.symm.trans hother)
      rcases hleads with href | hgoverned
      · obtain ⟨entry, hentry, htarget⟩ := hfollowed.2 href
        exact ⟨entry.2, List.mem_append_left _ (List.mem_map_of_mem hentry), htarget⟩
      · obtain ⟨child, hchild, htarget⟩ := hgoverning.2 hgoverned
        exact ⟨child, List.mem_append_right _ hchild, htarget⟩

section Graph

variable {lookup : Lookup} {root : GraphNode} {later : List String}

/-- The identifiers in a graph can be reached from its root. -/
theorem Chronicle.reachable_of_mem (h : Chronicle lookup [] root.nodes later) {node : GraphNode}
    (hnode : node ∈ root.nodes) : Relation.ReflTransGen (LeadsTo lookup) root.id node.id := by
  refine GraphNode.forall_nodes_of_step
    (fun node => Relation.ReflTransGen (LeadsTo lookup) root.id node.id) root .refl ?_ node hnode
  intro node hnode hreach child hchild
  rcases h.leaf_or_shows hnode with hleaf | hshows
  · rw [hleaf] at hchild
    simp [GraphNode.children, GraphNode.leaf] at hchild
  · exact hreach.tail (hshows.exists_child_iff.1 ⟨child, hchild, rfl⟩)

/-- What can be reached from the root of a graph is in it: the graph has a node that shows where
an identifier leads, so it has nodes for all that the identifier leads to. -/
theorem Chronicle.mem_of_reachable (h : Chronicle lookup [] root.nodes later) {id : String}
    (hreach : Relation.ReflTransGen (LeadsTo lookup) root.id id) :
    id ∈ root.nodes.map (·.id) := by
  induction hreach with
  | refl => exact List.mem_map_of_mem root.self_mem_nodes
  | tail _ hleads ih =>
    obtain ⟨before, node, after, hnodes, rfl, hshows, _⟩ := h.exists_first List.not_mem_nil ih
    obtain ⟨child, hchild, rfl⟩ := hshows.exists_child_iff.2 hleads
    have hnode : node ∈ root.nodes := by
      rw [hnodes]
      exact List.mem_append_right _ List.mem_cons_self
    exact List.mem_map_of_mem (GraphNode.mem_nodes_of_mem_children hnode hchild)

end Graph

/-- The depth that an expansion is given is more than there are identifiers to meet. -/
theorem Store.unmet_knownIds_lt (store : Store) :
    unmet store.knownIds [] < store.capacity + 2 := by
  have hunmet : unmet store.knownIds [] ≤ store.knownIds.length := List.length_filter_le _ _
  have hcapacity := store.length_knownIds_le
  omega

/-- The graph of an identifier is the chronicle of an expansion for which nothing was met before. -/
theorem relationGraph_chronicle (store : Store) (root : String)
    (hpaths : ∀ id entity, store.lookup? id = some entity →
      (entity.references.map (·.path)).Nodup) :
    (relationGraph store root).value.id = root ∧
      Chronicle store.lookup? [] (relationGraph store root).value.nodes
        (relationGraph store root).asked.reverse := by
  rw [relationGraph, List.reverse_reverse]
  exact expand_chronicle (fun _ _ h => Store.mem_knownIds h) hpaths _ root []
    store.unmet_knownIds_lt

/-- In a store where no two references of an entity stand at the same path, the identifiers in the
graph of an identifier are exactly those that can be reached from it.  Every known one of them is
expanded exactly once, where it is met first: that node has one child for each followed reference,
under the path of the reference, and the governing schema as a child if it is followed.  All other
nodes of the identifier are bare leaves. -/
theorem relationGraph_complete (store : Store) (root : String)
    (hpaths : ∀ id entity, store.lookup? id = some entity →
      (entity.references.map (·.path)).Nodup) :
    (∀ id, id ∈ (relationGraph store root).value.nodes.map (·.id) ↔
      Relation.ReflTransGen (LeadsTo store.lookup?) root id) ∧
    ∀ id entity, Relation.ReflTransGen (LeadsTo store.lookup?) root id →
      store.lookup? id = some entity →
      ∃ before node after,
        (relationGraph store root).value.nodes = before ++ node :: after ∧ node.id = id ∧
          node.references.map (fun entry => (entry.1, entry.2.id)) =
            (entity.references.filter (·.isFollowed id)).map (fun ref => (ref.path, ref.id)) ∧
          node.schema.map (·.id) = entity.followedSchema ∧
          (∀ other ∈ before, other.id ≠ id) ∧
          ∀ other ∈ after, other.id = id → other = .leaf id := by
  obtain ⟨hroot, hchronicle⟩ := relationGraph_chronicle store root hpaths
  have hids : ∀ id, id ∈ (relationGraph store root).value.nodes.map (·.id) ↔
      Relation.ReflTransGen (LeadsTo store.lookup?) root id := by
    intro id
    constructor
    · intro hid
      obtain ⟨node, hnode, rfl⟩ := List.mem_map.1 hid
      rw [← hroot]
      exact hchronicle.reachable_of_mem hnode
    · intro hreach
      rw [← hroot] at hreach
      exact hchronicle.mem_of_reachable hreach
  refine ⟨hids, ?_⟩
  intro id entity hreach hfound
  obtain ⟨before, node, after, hnodes, rfl, hshows, hbefore, hafter⟩ :=
    hchronicle.exists_first List.not_mem_nil ((hids id).2 hreach)
  rw [Shows, hfound] at hshows
  refine ⟨before, node, after, hnodes, rfl, hshows.1, hshows.2.1, ?_, hafter⟩
  intro other hother hid
  exact hbefore (hid ▸ List.mem_map_of_mem hother)

/-- An entity that refers to itself and to a second one, and has a schema that is not known. -/
def leadingEntity : Entity where
  content := .null
  schemaId := some "kind~"
  references := [⟨"second", "next"⟩, ⟨"first", "self"⟩]

/-- An entity that refers back to the first one. -/
def followingEntity : Entity where
  content := .null
  id := some ⟨"second", []⟩
  references := [⟨"first", "previous"⟩]

/-- A store of two entities that refer to each other, the second of which only the reader knows. -/
def mutualStore : Store where
  entries := [("first", leadingEntity)]
  reader := some (.list ⟨[followingEntity], 0⟩)

/-- From the first of the two everything can be reached, and it is met again below the second. -/
theorem relationGraph_mutualStore :
    (∀ id entity, mutualStore.lookup? id = some entity →
      (entity.references.map (·.path)).Nodup) ∧
    ∀ id, id ∈ ["first", "second", "first", "kind~"] ↔
      Relation.ReflTransGen (LeadsTo mutualStore.lookup?) "first" id := by
  have hpaths : ∀ id entity, mutualStore.lookup? id = some entity →
      (entity.references.map (·.path)).Nodup := by
    intro id entity hfound
    have hentity : entity = leadingEntity ∨ entity = followingEntity := by
      rw [Store.lookup?] at hfound
      split at hfound
      next hheld =>
        left
        rw [hfound] at hheld
        have hmem := mem_of_find? hheld
        simp only [mutualStore, List.mem_singleton, Prod.mk.injEq] at hmem
        exact hmem.2
      next =>
        right
        simpa using List.mem_of_find?_eq_some hfound
    rcases hentity with rfl | rfl <;> decide
  refine ⟨hpaths, ?_⟩
  have hnodes : (relationGraph mutualStore "first").value.nodes.map (·.id) =
      ["first", "second", "first", "kind~"] := by
    have hfirst : mutualStore.lookup? "first" = some leadingEntity := rfl
    have hsecond : mutualStore.lookup? "second" = some followingEntity := rfl
    have hkind : mutualStore.lookup? "kind~" = none := rfl
    have hleading : leadingEntity.outwardReferences (some "first") = [⟨"second", "next"⟩] := by
      decide
    have hfollowing : followingEntity.outwardReferences (some "second") =
        [⟨"first", "previous"⟩] := by
      decide
    have hgoverned : leadingEntity.governedBy = some "kind~" := by decide
    have hfree : followingEntity.governedBy = none := rfl
    have hdialect : isDialectAddress "kind~" = false := by decide
    have hcapacity : mutualStore.capacity = 2 := rfl
    simp [relationGraph, hcapacity, expand, expandReferences, put, GraphNode.nodes,
      GraphNode.nodesUnder, hfirst, hsecond, hkind, hleading, hfollowing, hgoverned, hfree,
      hdialect]
  rw [← hnodes]
  exact (relationGraph_complete mutualStore "first" hpaths).1

end TypeRegistry
