import Mathlib.Data.Set.Card
import TypeRegistry.Proofs.Graph.Depth

/-!
# The expansions of a graph of relations

A graph is built by a recursion that follows what the store answers, and the store takes in what its
reader knows while the recursion runs.  Here the recursion is set out with the store as it stands at
every look-up and without any bound on the depth.  The identifiers that were met are handed from one
node to the next, to the references first and then to the governing schema.

References of an entity may stand at one path, and then the last of their nodes replaces the others.
So the nodes of the finished graph are fewer than those that were built, and what is expanded cannot
be read off the graph; it is the identifiers met that are counted.

Main results:

- Definition `Visits`: what is built for identifiers, given what was met before.
- Theorem `expand_visits`: an expansion with enough fuel is such a recursion.
- Theorem `Visits.unique`: the recursion has one outcome.
- Theorem `Visits.count_le`: nodes that are no bare leaves belong to identifiers newly met.
- Theorem `relationGraph_terminates`: the recursion comes to an end for every identifier, with one
  expansion for each identifier that can be reached.
-/

namespace TypeRegistry

open Dictionary

/-! ## The recursion -/

/-- What is built for identifiers one after another when some were met before: a node for each, and
all that were met in the end, the latest first.  An identifier that was met before is a bare leaf.
Any other is looked up in the store, which has taken in what was looked up before, and is expanded:
first the references of its entity, then its governing schema. -/
inductive Visits (store : Store) :
    (seen ids : List String) → (nodes : List GraphNode) → (later : List String) → Prop
  /-- No identifier is left. -/
  | done (seen : List String) : Visits store seen [] [] seen
  /-- An identifier was met before. -/
  | again {id : String} {seen ids later : List String} {nodes : List GraphNode} :
    id ∈ seen → Visits store seen ids nodes later →
      Visits store seen (id :: ids) (.leaf id :: nodes) later
  /-- An identifier is looked up and not found. -/
  | unknown {id : String} {seen ids later : List String} {nodes : List GraphNode} :
    id ∉ seen → (store.takeInAll seen.reverse).lookup? id = none →
      Visits store (id :: seen) ids nodes later →
      Visits store seen (id :: ids) (.node id [] none (some .notFound) :: nodes) later
  /-- An identifier is looked up, and what its entity leads to is visited. -/
  | known {id : String} {entity : Entity} {seen middle behind ids later : List String}
    {below governing nodes : List GraphNode} :
    id ∉ seen → (store.takeInAll seen.reverse).lookup? id = some entity →
      Visits store (id :: seen) ((entity.outwardReferences (some id)).map (·.id)) below middle →
      Visits store middle entity.followedSchema.toList governing behind →
      Visits store behind ids nodes later →
      Visits store seen (id :: ids)
        (.node id (putAll [] (((entity.outwardReferences (some id)).map (·.path)).zip below))
          governing.head? entity.graphProblem :: nodes) later

namespace Visits

variable {store : Store} {seen middle later ids others : List String}
  {nodes more : List GraphNode}

/-- Visits follow one another. -/
theorem append (hfirst : Visits store seen ids nodes middle)
    (hsecond : Visits store middle others more later) :
    Visits store seen (ids ++ others) (nodes ++ more) later := by
  induction hfirst with
  | done => exact hsecond
  | again hseen _ ih => exact again hseen (ih hsecond)
  | unknown hseen hfound _ ih => exact unknown hseen hfound (ih hsecond)
  | known hseen hfound hbelow hgoverning _ _ _ ih =>
    exact known hseen hfound hbelow hgoverning (ih hsecond)

/-- The recursion has one outcome. -/
theorem unique {first second : List GraphNode} {laterFirst laterSecond : List String}
    (hfirst : Visits store seen ids first laterFirst)
    (hsecond : Visits store seen ids second laterSecond) :
    first = second ∧ laterFirst = laterSecond := by
  induction hfirst generalizing second laterSecond with
  | done =>
    cases hsecond
    exact ⟨rfl, rfl⟩
  | again hseen _ ih =>
    cases hsecond with
    | again _ hrest =>
      obtain ⟨rfl, rfl⟩ := ih hrest
      exact ⟨rfl, rfl⟩
    | unknown hnot | known hnot => exact absurd hseen hnot
  | unknown hseen hfound _ ih =>
    cases hsecond with
    | again hmet => exact absurd hmet hseen
    | unknown _ _ hrest =>
      obtain ⟨rfl, rfl⟩ := ih hrest
      exact ⟨rfl, rfl⟩
    | known _ hother => simp [hfound] at hother
  | known hseen hfound _ _ _ ihbelow ihgoverning ihrest =>
    cases hsecond with
    | again hmet => exact absurd hmet hseen
    | unknown _ hother => simp [hfound] at hother
    | known _ hother hbelow hgoverning hrest =>
      obtain rfl := Option.some.inj (hfound.symm.trans hother)
      obtain ⟨rfl, rfl⟩ := ihbelow hbelow
      obtain ⟨rfl, rfl⟩ := ihgoverning hgoverning
      obtain ⟨rfl, rfl⟩ := ihrest hrest
      exact ⟨rfl, rfl⟩

/-- There is a node for each identifier. -/
theorem length_eq (h : Visits store seen ids nodes later) : nodes.length = ids.length := by
  induction h with
  | done => rfl
  | again _ _ ih | unknown _ _ _ ih | known _ _ _ _ _ _ _ ih =>
    rw [List.length_cons, List.length_cons, ih]

/-- What was met stays met. -/
theorem subset (h : Visits store seen ids nodes later) : seen ⊆ later := by
  induction h with
  | done => exact List.Subset.refl _
  | again _ _ ih => exact ih
  | unknown _ _ _ ih => exact List.Subset.trans (List.subset_cons_self _ _) ih
  | known _ _ _ _ _ ihbelow ihgoverning ihrest =>
    have hbelow := List.Subset.trans (List.subset_cons_self _ _) ihbelow
    exact List.Subset.trans hbelow (List.Subset.trans ihgoverning ihrest)

/-- Every identifier that is visited is met. -/
theorem ids_subset (h : Visits store seen ids nodes later) : ids ⊆ later := by
  induction h with
  | done => exact List.nil_subset _
  | again hseen hrest ih => exact List.cons_subset.2 ⟨hrest.subset hseen, ih⟩
  | unknown _ _ hrest ih => exact List.cons_subset.2 ⟨hrest.subset List.mem_cons_self, ih⟩
  | known _ _ hbelow hgoverning hrest _ _ ih =>
    have hmet := hbelow.subset List.mem_cons_self
    exact List.cons_subset.2 ⟨hrest.subset (hgoverning.subset hmet), ih⟩

/-- No identifier is met anew twice. -/
theorem nodup (h : Visits store seen ids nodes later) (hseen : seen.Nodup) : later.Nodup := by
  induction h with
  | done => exact hseen
  | again _ _ ih => exact ih hseen
  | unknown hnot _ _ ih => exact ih (List.nodup_cons.2 ⟨hnot, hseen⟩)
  | known hnot _ _ _ _ ihbelow ihgoverning ihrest =>
    exact ihrest (ihgoverning (ihbelow (List.nodup_cons.2 ⟨hnot, hseen⟩)))

end Visits

/-! ## Expansions with enough fuel -/

section Expansion

variable {store : Store} {known : List String}

/-- The expansion of an identifier below a depth is a recursion that comes to its end. -/
def VisitsBelow (store : Store) (known : List String) (fuel : Nat) : Prop :=
  ∀ id seen, unmet known seen < fuel →
    Visits store seen [id] [(expand store.lookup? fuel id seen).1]
      (expand store.lookup? fuel id seen).2

/-- References are visited one after another, and their nodes are put in under their paths. -/
theorem expandReferences_visits {fuel : Nat} (hbelow : VisitsBelow store known fuel)
    (refs : List Reference) (done : List (String × GraphNode)) (seen : List String)
    (hfuel : unmet known seen < fuel) :
    ∃ targets, (expandReferences store.lookup? fuel refs done seen).1 =
        putAll done ((refs.map (·.path)).zip targets) ∧
      Visits store seen (refs.map (·.id)) targets
        (expandReferences store.lookup? fuel refs done seen).2 := by
  induction refs generalizing done seen with
  | nil =>
    rw [expandReferences]
    exact ⟨[], rfl, .done seen⟩
  | cons ref rest ih =>
    have htarget := hbelow ref.id seen hfuel
    have hfuel' := Nat.lt_of_le_of_lt (unmet_le_of_subset htarget.subset) hfuel
    obtain ⟨targets, hdone, hrest⟩ := ih
      (put ref.path (expand store.lookup? fuel ref.id seen).1 done)
      (expand store.lookup? fuel ref.id seen).2 hfuel'
    rw [expandReferences]
    exact ⟨_ :: targets, hdone, htarget.append hrest⟩

/-- An expansion with enough fuel is a recursion that comes to its end. -/
theorem expand_visits (hknown : ∀ id entity, store.lookup? id = some entity → id ∈ known)
    (fuel : Nat) : VisitsBelow store known fuel := by
  induction fuel with
  | zero => exact fun _ _ hfuel => absurd hfuel (Nat.not_lt_zero _)
  | succ fuel ih =>
    intro id seen hfuel
    by_cases hseen : id ∈ seen
    · rw [expand, if_pos hseen]
      exact .again hseen (.done seen)
    · cases hfound : store.lookup? id with
      | none =>
        rw [expand, if_neg hseen, hfound]
        exact .unknown hseen (by rw [Store.lookup?_takeInAll, hfound]) (.done _)
      | some entity =>
        have hfuel' : unmet known (id :: seen) < fuel := by
          have := unmet_cons_lt (hknown id entity hfound) hseen
          omega
        obtain ⟨targets, hdone, hbelow⟩ :=
          expandReferences_visits ih (entity.outwardReferences (some id)) [] (id :: seen) hfuel'
        have hanswer : (store.takeInAll seen.reverse).lookup? id = some entity := by
          rw [Store.lookup?_takeInAll, hfound]
        -- The governing schema is visited behind the references, if it is followed.
        have hnode : ∀ governing behind,
            Visits store _ entity.followedSchema.toList governing behind →
              Visits store seen [id] [_] behind :=
          fun governing behind hgoverning =>
            .known hseen hanswer hbelow hgoverning (.done behind)
        rw [expand_known hseen hfound]
        simp only [hdone]
        cases hschema : entity.followedSchema with
        | none =>
          rw [hschema] at hnode
          exact hnode [] _ (.done _)
        | some schemaId =>
          rw [hschema] at hnode
          have hfuel'' := Nat.lt_of_le_of_lt (unmet_le_of_subset hbelow.subset) hfuel'
          exact hnode [_] _ (ih schemaId _ hfuel'')

/-- The graph of an identifier is what the recursion builds. -/
theorem relationGraph_visits (store : Store) (root : String) :
    Visits store [] [root] [(relationGraph store root).value]
      (relationGraph store root).asked.reverse := by
  rw [relationGraph, List.reverse_reverse]
  exact expand_visits (fun _ _ => Store.mem_knownIds) _ root [] store.unmet_knownIds_lt

end Expansion

/-! ## The identifiers met -/

/-- A known identifier leads to where its outward references and its followed schema do. -/
theorem leadsTo_iff {lookup : Lookup} {id target : String} {entity : Entity}
    (hfound : lookup id = some entity) :
    LeadsTo lookup id target ↔ target ∈ (entity.outwardReferences (some id)).map (·.id) ∨
      target ∈ entity.followedSchema.toList := by
  simp only [LeadsTo, hfound, Option.some.injEq, exists_eq_left', entity.outwardReferences_some,
    List.mem_map, List.mem_filter, Option.mem_toList, and_assoc]

namespace Visits

variable {store : Store} {seen later ids : List String} {nodes : List GraphNode} {id : String}

/-- What is met anew can be reached from what is visited. -/
theorem reachable (h : Visits store seen ids nodes later) (hid : id ∈ later) :
    id ∈ seen ∨ ∃ start ∈ ids, Relation.ReflTransGen (LeadsTo store.lookup?) start id := by
  induction h with
  | done => exact .inl hid
  | again _ _ ih =>
    rcases ih hid with hseen | ⟨start, hstart, hreach⟩
    · exact .inl hseen
    · exact .inr ⟨start, List.mem_cons_of_mem _ hstart, hreach⟩
  | @unknown met _ _ _ _ _ _ _ ih =>
    rcases ih hid with hseen | ⟨start, hstart, hreach⟩
    · rcases List.mem_cons.1 hseen with rfl | hseen
      · exact .inr ⟨id, List.mem_cons_self, .refl⟩
      · exact .inl hseen
    · exact .inr ⟨start, List.mem_cons_of_mem _ hstart, hreach⟩
  | @known met _ _ _ _ ids _ _ _ _ _ hfound _ _ _ ihbelow ihgoverning ihrest =>
    rw [Store.lookup?_takeInAll] at hfound
    -- What is met below is reached from the identifier that is expanded.
    have hstep : ∀ start, LeadsTo store.lookup? met start →
        Relation.ReflTransGen (LeadsTo store.lookup?) start id →
        ∃ start ∈ met :: ids, Relation.ReflTransGen (LeadsTo store.lookup?) start id :=
      fun start hleads hreach => ⟨met, List.mem_cons_self, .head hleads hreach⟩
    rcases ihrest hid with hbehind | ⟨start, hstart, hreach⟩
    · rcases ihgoverning hbehind with hmiddle | ⟨start, hstart, hreach⟩
      · rcases ihbelow hmiddle with hseen | ⟨start, hstart, hreach⟩
        · rcases List.mem_cons.1 hseen with rfl | hseen
          · exact .inr ⟨id, List.mem_cons_self, .refl⟩
          · exact .inl hseen
        · exact .inr (hstep start ((leadsTo_iff hfound).2 (.inl hstart)) hreach)
      · exact .inr (hstep start ((leadsTo_iff hfound).2 (.inr hstart)) hreach)
    · exact .inr ⟨start, List.mem_cons_of_mem _ hstart, hreach⟩

/-- Whatever an identifier that is met anew leads to is met as well. -/
theorem closed (h : Visits store seen ids nodes later) (hid : id ∈ later) :
    id ∈ seen ∨ ∀ target, LeadsTo store.lookup? id target → target ∈ later := by
  induction h with
  | done => exact .inl hid
  | again _ _ ih => exact ih hid
  | unknown _ hfound _ ih =>
    rw [Store.lookup?_takeInAll] at hfound
    rcases ih hid with hseen | hclosed
    · rcases List.mem_cons.1 hseen with rfl | hseen
      · right
        rintro target ⟨entity, hentity, -⟩
        rw [hfound] at hentity
        cases hentity
      · exact .inl hseen
    · exact .inr hclosed
  | known _ hfound hbelow hgoverning hrest ihbelow ihgoverning ihrest =>
    rw [Store.lookup?_takeInAll] at hfound
    rcases ihrest hid with hbehind | hclosed
    · rcases ihgoverning hbehind with hmiddle | hclosed
      · rcases ihbelow hmiddle with hseen | hclosed
        · rcases List.mem_cons.1 hseen with rfl | hseen
          · right
            intro target hleads
            rcases (leadsTo_iff hfound).1 hleads with href | hschema
            · exact hrest.subset (hgoverning.subset (hbelow.ids_subset href))
            · exact hrest.subset (hgoverning.ids_subset hschema)
          · exact .inl hseen
        · exact .inr fun target hleads =>
            hrest.subset (hgoverning.subset (hclosed target hleads))
      · exact .inr fun target hleads => hrest.subset (hclosed target hleads)
    · exact .inr hclosed

/-- Where nothing was met before, what is met is what can be reached. -/
theorem mem_iff {root : String} (h : Visits store [] [root] nodes later) :
    id ∈ later ↔ Relation.ReflTransGen (LeadsTo store.lookup?) root id := by
  constructor
  · intro hid
    obtain hseen | ⟨start, hstart, hreach⟩ := h.reachable hid
    · exact absurd hseen List.not_mem_nil
    · rwa [List.mem_singleton.1 hstart] at hreach
  · intro hreach
    induction hreach with
    | refl => exact h.ids_subset List.mem_cons_self
    | tail _ hleads ih => exact (h.closed ih).resolve_left List.not_mem_nil _ hleads

end Visits

/-! ## The nodes that carry something -/

namespace GraphNode

/-- Whether a node is a bare leaf: it carries neither references nor a schema nor a problem. -/
def isBare : GraphNode → Bool
  | node _ [] none none => true
  | _ => false

theorem isBare_iff {root : GraphNode} : root.isBare = true ↔ root = leaf root.id := by
  constructor
  · intro h
    unfold isBare at h
    split at h
    · rfl
    · cases h
  · intro h
    rw [h]
    rfl

/-- Whether a node of an identifier carries something. -/
def carries (id : String) (root : GraphNode) : Bool :=
  decide (root.id = id) && !root.isBare

/-- Putting a node in under a path adds no more than its nodes. -/
theorem countP_nodesUnder_put (holds : GraphNode → Bool) (path : String) (target : GraphNode)
    (done : List (String × GraphNode)) :
    (nodesUnder (put path target done)).countP holds ≤
      (nodesUnder done).countP holds + target.nodes.countP holds := by
  induction done with
  | nil => simp [put, nodesUnder]
  | cons entry rest ih =>
    obtain ⟨other, old⟩ := entry
    rw [put]
    split
    · simp only [nodesUnder, List.countP_append]
      omega
    · simp only [nodesUnder, List.countP_append]
      omega

/-- Nor does putting several nodes in under their paths. -/
theorem countP_nodesUnder_putAll (holds : GraphNode → Bool)
    (done extra : List (String × GraphNode)) :
    (nodesUnder (putAll done extra)).countP holds ≤
      (nodesUnder done).countP holds + (nodesUnder extra).countP holds := by
  induction extra generalizing done with
  | nil => exact Nat.le_add_right _ _
  | cons entry rest ih =>
    have hrest := ih (put entry.1 entry.2 done)
    have hput := countP_nodesUnder_put holds entry.1 entry.2 done
    rw [putAll, List.foldl_cons, ← putAll]
    simp only [nodesUnder, List.countP_append]
    omega

/-- A node that is put together of nodes below carries something for itself, and otherwise no more
than they do. -/
theorem countP_carries_node (id met : String) (paths : List String)
    (below governing : List GraphNode) (wrong : Option GraphProblem)
    (hpaths : below.length ≤ paths.length) :
    (node met (putAll [] (paths.zip below)) governing.head? wrong).nodes.countP (·.carries id) ≤
      [met].count id + (below.flatMap nodes).countP (·.carries id) +
        (governing.flatMap nodes).countP (·.carries id) := by
  generalize hroot : node met (putAll [] (paths.zip below)) governing.head? wrong = root
  have hself : (if root.carries id then 1 else 0) ≤ [met].count id := by
    by_cases hid : met = id
    · rw [hid, List.count_singleton_self]
      split
      · exact Nat.le_refl 1
      · exact Nat.zero_le 1
    · simp [carries, ← hroot, hid]
  have hreferences : (root.references.flatMap fun entry => entry.2.nodes).countP (·.carries id) ≤
      (below.flatMap nodes).countP (·.carries id) := by
    have hput := countP_nodesUnder_putAll (·.carries id) [] (paths.zip below)
    rw [nodesUnder_eq_flatMap (paths.zip below), ← List.flatMap_map, List.map_snd_zip hpaths,
      nodesUnder, List.countP_nil, Nat.zero_add] at hput
    rwa [← hroot, references_node, ← nodesUnder_eq_flatMap]
  have hschema : (root.schema.toList.flatMap nodes).countP (·.carries id) ≤
      (governing.flatMap nodes).countP (·.carries id) := by
    rw [← hroot, schema_node]
    cases governing with
    | nil => exact Nat.le_refl _
    | cons schema rest =>
      simp only [List.head?_cons, Option.toList_some, List.flatMap_cons, List.flatMap_nil,
        List.append_nil, List.countP_append]
      exact Nat.le_add_right _ _
  rw [nodes_eq, List.countP_cons, children, List.flatMap_append, List.countP_append,
    List.flatMap_map]
  omega

end GraphNode

namespace Visits

variable {store : Store} {seen later ids : List String} {nodes : List GraphNode}

/-- A node of an identifier that carries something belongs to an identifier newly met, and there is
no second one: such nodes and the times that the identifier was met before are together no more than
the times that it was met in the end. -/
theorem count_le (h : Visits store seen ids nodes later) (id : String) :
    seen.count id + (nodes.flatMap GraphNode.nodes).countP (·.carries id) ≤ later.count id := by
  have hcons : ∀ (met : String) (list : List String),
      (met :: list).count id = [met].count id + list.count id := by
    intro met list
    rw [← List.count_append, List.singleton_append]
  induction h with
  | done => simp
  | @again met _ _ _ _ _ _ ih =>
    have hleaf : (GraphNode.leaf met).carries id = false := by
      simp [GraphNode.carries, GraphNode.isBare_iff]
    simpa [hleaf] using ih
  | @unknown met seen _ _ _ _ _ _ ih =>
    have hnode := GraphNode.countP_carries_node id met [] [] [] (some .notFound) (Nat.le_refl 0)
    rw [hcons] at ih
    rw [List.flatMap_cons, List.countP_append]
    simp only [List.zip_nil_left, putAll, List.foldl_nil, List.head?_nil, List.flatMap_nil,
      List.countP_nil, Nat.add_zero] at hnode
    omega
  | @known met entity _ _ _ _ _ below governing _ _ _ hbelow _ _ ihbelow ihgoverning ihrest =>
    have hlength : below.length ≤ ((entity.outwardReferences (some met)).map (·.path)).length := by
      rw [hbelow.length_eq, List.length_map, List.length_map]
    have hnode := GraphNode.countP_carries_node id met _ below governing entity.graphProblem hlength
    rw [hcons] at ihbelow
    rw [List.flatMap_cons, List.countP_append]
    omega

end Visits

/-- Where no identifier has two nodes that carry something, of any two nodes of one identifier one
is a bare leaf. -/
theorem GraphNode.pairwise_leaf {nodes : List GraphNode}
    (h : ∀ id, nodes.countP (·.carries id) ≤ 1) :
    nodes.Pairwise fun first second =>
      first.id = second.id → first = .leaf first.id ∨ second = .leaf second.id := by
  induction nodes with
  | nil => exact .nil
  | cons first rest ih =>
    refine List.pairwise_cons.2 ⟨?_, ih fun id => Nat.le_trans (by simp [List.countP_cons]) (h id)⟩
    intro second hsecond hid
    by_contra hleaf
    rw [not_or, ← isBare_iff, ← isBare_iff] at hleaf
    have hfirst : first.carries first.id = true := by simp [carries, hleaf.1]
    have hcarries : second.carries first.id = true := by simp [carries, hid, hleaf.2]
    have hpos : 0 < rest.countP (·.carries first.id) := List.countP_pos_iff.2 ⟨_, hsecond, hcarries⟩
    have hcount := h first.id
    rw [List.countP_cons, if_pos hfirst] at hcount
    omega

/-! ## The main statement -/

/-- For every identifier and whatever leads where in a store, the recursion comes to an end and has
the graph as its only outcome.  Of any two nodes of one identifier in the graph, one is a bare leaf.
The identifiers that are looked up, one for each expansion, are those that can be reached, each of
them once; so there are as many expansions as identifiers that can be reached. -/
theorem relationGraph_terminates (store : Store) (root : String) :
    Visits store [] [root] [(relationGraph store root).value]
        (relationGraph store root).asked.reverse ∧
      (∀ nodes later, Visits store [] [root] nodes later →
        nodes = [(relationGraph store root).value] ∧
          later = (relationGraph store root).asked.reverse) ∧
      ((relationGraph store root).value.nodes.Pairwise fun first second =>
        first.id = second.id → first = .leaf first.id ∨ second = .leaf second.id) ∧
      (relationGraph store root).asked.Nodup ∧
      {id | Relation.ReflTransGen (LeadsTo store.lookup?) root id}.Finite ∧
      (relationGraph store root).asked.length =
        {id | Relation.ReflTransGen (LeadsTo store.lookup?) root id}.ncard := by
  have hvisits := relationGraph_visits store root
  have hnodup : (relationGraph store root).asked.Nodup :=
    List.nodup_reverse.1 (hvisits.nodup List.nodup_nil)
  have hreached : {id | Relation.ReflTransGen (LeadsTo store.lookup?) root id} =
      (relationGraph store root).asked.toFinset := by
    ext id
    rw [Set.mem_ofPred_eq, ← hvisits.mem_iff, List.mem_reverse, Finset.mem_coe, List.mem_toFinset]
  refine ⟨hvisits, fun _ _ h => h.unique hvisits, ?_, hnodup, ?_, ?_⟩
  · apply GraphNode.pairwise_leaf
    intro id
    have hcount := hvisits.count_le id
    have hone := List.nodup_iff_count_le_one.1 (List.nodup_reverse.2 hnodup) id
    rw [List.flatMap_singleton] at hcount
    omega
  · rw [hreached]
    exact Finset.finite_toSet _
  · rw [hreached, Set.ncard_coe_finset, List.toFinset_card_of_nodup hnodup]

end TypeRegistry
