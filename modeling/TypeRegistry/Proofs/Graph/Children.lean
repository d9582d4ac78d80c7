import Mathlib.Data.List.Perm.Subperm
import TypeRegistry.Proofs.Entity.ReferencePaths
import TypeRegistry.Proofs.Graph.Completeness
import TypeRegistry.Proofs.Store.References

/-!
# Children of a node

Where an identifier is met first, it is expanded to a node that has its children under the paths of
the references.  A path can have one child only: of references at one path the last one has its
child there, and the others have none.  So a node has a child for every followed reference exactly
if no two of them stand at one path, and they do not where the names in the document are plain.

Main results:

- Theorem `length_putAll_nil_iff`: entries come in without loss exactly if no name occurs twice.
- Theorem `referredIds_expand`: what the children of a node are.
- Theorem `children_of_references`: texts at different locations have different paths where names
  are plain, and a node has one child for each followed reference exactly if their paths differ.
- Theorem `children_of_pointedOrder`: two references at one path, and a graph with one child.
-/

namespace TypeRegistry

open Dictionary

/-! ## Entries under paths -/

namespace Dictionary

variable {α : Type}

/-- Entries come in without loss exactly if no name occurs twice in them. -/
theorem length_putAll_nil_iff (extra : Dictionary α) :
    (putAll [] extra).length = extra.length ↔ (keys extra).Nodup := by
  constructor
  · intro hlength
    have hnodup : (keys (putAll [] extra)).Nodup := nodup_keys_putAll List.nodup_nil
    have hsubset : keys (putAll [] extra) ⊆ keys extra := by
      intro name hname
      exact (mem_keys_putAll.1 hname).resolve_left List.not_mem_nil
    have hsame : (keys extra).length ≤ (keys (putAll [] extra)).length := by
      simpa only [keys, List.length_map] using Nat.le_of_eq hlength.symm
    exact ((List.subperm_of_subset hnodup hsubset).perm_of_length_le hsame).nodup_iff.1 hnodup
  · intro hnodup
    rw [putAll_nil_of_nodup hnodup]

end Dictionary

/-! ## What a node refers to -/

/-- The identifiers of the children under the paths of the references. -/
def GraphNode.referredIds (node : GraphNode) : Dictionary String :=
  node.references.map fun entry => (entry.1, entry.2.id)

/-- The identifiers that an entity refers to and that are followed, under the paths of the
references. -/
def Entity.followedIds (entity : Entity) (id : String) : Dictionary String :=
  (entity.references.filter (·.isFollowed id)).map fun ref => (ref.path, ref.id)

section Expansion

variable {lookup : Lookup}

/-- The node of an identifier has the identifier. -/
theorem id_expand (fuel : Nat) (id : String) (seen : List String) :
    (expand lookup fuel id seen).1.id = id := by
  cases fuel with
  | zero => rw [expand, GraphNode.id_leaf]
  | succ fuel =>
    by_cases hseen : id ∈ seen
    · rw [expand, if_pos hseen, GraphNode.id_leaf]
    · cases hfound : lookup id with
      | none => rw [expand, if_neg hseen, hfound, GraphNode.id_node]
      | some entity =>
        rw [expand_known hseen hfound]
        cases entity.followedSchema <;> rfl

/-- The nodes of references are put under their paths, one after the other. -/
theorem mapIds_expandReferences (fuel : Nat) (refs : List Reference)
    (done : List (String × GraphNode)) (seen : List String) :
    (expandReferences lookup fuel refs done seen).1.map (fun entry => (entry.1, entry.2.id)) =
      putAll (done.map fun entry => (entry.1, entry.2.id))
        (refs.map fun ref => (ref.path, ref.id)) := by
  induction refs generalizing done seen with
  | nil => rw [expandReferences]; rfl
  | cons ref rest ih =>
    rw [expandReferences, ih, mapValues_put fun _ => GraphNode.id, id_expand, List.map_cons,
      putAll_cons]

/-- The children of a node that is built when its identifier is met first: those of the followed
references under their paths, a later one in the place of an earlier one at the same path. -/
theorem referredIds_expand {id : String} {entity : Entity} {seen : List String}
    (hfound : lookup id = some entity) (hseen : id ∉ seen) (fuel : Nat) :
    (expand lookup (fuel + 1) id seen).1.referredIds = putAll [] (entity.followedIds id) := by
  have hreferences : (expand lookup (fuel + 1) id seen).1.references =
      (expandReferences lookup fuel (entity.outwardReferences (some id)) [] (id :: seen)).1 := by
    rw [expand_known hseen hfound]
    cases entity.followedSchema <;> rfl
  rw [GraphNode.referredIds, hreferences, mapIds_expandReferences, entity.outwardReferences_some]
  rfl

end Expansion

/-- No two references of an entity in a store of documents stand at one path if the names in its
content are plain. -/
theorem Store.IsOfDocuments.nodup_paths {store : Store} (h : store.IsOfDocuments) {id : String}
    {entity : Entity} (hfound : store.lookup? id = some entity)
    (hwell : entity.content.WellFormed) (hplain : entity.content.HasPlainNames) :
    (entity.references.map (·.path)).Nodup := by
  obtain ⟨-, ⟨names, origin, document, rfl⟩ | ⟨typeId, identifier, schema, -, rfl⟩⟩ :=
    h.of_lookup? hfound
  · exact (Reference.ofDocument_eq_occurrences hwell hplain).2
  · exact List.nodup_nil

/-- In an object with plain names the texts that hold identifiers make references, at different
locations with different paths.  The node of an identifier that is met first has the followed
references of its entity under their paths, the last one at each path.  It has as many children as
there are such references exactly if these stand at different paths; and in a store of documents the
references of an entity whose content has plain names are all there, in their order. -/
theorem children_of_references (members : Json.Members) (store : Store) :
    ((Json.obj members).WellFormed → (Json.obj members).HasPlainNames →
      ∀ location s ref, (Json.obj members).at? location = some (.str s) →
        Reference.ofString? (locationPath "" location) s = some ref →
        ref ∈ Reference.ofDocument (.obj members) ∧
        ∀ other t another, (Json.obj members).at? other = some (.str t) →
          Reference.ofString? (locationPath "" other) t = some another → location ≠ other →
          ref.path ≠ another.path) ∧
    ∀ id entity fuel seen, store.lookup? id = some entity → id ∉ seen →
      (expand store.lookup? (fuel + 1) id seen).1.referredIds =
        putAll [] (entity.followedIds id) ∧
      ((expand store.lookup? (fuel + 1) id seen).1.references.length =
          (entity.followedIds id).length ↔ (keys (entity.followedIds id)).Nodup) ∧
      (store.IsOfDocuments → entity.content.WellFormed → entity.content.HasPlainNames →
        (expand store.lookup? (fuel + 1) id seen).1.referredIds = entity.followedIds id) := by
  constructor
  · intro hwell hplain location s ref hat href
    refine ⟨(Reference.mem_ofDocument_iff hwell).2 ⟨location, s, hat, href⟩, ?_⟩
    intro other t another hother hanother hne
    exact Reference.path_ne_of_location_ne hwell hplain hat hother hne href hanother
  · intro id entity fuel seen hfound hseen
    have hreferred := referredIds_expand hfound hseen fuel
    refine ⟨hreferred, ?_, ?_⟩
    · rw [← length_putAll_nil_iff, ← hreferred, GraphNode.referredIds, List.length_map]
    · intro hstore hwell hplain
      have hpaths : (keys (entity.followedIds id)).Nodup := by
        have hkeys : keys (entity.followedIds id) =
            (entity.references.filter (·.isFollowed id)).map (·.path) := List.map_map
        rw [hkeys]
        exact (hstore.nodup_paths hfound hwell hplain).sublist (List.filter_sublist.map _)
      exact hreferred.trans (putAll_nil_of_nodup hpaths)

/-- An order of an item, with a gift. -/
def giftOrder : Json.Members :=
  [("id", .str "gts.acme.shop.cart.order.v1~"),
    ("lines", .obj [("item", .str "gts.acme.shop.cart.item.v1~"),
      ("gift", .str "gts.acme.shop.base.gift.v1~")])]

/-- A store in which the order is registered. -/
def giftOrderStore : Store :=
  (Store.ofReader none false).run ([.obj giftOrder].map .ofDocument)

/-- The item and the gift have different paths, and the order has a child for both. -/
theorem children_of_references_giftOrder :
    ⟨"gts.acme.shop.cart.item.v1~", "lines.item"⟩ ∈ Reference.ofDocument (.obj giftOrder) ∧
    "lines.item" ≠ "lines.gift" ∧
    (relationGraph giftOrderStore "gts.acme.shop.cart.order.v1~").value.referredIds =
      [("lines.item", "gts.acme.shop.cart.item.v1~"),
        ("lines.gift", "gts.acme.shop.base.gift.v1~")] := by
  have hwell : (Json.obj giftOrder).WellFormed := by
    simp [giftOrder, Json.WellFormed, Json.WellFormedMembers, keys]
  have hplain : (Json.obj giftOrder).HasPlainNames := by decide +kernel
  have hitem : Reference.ofString? (locationPath "" [.name "lines", .name "item"])
      "gts.acme.shop.cart.item.v1~" = some ⟨"gts.acme.shop.cart.item.v1~", "lines.item"⟩ := by
    decide +kernel
  have hgift : Reference.ofString? (locationPath "" [.name "lines", .name "gift"])
      "gts.acme.shop.base.gift.v1~" = some ⟨"gts.acme.shop.base.gift.v1~", "lines.gift"⟩ := by
    decide +kernel
  have hstore : giftOrderStore.IsOfDocuments :=
    Store.isOfDocuments_run_ofDocument false [.obj giftOrder]
  obtain ⟨hpaths, hchildren⟩ := children_of_references giftOrder giftOrderStore
  obtain ⟨hmem, hdifferent⟩ := hpaths hwell hplain _ _ _ rfl hitem
  refine ⟨hmem, hdifferent [.name "lines", .name "gift"] _ _ rfl hgift (by decide), ?_⟩
  have hfound : giftOrderStore.lookup? "gts.acme.shop.cart.order.v1~" =
      some (Entity.ofContent {} none (.obj giftOrder)) := by
    rfl
  have hnode := (hchildren "gts.acme.shop.cart.order.v1~" _
    (giftOrderStore.capacity + 1) [] hfound List.not_mem_nil).2.2 hstore hwell hplain
  have hfollowed : (Entity.ofContent {} none (.obj giftOrder)).followedIds
      "gts.acme.shop.cart.order.v1~" = [("lines.item", "gts.acme.shop.cart.item.v1~"),
        ("lines.gift", "gts.acme.shop.base.gift.v1~")] := by
    decide +kernel
  rw [hfollowed] at hnode
  exact hnode

/-- An order of an item under a name with a point, and of a gift at the same path. -/
def pointedOrder : Json.Members :=
  [("id", .str "gts.acme.shop.cart.order.v1~"),
    ("lines.item", .str "gts.acme.shop.cart.item.v1~"),
    ("lines", .obj [("item", .str "gts.acme.shop.base.gift.v1~")])]

/-- A store in which this order is registered. -/
def pointedOrderStore : Store :=
  (Store.ofReader none false).run ([.obj pointedOrder].map .ofDocument)

/-- The item and the gift stand at different locations with one path, and the order has a child for
the gift only. -/
theorem children_of_pointedOrder :
    Reference.ofDocument (.obj pointedOrder) =
      [⟨"gts.acme.shop.cart.order.v1~", "id"⟩, ⟨"gts.acme.shop.cart.item.v1~", "lines.item"⟩,
        ⟨"gts.acme.shop.base.gift.v1~", "lines.item"⟩] ∧
    (relationGraph pointedOrderStore "gts.acme.shop.cart.order.v1~").value.referredIds =
      [("lines.item", "gts.acme.shop.base.gift.v1~")] ∧
    ¬ ∀ members, (Json.obj members).WellFormed →
      ∀ location s ref, (Json.obj members).at? location = some (.str s) →
        Reference.ofString? (locationPath "" location) s = some ref →
        ∀ other t another, (Json.obj members).at? other = some (.str t) →
          Reference.ofString? (locationPath "" other) t = some another → location ≠ other →
          ref.path ≠ another.path := by
  refine ⟨by decide +kernel, ?_, ?_⟩
  · have hfound : pointedOrderStore.lookup? "gts.acme.shop.cart.order.v1~" =
        some (Entity.ofContent {} none (.obj pointedOrder)) := by
      rfl
    exact (referredIds_expand hfound List.not_mem_nil _).trans (by decide +kernel)
  · intro hdifferent
    have hwell : (Json.obj pointedOrder).WellFormed := by
      simp [pointedOrder, Json.WellFormed, Json.WellFormedMembers, keys]
    have hitem : Reference.ofString? (locationPath "" [.name "lines.item"])
        "gts.acme.shop.cart.item.v1~" = some ⟨"gts.acme.shop.cart.item.v1~", "lines.item"⟩ := by
      decide +kernel
    have hgift : Reference.ofString? (locationPath "" [.name "lines", .name "item"])
        "gts.acme.shop.base.gift.v1~" = some ⟨"gts.acme.shop.base.gift.v1~", "lines.item"⟩ := by
      decide +kernel
    exact hdifferent pointedOrder hwell [.name "lines.item"] _ _ rfl hitem
      [.name "lines", .name "item"] _ _ rfl hgift (by decide) rfl

end TypeRegistry
