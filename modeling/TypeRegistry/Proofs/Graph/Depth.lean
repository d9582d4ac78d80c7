import TypeRegistry.Proofs.Graph.Completeness

/-!
# The depth of a graph of relations

The bound on the depth of an expansion is never reached: with any greater one the outcome is the
same.  So the graph of an identifier does not depend on how many entities a store can know, which
changes when it takes entities in, but only on what it answers.

Main results:

- Theorem `expand_stable`: an expansion does not change with more fuel than enough.
- Theorem `relationGraph_congr`: stores that answer alike show the same graphs.
-/

namespace TypeRegistry

variable {lookup : Lookup} {known : List String}

/-! ## What was met stays met -/

/-- What was met before references are expanded was met afterwards. -/
theorem subset_expandReferences {fuel : Nat}
    (hbelow : ∀ id seen, seen ⊆ (expand lookup fuel id seen).2) (refs : List Reference)
    (done : List (String × GraphNode)) (seen : List String) :
    seen ⊆ (expandReferences lookup fuel refs done seen).2 := by
  induction refs generalizing done seen with
  | nil =>
    rw [expandReferences]
    exact List.Subset.refl seen
  | cons ref rest ih =>
    rw [expandReferences]
    exact List.Subset.trans (hbelow ref.id seen) (ih _ _)

/-- What was met before an identifier is expanded was met afterwards. -/
theorem subset_expand (lookup : Lookup) (fuel : Nat) (id : String) (seen : List String) :
    seen ⊆ (expand lookup fuel id seen).2 := by
  induction fuel generalizing id seen with
  | zero =>
    rw [expand]
    exact List.Subset.refl seen
  | succ fuel ih =>
    by_cases hseen : id ∈ seen
    · rw [expand, if_pos hseen]
      exact List.Subset.refl seen
    · cases hfound : lookup id with
      | none =>
        rw [expand, if_neg hseen, hfound]
        exact List.subset_cons_self id seen
      | some entity =>
        have hreferences := subset_expandReferences ih (entity.outwardReferences (some id)) []
          (id :: seen)
        have hbelow := List.Subset.trans (List.subset_cons_self id seen) hreferences
        rw [expand_known hseen hfound]
        cases entity.followedSchema with
        | none => exact hbelow
        | some schemaId => exact List.Subset.trans hbelow (ih schemaId _)

/-! ## More fuel than enough -/

/-- The expansion of an identifier below a depth does not change with more fuel. -/
def StableBelow (lookup : Lookup) (known : List String) (fuel : Nat) : Prop :=
  ∀ id seen more, unmet known seen < fuel → fuel ≤ more →
    expand lookup fuel id seen = expand lookup more id seen

/-- Nor does the expansion of references. -/
theorem expandReferences_stable {fuel more : Nat} (hbelow : StableBelow lookup known fuel)
    (hmore : fuel ≤ more) (refs : List Reference) (done : List (String × GraphNode))
    (seen : List String) (hfuel : unmet known seen < fuel) :
    expandReferences lookup fuel refs done seen = expandReferences lookup more refs done seen := by
  induction refs generalizing done seen with
  | nil => rw [expandReferences, expandReferences]
  | cons ref rest ih =>
    have hseen := subset_expand lookup fuel ref.id seen
    rw [expandReferences, expandReferences, ← hbelow ref.id seen more hfuel hmore]
    exact ih _ _ (Nat.lt_of_le_of_lt (unmet_le_of_subset hseen) hfuel)

/-- An expansion does not change with more fuel than one more than the number of known identifiers
that were not met before. -/
theorem expand_stable (hknown : ∀ id entity, lookup id = some entity → id ∈ known) (fuel : Nat) :
    StableBelow lookup known fuel := by
  induction fuel with
  | zero => exact fun _ _ _ hfuel => absurd hfuel (Nat.not_lt_zero _)
  | succ fuel ih =>
    intro id seen more hfuel hmore
    obtain ⟨more, rfl⟩ := Nat.exists_eq_add_of_le' (Nat.le_trans (Nat.succ_pos fuel) hmore)
    have hmore' : fuel ≤ more := Nat.le_of_succ_le_succ hmore
    by_cases hseen : id ∈ seen
    · rw [expand, expand, if_pos hseen, if_pos hseen]
    · cases hfound : lookup id with
      | none => simp only [expand, if_neg hseen, hfound]
      | some entity =>
        have hfuel' : unmet known (id :: seen) < fuel := by
          have hunmet := unmet_cons_lt (hknown id entity hfound) hseen
          omega
        rw [expand_known hseen hfound, expand_known hseen hfound,
          ← expandReferences_stable ih hmore' _ _ _ hfuel']
        cases entity.followedSchema with
        | none => rfl
        | some schemaId =>
          have hbelow := subset_expandReferences (subset_expand lookup fuel)
            (entity.outwardReferences (some id)) [] (id :: seen)
          have hfuel'' := Nat.lt_of_le_of_lt (unmet_le_of_subset hbelow) hfuel'
          simp only [← ih schemaId _ more hfuel'' hmore']

/-- Stores that answer alike show the same graphs, whatever they hold of what they know. -/
theorem relationGraph_congr {first second : Store} (h : first.lookup? = second.lookup?)
    (id : String) : relationGraph first id = relationGraph second id := by
  have hbound : ∀ store : Store, ∀ more, store.capacity + 2 ≤ more →
      expand store.lookup? (store.capacity + 2) id [] = expand store.lookup? more id [] := by
    intro store more hmore
    refine expand_stable (fun _ _ hfound => Store.mem_knownIds hfound) _ id [] more ?_ hmore
    have hunmet : unmet store.knownIds [] ≤ store.knownIds.length := List.length_filter_le _ _
    have hcapacity := store.length_knownIds_le
    omega
  have hfirst := hbound first (max (first.capacity + 2) (second.capacity + 2)) (by omega)
  have hsecond := hbound second (max (first.capacity + 2) (second.capacity + 2)) (by omega)
  rw [relationGraph, relationGraph, hfirst, hsecond, h]

end TypeRegistry
