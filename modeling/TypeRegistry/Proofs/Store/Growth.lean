import TypeRegistry.Proofs.Lookup
import TypeRegistry.Store

/-!
# What looking up does to a store

Looking an identifier up keeps what the reader has under it.  Nothing that the store holds is
touched: entities that were not held come in at the end.

Main results:

- Definition `Store.IsNews`: entities that only the reader knows of.
- Theorem `Store.takeInAll_eq`: after any look-ups the store is the one before with news at its end.
- Theorem `Store.IsNews.eq_nil`: a store without a reader gets no news.
-/

namespace TypeRegistry

open Dictionary

namespace Store

/-- The store with entities at the end. -/
def followedBy (store : Store) (found : Dictionary Entity) : Store :=
  { store with entries := store.entries ++ found }

@[simp]
theorem followedBy_nil (store : Store) : store.followedBy [] = store := by
  simp [followedBy]

@[simp]
theorem followedBy_reader (store : Store) (found : Dictionary Entity) :
    (store.followedBy found).reader = store.reader :=
  rfl

theorem followedBy_append (store : Store) (found more : Dictionary Entity) :
    store.followedBy (found ++ more) = (store.followedBy found).followedBy more := by
  simp [followedBy]

/-- Entities that a store does not hold and that its reader has, each under its identifier once. -/
structure IsNews (store : Store) (found : Dictionary Entity) : Prop where
  notHeld : ∀ entry ∈ found, has entry.1 store.entries = false
  known : ∀ entry ∈ found, store.reader.bind (·.find? entry.1) = some entry.2
  nodup : (keys found).Nodup

theorem isNews_nil (store : Store) : store.IsNews [] where
  notHeld := by simp
  known := by simp
  nodup := List.nodup_nil

/-- A store without a reader gets no news. -/
theorem IsNews.eq_nil {store : Store} {found : Dictionary Entity} (h : store.IsNews found)
    (hreader : store.reader = none) : found = [] := by
  rw [List.eq_nil_iff_forall_not_mem]
  intro entry hentry
  have hknown := h.known entry hentry
  simp [hreader] at hknown

/-- News of a store that has got news already are news together with these. -/
theorem IsNews.append {store : Store} {found more : Dictionary Entity} (hfound : store.IsNews found)
    (hmore : (store.followedBy found).IsNews more) : store.IsNews (found ++ more) := by
  have hheld : ∀ entry ∈ more,
      has entry.1 store.entries = false ∧ has entry.1 found = false := by
    intro entry hentry
    have hnot := hmore.notHeld entry hentry
    simpa [followedBy, has, find?_append, Option.isSome_or] using hnot
  constructor
  case notHeld =>
    intro entry hentry
    rcases List.mem_append.1 hentry with hentry | hentry
    · exact hfound.notHeld entry hentry
    · exact (hheld entry hentry).1
  case known =>
    intro entry hentry
    rcases List.mem_append.1 hentry with hentry | hentry
    · exact hfound.known entry hentry
    · exact hmore.known entry hentry
  case nodup => exact nodup_keys_append hfound.nodup hmore.nodup fun entry h => (hheld entry h).2

/-- News make no identifier occur twice. -/
theorem IsNews.nodup_followedBy {store : Store} {found : Dictionary Entity} (h : store.IsNews found)
    (hnodup : (keys store.entries).Nodup) : (keys (store.entries ++ found)).Nodup :=
  nodup_keys_append hnodup h.nodup h.notHeld

/-- Looking one identifier up takes in what the reader has under it, if it was not held. -/
theorem takeIn_eq (store : Store) (id : String) :
    ∃ found, store.takeIn id = store.followedBy found ∧ store.IsNews found ∧
      ∀ entry ∈ found, entry.1 = id := by
  have hnothing : ∃ found, store = store.followedBy found ∧ store.IsNews found ∧
      ∀ entry ∈ found, entry.1 = id :=
    ⟨[], (followedBy_nil store).symm, isNews_nil store, by simp⟩
  unfold takeIn
  split
  · exact hnothing
  next hheld =>
    cases hknown : store.reader.bind (·.find? id) with
    | none => exact hnothing
    | some entity =>
      refine ⟨[(id, entity)], rfl, ⟨?_, ?_, ?_⟩, by simp⟩
      · simpa using hheld
      · simpa using hknown
      · simp [keys]

/-- After any look-ups a store is the one before with news at its end, all under identifiers that
were looked up. -/
theorem takeInAll_eq (store : Store) (ids : List String) :
    ∃ found, store.takeInAll ids = store.followedBy found ∧ store.IsNews found ∧
      ∀ entry ∈ found, entry.1 ∈ ids := by
  induction ids generalizing store with
  | nil => exact ⟨[], (followedBy_nil store).symm, isNews_nil store, by simp⟩
  | cons id rest ih =>
    obtain ⟨found, hstore, hnews, hasked⟩ := takeIn_eq store id
    obtain ⟨more, hlater, hmore, haskedMore⟩ := ih (store.takeIn id)
    rw [hstore] at hlater hmore
    refine ⟨found ++ more, ?_, hnews.append hmore, ?_⟩
    · rw [followedBy_append, ← hlater, ← hstore]
      rfl
    · intro entry hentry
      rcases List.mem_append.1 hentry with hentry | hentry
      · exact hasked entry hentry ▸ List.mem_cons_self
      · exact List.mem_cons_of_mem _ (haskedMore entry hentry)

end Store

end TypeRegistry
