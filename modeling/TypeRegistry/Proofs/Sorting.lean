import Mathlib.Data.List.Sort
import Mathlib.Data.String.Basic
import TypeRegistry.Proofs.Lookup
import TypeRegistry.Text.Split

/-!
# Entries and strings in ascending order

Sorting by names keeps the entries and puts them in ascending order.  Where no name occurs twice the
order of the entries before does not matter for the outcome, and values may be changed before or
after.  Strings that are sorted, each once, are determined by which strings there are.

Main results:

- Theorem `sortByName_perm`: sorting keeps the entries.
- Theorems `sortByName_pairwise`, `sortByName_pairwise_lt`: the names ascend, strictly if none
  occurs twice.
- Theorem `sortByName_eq_iff_perm`: sorted entries are the same exactly if the entries are, in
  whatever order.
- Theorem `sortByName_mapValues`: values may be changed before sorting or after it.
- Theorem `sortedDistinct_congr`: the order and the repetitions of strings do not matter to sorting
  them, each once.
-/

namespace TypeRegistry

namespace Dictionary

variable {α β : Type}

/-- An insertion adds the entry. -/
theorem insertByName_perm (entry : String × α) (entries : Dictionary α) :
    (insertByName entry entries).Perm (entry :: entries) := by
  induction entries with
  | nil => exact List.Perm.refl _
  | cons other rest ih =>
    rw [insertByName]
    split
    · exact List.Perm.refl _
    · exact (ih.cons other).trans (List.Perm.swap entry other rest)

/-- Sorting keeps the entries. -/
theorem sortByName_perm (entries : Dictionary α) : (sortByName entries).Perm entries := by
  have hfold (sorted : Dictionary α) :
      (entries.foldl (fun sorted entry => insertByName entry sorted) sorted).Perm
        (entries ++ sorted) := by
    induction entries generalizing sorted with
    | nil => exact List.Perm.refl _
    | cons entry rest ih =>
      rw [List.foldl_cons]
      exact (ih (insertByName entry sorted)).trans
        (((insertByName_perm entry sorted).append_left rest).trans List.perm_middle)
  simpa [sortByName] using hfold []

/-- An insertion keeps ascending names. -/
theorem insertByName_pairwise (entry : String × α) {entries : Dictionary α}
    (h : entries.Pairwise fun a b => a.1 ≤ b.1) :
    (insertByName entry entries).Pairwise fun a b => a.1 ≤ b.1 := by
  induction entries with
  | nil => exact List.pairwise_singleton _ _
  | cons other rest ih =>
    obtain ⟨hother, hrest⟩ := List.pairwise_cons.1 h
    rw [insertByName]
    split
    next hless =>
      refine List.pairwise_cons.2 ⟨fun later hlater => ?_, h⟩
      rcases List.mem_cons.1 hlater with rfl | hlater
      · exact hless.le
      · exact hless.le.trans (hother later hlater)
    next hnot =>
      refine List.pairwise_cons.2 ⟨fun later hlater => ?_, ih hrest⟩
      rcases List.mem_cons.1 ((insertByName_perm entry rest).mem_iff.1 hlater) with rfl | hlater
      · exact not_lt.1 hnot
      · exact hother later hlater

/-- The names of sorted entries ascend. -/
theorem sortByName_pairwise (entries : Dictionary α) :
    (sortByName entries).Pairwise fun a b => a.1 ≤ b.1 := by
  have hfold (sorted : Dictionary α) (h : sorted.Pairwise fun a b => a.1 ≤ b.1) :
      (entries.foldl (fun sorted entry => insertByName entry sorted) sorted).Pairwise
        fun a b => a.1 ≤ b.1 := by
    induction entries generalizing sorted with
    | nil => exact h
    | cons entry rest ih => exact ih _ (insertByName_pairwise entry h)
  exact hfold [] List.Pairwise.nil

/-- Where no name occurs twice, the names of sorted entries strictly ascend. -/
theorem sortByName_pairwise_lt {entries : Dictionary α} (hnodup : (keys entries).Nodup) :
    (sortByName entries).Pairwise fun a b => a.1 < b.1 := by
  have hsorted : (keys (sortByName entries)).Nodup :=
    ((sortByName_perm entries).map Prod.fst).nodup_iff.2 hnodup
  refine List.Pairwise.imp₂ ?_ (sortByName_pairwise entries) (List.pairwise_map.1 hsorted)
  exact fun _ _ hle hne => lt_of_le_of_ne hle hne

/-- Where no name occurs twice, sorted entries are the same exactly if the entries are, in whatever
order. -/
theorem sortByName_eq_iff_perm {entries others : Dictionary α} (hnodup : (keys entries).Nodup) :
    sortByName entries = sortByName others ↔ entries.Perm others := by
  constructor
  · intro h
    exact (sortByName_perm entries).symm.trans (h ▸ sortByName_perm others)
  · intro h
    have hsorted : (sortByName entries).Perm (sortByName others) :=
      (sortByName_perm entries).trans (h.trans (sortByName_perm others).symm)
    refine hsorted.eq_of_pairwise ?_ (sortByName_pairwise entries) (sortByName_pairwise others)
    -- Entries of one name are one entry.
    rintro ⟨name, value⟩ ⟨key, found⟩ hvalue hfound hle hge
    obtain rfl : name = key := hle.antisymm hge
    have hvalue := (sortByName_perm entries).mem_iff.1 hvalue
    have hfound := h.mem_iff.2 ((sortByName_perm others).mem_iff.1 hfound)
    rw [← find?_eq_some_iff_mem hnodup] at hvalue hfound
    rw [Option.some.inj (hvalue.symm.trans hfound)]

/-- Values may be changed before sorting or after it. -/
theorem sortByName_mapValues (change : String → α → β) (entries : Dictionary α) :
    sortByName (entries.map fun entry => (entry.1, change entry.1 entry.2)) =
      (sortByName entries).map fun entry => (entry.1, change entry.1 entry.2) := by
  have hinsert (entry : String × α) (entries : Dictionary α) :
      insertByName (entry.1, change entry.1 entry.2)
          (entries.map fun entry => (entry.1, change entry.1 entry.2)) =
        (insertByName entry entries).map fun entry => (entry.1, change entry.1 entry.2) := by
    induction entries with
    | nil => rfl
    | cons other rest ih =>
      rw [List.map_cons, insertByName, insertByName]
      split
      · rfl
      · rw [ih, List.map_cons]
  have hfold (sorted : Dictionary α) :
      (entries.map fun entry => (entry.1, change entry.1 entry.2)).foldl
          (fun sorted entry => insertByName entry sorted)
          (sorted.map fun entry => (entry.1, change entry.1 entry.2)) =
        (entries.foldl (fun sorted entry => insertByName entry sorted) sorted).map
          fun entry => (entry.1, change entry.1 entry.2) := by
    induction entries generalizing sorted with
    | nil => rfl
    | cons entry rest ih => rw [List.map_cons, List.foldl_cons, List.foldl_cons, hinsert, ih]
  exact hfold []

end Dictionary

namespace Text

/-! ## Strings, each once -/

/-- An insertion keeps strings strictly ascending. -/
theorem insertDistinct_pairwise (s : String) {strings : List String}
    (h : strings.Pairwise (· < ·)) : (insertDistinct s strings).Pairwise (· < ·) := by
  induction strings with
  | nil => exact List.pairwise_singleton _ _
  | cons first rest ih =>
    obtain ⟨hfirst, hrest⟩ := List.pairwise_cons.1 h
    rw [insertDistinct]
    split
    next => exact h
    next hne =>
      split
      next hless =>
        refine List.pairwise_cons.2 ⟨fun later hlater => ?_, h⟩
        rcases List.mem_cons.1 hlater with rfl | hlater
        · exact hless
        · exact hless.trans (hfirst later hlater)
      next hnot =>
        refine List.pairwise_cons.2 ⟨fun later hlater => ?_, ih hrest⟩
        rcases mem_insertDistinct.1 hlater with rfl | hlater
        · exact lt_of_le_of_ne (not_lt.1 hnot) (Ne.symm hne)
        · exact hfirst later hlater

/-- Sorted strings, each once, strictly ascend. -/
theorem sortedDistinct_pairwise (strings : List String) :
    (sortedDistinct strings).Pairwise (· < ·) := by
  induction strings with
  | nil => exact List.Pairwise.nil
  | cons s rest ih => exact insertDistinct_pairwise s ih

/-- The order and the repetitions of strings do not matter to sorting them, each once. -/
theorem sortedDistinct_congr {strings others : List String} (h : ∀ s, s ∈ strings ↔ s ∈ others) :
    sortedDistinct strings = sortedDistinct others := by
  refine (sortedDistinct_pairwise strings).eq_of_mem_iff (sortedDistinct_pairwise others) fun s => ?_
  rw [mem_sortedDistinct, mem_sortedDistinct, h]

end Text

end TypeRegistry
