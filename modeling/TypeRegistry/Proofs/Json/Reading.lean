import TypeRegistry.Json.Reader
import TypeRegistry.Proofs.Json.DocumentText
import TypeRegistry.Proofs.Lookup
import TypeRegistry.Proofs.Number.Canonical

/-!
# The form of documents that are read

A document that is read from a text has no object with two members of one name, since a member that
is read takes the place of an earlier one, and its doubles are canonical, since each is built from
the decimal that is written or stands for a word.

Main results:

- Definition `IsSound`: a document of this form.
- Theorem `readsSound`: every call of the reader yields sound documents, if what it was given is
  sound.
- Theorem `isSound_of_read`: a document that a text spells is sound.
-/

namespace TypeRegistry.Json

open Dictionary

/-! ## Sound documents -/

/-- A document is sound if no object in it has two members of one name and its doubles are
canonical. -/
structure IsSound (document : Json) : Prop where
  wellFormed : document.WellFormed
  doubles : document.HasCanonicalDoubles

namespace IsSound

/-- What is inside a sound document is sound. -/
theorem inside {part document : Json} (h : document.IsSound) (hpart : Inside part document) :
    part.IsSound :=
  ⟨h.wellFormed.inside hpart, h.doubles.inside hpart⟩

/-- A scalar or string is sound, unless it is a double that is not canonical. -/
theorem leaf {document : Json} (harr : ∀ items, document ≠ .arr items)
    (hobj : ∀ members, document ≠ .obj members)
    (hdouble : ∀ x, document = .float x → x.IsCanonical) : document.IsSound := by
  refine ⟨?_, fun x hx => hdouble x ((inside_leaf_iff harr hobj).1 hx).symm⟩
  cases document with
  | arr items => exact absurd rfl (harr items)
  | obj members => exact absurd rfl (hobj members)
  | _ => trivial

/-- An array of sound items is sound. -/
theorem arr {items : List Json} (h : ∀ item ∈ items, item.IsSound) : (Json.arr items).IsSound := by
  refine ⟨(wellFormed_arr_iff items).2 fun item hitem => (h item hitem).wellFormed, ?_⟩
  intro x hx
  rcases inside_arr_iff.1 hx with heq | ⟨item, hitem, hinside⟩
  · cases heq
  · exact (h item hitem).doubles x hinside

/-- An object of sound values is sound if no two members have one name. -/
theorem obj {members : Members} (hnodup : (keys members).Nodup)
    (h : ∀ member ∈ members, member.2.IsSound) : (Json.obj members).IsSound := by
  refine ⟨(wellFormed_obj_iff members).2
    ⟨hnodup, fun member hmember => (h member hmember).wellFormed⟩, ?_⟩
  intro x hx
  rcases inside_obj_iff.1 hx with heq | ⟨member, hmember, hinside⟩
  · cases heq
  · exact (h member hmember).doubles x hinside

end IsSound

/-! ## The reader -/

/-- A number that is read is sound. -/
theorem isSound_of_readNumber {cursor behind : Cursor} {document : Json}
    (h : readNumber cursor = .ok (document, behind)) : document.IsSound := by
  unfold readNumber at h
  split at h
  next negative unsigned _ =>
    simp only [Cursor.fail] at h
    split at h
    · cases h
    · split at h
      · split at h
        · cases h
        · cases h
          exact .leaf nofun nofun nofun
      · cases h
        refine .leaf nofun nofun ?_
        rintro x ⟨⟩
        exact Double.ofDecimal_isCanonical _ _ _

/-- A word stands for a sound document. -/
theorem isSound_of_wordAt? {cs : List Char} {document : Json} {length : Nat}
    (h : wordAt? cs = some (document, length)) : document.IsSound := by
  have hwords : ∀ word ∈ words, word.2.IsSound := by
    simp only [words, List.forall_mem_cons]
    refine ⟨.leaf nofun nofun nofun, .leaf nofun nofun nofun, .leaf nofun nofun nofun, ?_, ?_, ?_,
      nofun⟩ <;>
    · refine .leaf nofun nofun ?_
      rintro x ⟨⟩
      trivial
  obtain ⟨word, hfound, heq⟩ := Option.map_eq_some_iff.1 h
  obtain ⟨rfl, -⟩ := Prod.mk.inj heq
  exact hwords word (List.mem_of_find?_eq_some hfound)

/-- With some fuel every call yields sound documents, if what it was given is sound. -/
structure ReadsSound (fuel : Nat) : Prop where
  value : ∀ {cursor behind : Cursor} {document : Json},
    readValue fuel cursor = .ok (document, behind) → document.IsSound
  items : ∀ {items : List Json} {cursor behind : Cursor} {document : Json},
    (∀ item ∈ items, item.IsSound) →
      readItems fuel items cursor = .ok (document, behind) → document.IsSound
  members : ∀ {members : Members} {cursor behind : Cursor} {document : Json},
    (keys members).Nodup → (∀ member ∈ members, member.2.IsSound) →
      readMembers fuel members cursor = .ok (document, behind) → document.IsSound

namespace ReadsSound

variable {fuel : Nat} {cursor behind : Cursor} {document : Json}

/-- A value is sound if the items and members below it are. -/
theorem value_succ (h : ReadsSound fuel)
    (hread : readValue (fuel + 1) cursor = .ok (document, behind)) : document.IsSound := by
  rw [readValue.eq_def] at hread
  simp only at hread
  split at hread
  · split at hread
    · cases hread
      exact .leaf nofun nofun nofun
    · cases hread
  · split at hread
    · cases hread
      exact .arr nofun
    · exact h.items (List.forall_mem_nil _) hread
  · split at hread
    · cases hread
      exact .obj List.nodup_nil nofun
    · exact @h.members [] _ _ _ List.nodup_nil (List.forall_mem_nil _) hread
  · split at hread
    next hword =>
      cases hread
      exact isSound_of_wordAt? hword
    next => exact isSound_of_readNumber hread

/-- The items of an array are sound if those so far and the next one are. -/
theorem items_succ (h : ReadsSound fuel) {items : List Json} (hitems : ∀ item ∈ items, item.IsSound)
    (hread : readItems (fuel + 1) items cursor = .ok (document, behind)) : document.IsSound := by
  rw [readItems] at hread
  split at hread
  next => cases hread
  next item next hitem =>
    have hmore : ∀ other ∈ item :: items, other.IsSound :=
      List.forall_mem_cons.2 ⟨h.value hitem, hitems⟩
    simp only at hread
    split at hread
    · cases hread
      exact .arr fun other hother => hmore other (List.mem_reverse.1 hother)
    · exact h.items hmore hread
    · cases hread

/-- The members of an object are sound if those so far and the next one are. -/
theorem members_succ (h : ReadsSound fuel) {members : Members} (hnodup : (keys members).Nodup)
    (hmembers : ∀ member ∈ members, member.2.IsSound)
    (hread : readMembers (fuel + 1) members cursor = .ok (document, behind)) :
    document.IsSound := by
  rw [readMembers] at hread
  split at hread
  next =>
    split at hread
    next => cases hread
    next name _ _ =>
      simp only at hread
      split at hread
      next =>
        split at hread
        next => cases hread
        next value _ hvalue =>
          have hmore : ∀ member ∈ put name value members, member.2.IsSound := by
            intro member hmember
            rcases eq_or_mem_of_mem_put hmember with rfl | hmember
            · exact h.value hvalue
            · exact hmembers member hmember
          split at hread
          · cases hread
            exact .obj (nodup_keys_put hnodup) hmore
          · exact h.members (nodup_keys_put hnodup) hmore hread
          · cases hread
      next => cases hread
  next => cases hread

end ReadsSound

/-- With any fuel every call yields sound documents. -/
theorem readsSound (fuel : Nat) : ReadsSound fuel := by
  induction fuel with
  | zero =>
    constructor
    · intro cursor behind document h
      cases h
    · intro items cursor behind document _ h
      cases h
    · intro members cursor behind document _ _ h
      cases h
  | succ fuel ih => exact ⟨ih.value_succ, ih.items_succ, ih.members_succ⟩

/-- A document that a text spells is sound. -/
theorem isSound_of_read {text : String} {document : Json} (h : read text = .ok document) :
    document.IsSound := by
  simp only [read] at h
  split at h
  next => cases h
  next =>
    split at h
    next => cases h
    next hread =>
      split at h
      next =>
        cases h
        exact (readsSound _).value hread
      next => cases h

end TypeRegistry.Json
