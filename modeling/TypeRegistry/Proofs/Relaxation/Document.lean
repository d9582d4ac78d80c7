import Mathlib.Algebra.GroupWithZero.Nat
import TypeRegistry.Proofs.Json.Parts
import TypeRegistry.Proofs.Lookup
import TypeRegistry.Schema.Breakdown
import TypeRegistry.Schema.Relax

/-!
# Relaxed documents

Relaxing an object turns its members one by one into their relaxed form and puts these together
again.  Only the member under `const` can lose its name, which becomes `type`; under every other name
but these two stands what stood there, relaxed.  Relaxing keeps the kind of every document.

Main results:

- Theorem `relax_obj_of_unpinned`: an object that pins nothing is relaxed member by member.
- Theorem `find?_relaxedMembers`: what stands under a name in a relaxed object.
- Theorem `mem_relaxedMembers`: where the members of a relaxed object come from.
- Definition `IsRelaxable`: documents in which no type is lost beside a pinned identifier.
-/

namespace TypeRegistry

open Dictionary

/-! ## Putting in and leaving out -/

namespace Dictionary

variable {α : Type}

/-- Of entries that are left out by their names, one that is put in stays if its name does. -/
theorem filter_put (keep : String → Bool) (name : String) (value : α) (entries : Dictionary α) :
    (put name value entries).filter (fun entry => keep entry.1) =
      if keep name then put name value (entries.filter fun entry => keep entry.1)
      else entries.filter fun entry => keep entry.1 := by
  induction entries with
  | nil => cases hkeep : keep name <;> simp [put, hkeep]
  | cons entry rest ih =>
    obtain ⟨key, old⟩ := entry
    by_cases hkey : key = name
    · subst hkey
      cases hkeep : keep key <;> simp [put, hkeep]
    · cases hkeep : keep name <;> cases hother : keep key <;> simp_all [put]

/-- Leaving entries out by their names goes before or after several are put in. -/
theorem filter_putAll (keep : String → Bool) (entries extra : Dictionary α) :
    (putAll entries extra).filter (fun entry => keep entry.1) =
      putAll (entries.filter fun entry => keep entry.1)
        (extra.filter fun entry => keep entry.1) := by
  induction extra generalizing entries with
  | nil => rfl
  | cons entry rest ih =>
    have hstep := ih (put entry.1 entry.2 entries)
    rw [filter_put] at hstep
    rw [List.filter_cons]
    by_cases hkeep : keep entry.1 = true
    · rw [if_pos hkeep] at hstep ⊢
      exact hstep
    · rw [if_neg hkeep] at hstep ⊢
      exact hstep

end Dictionary

namespace Json

/-! ## Members -/

/-- A member in its relaxed form. -/
def relaxedMember (member : String × Json) : String × Json :=
  if pinsIdentifier member.1 member.2 then ("type", .str "string") else (member.1, relax member.2)

/-- The members of a relaxed object. -/
def relaxedMembers (members : Members) : Members :=
  putAll [] (members.map relaxedMember)

/-- Some member pins its field to an identifier. -/
def Pins (members : Members) : Prop :=
  ∃ member ∈ members, pinsIdentifier member.1 member.2 = true

theorem relaxMembers_eq_putAll (done members : Members) :
    relaxMembers done members = putAll done (members.map relaxedMember) := by
  induction members generalizing done with
  | nil => rw [relaxMembers]; rfl
  | cons member rest ih =>
    obtain ⟨name, value⟩ := member
    rw [relaxMembers, ih, ih, List.map_cons, relaxedMember]
    split <;> rfl

@[simp]
theorem relax_obj (members : Members) : relax (.obj members) = .obj (relaxedMembers members) := by
  rw [relax, relaxMembers_eq_putAll, relaxedMembers]

@[simp]
theorem relax_arr (items : List Json) : relax (.arr items) = .arr (items.map relax) := by
  have hitems : relaxItems items = items.map relax := by
    induction items with
    | nil => rw [relaxItems, List.map_nil]
    | cons item rest ih => rw [relaxItems, ih, List.map_cons]
  rw [relax, hitems]

@[simp]
theorem relax_null : relax .null = .null := by rw [relax] <;> simp

@[simp]
theorem relax_bool (b : Bool) : relax (.bool b) = .bool b := by rw [relax] <;> simp

@[simp]
theorem relax_int (n : Int) : relax (.int n) = .int n := by rw [relax] <;> simp

@[simp]
theorem relax_float (x : Double) : relax (.float x) = .float x := by rw [relax] <;> simp

@[simp]
theorem relax_str (s : String) : relax (.str s) = .str s := by rw [relax] <;> simp

/-- Only a text under `const` pins a field. -/
theorem pinsIdentifier_eq_true {name : String} {value : Json}
    (h : pinsIdentifier name value = true) : name = "const" ∧ ∃ s, value = .str s := by
  cases value with
  | str s => exact ⟨(by simpa [pinsIdentifier] using h : _ ∧ _).1, s, rfl⟩
  | _ => simp [pinsIdentifier] at h

theorem pinsIdentifier_of_ne {name : String} (h : name ≠ "const") (value : Json) :
    pinsIdentifier name value = false := by
  rw [← Bool.not_eq_true]
  exact fun hpins => h (pinsIdentifier_eq_true hpins).1

section Members

variable {members : Members}

/-- A member that pins nothing keeps its name. -/
theorem relaxedMember_of_unpinned {member : String × Json}
    (h : pinsIdentifier member.1 member.2 = false) :
    relaxedMember member = (member.1, relax member.2) := by
  simp [relaxedMember, h]

/-- Where a member of a relaxed object comes from. -/
theorem mem_relaxedMembers {entry : String × Json} (h : entry ∈ relaxedMembers members) :
    (entry = ("type", .str "string") ∧ Pins members) ∨
      ∃ value, (entry.1, value) ∈ members ∧ pinsIdentifier entry.1 value = false ∧
        entry.2 = relax value := by
  have hmem : entry ∈ members.map relaxedMember :=
    (mem_of_mem_putAll h).resolve_left List.not_mem_nil
  obtain ⟨member, hmember, rfl⟩ := List.mem_map.1 hmem
  by_cases hpins : pinsIdentifier member.1 member.2 = true
  · left
    exact ⟨by simp [relaxedMember, hpins], member, hmember, hpins⟩
  · right
    have hunpinned : pinsIdentifier member.1 member.2 = false := by simpa using hpins
    rw [relaxedMember_of_unpinned hunpinned]
    exact ⟨member.2, hmember, hunpinned, rfl⟩

/-- An object is as empty as its relaxed form. -/
theorem relaxedMembers_eq_nil_iff : relaxedMembers members = [] ↔ members = [] := by
  constructor
  · intro h
    rw [List.eq_nil_iff_forall_not_mem]
    intro member hmember
    have hkey : (relaxedMember member).1 ∈ keys (relaxedMembers members) :=
      mem_keys_putAll.2 (.inr (List.mem_map_of_mem (List.mem_map_of_mem hmember)))
    rw [h] at hkey
    exact List.not_mem_nil hkey
  · rintro rfl
    rfl

/-- Members that pin nothing are relaxed one by one. -/
theorem relaxedMembers_of_unpinned (hnodup : (keys members).Nodup) (hpins : ¬ Pins members) :
    relaxedMembers members = members.map fun member => (member.1, relax member.2) := by
  have hmap : members.map relaxedMember =
      members.map fun member => (member.1, relax member.2) := by
    refine List.map_congr_left fun member hmember => relaxedMember_of_unpinned ?_
    rw [← Bool.not_eq_true]
    exact fun h => hpins ⟨member, hmember, h⟩
  rw [relaxedMembers, hmap]
  refine putAll_of_nodup ?_
  simpa [keys, Function.comp_def] using hnodup

/-- An object that pins nothing is relaxed member by member. -/
theorem relax_obj_of_unpinned (hnodup : (keys members).Nodup) (hpins : ¬ Pins members) :
    relax (.obj members) = .obj (members.map fun member => (member.1, relax member.2)) := by
  rw [relax_obj, relaxedMembers_of_unpinned hnodup hpins]

/-- The members of a relaxed object under names that neither pin nor take the place of what pins
are those of the object, relaxed. -/
theorem filter_relaxedMembers (hnodup : (keys members).Nodup) (keep : String → Bool)
    (hconst : keep "const" = false) (htype : keep "type" = false) :
    (relaxedMembers members).filter (fun entry => keep entry.1) =
      (members.filter fun entry => keep entry.1).map fun entry => (entry.1, relax entry.2) := by
  have hmap : (members.map relaxedMember).filter (fun entry => keep entry.1) =
      (members.filter fun entry => keep entry.1).map fun entry => (entry.1, relax entry.2) := by
    clear hnodup
    induction members with
    | nil => rfl
    | cons member rest ih =>
      by_cases hpins : pinsIdentifier member.1 member.2 = true
      · have hname := (pinsIdentifier_eq_true hpins).1
        have hrelaxed : relaxedMember member = ("type", .str "string") := by
          simp [relaxedMember, hpins]
        rw [List.map_cons, hrelaxed, List.filter_cons, List.filter_cons, hname, hconst, htype]
        exact ih
      · rw [List.map_cons, relaxedMember_of_unpinned (by simpa using hpins), List.filter_cons,
          List.filter_cons]
        by_cases hkeep : keep member.1 = true
        · rw [if_pos hkeep, if_pos hkeep, List.map_cons, ih]
        · rw [if_neg hkeep, if_neg hkeep, ih]
  rw [relaxedMembers, filter_putAll, hmap, List.filter_nil, putAll_of_nodup, List.nil_append]
  have hsub : (keys (members.filter fun entry => keep entry.1)).Nodup :=
    hnodup.sublist (List.filter_sublist.map _)
  simpa [keys, Function.comp_def] using hsub

/-- Under a name that neither pins nor takes the place of what pins stands what stood there,
relaxed. -/
theorem find?_relaxedMembers (hnodup : (keys members).Nodup) {name : String}
    (hconst : name ≠ "const") (htype : name ≠ "type") :
    find? name (relaxedMembers members) = (find? name members).map relax := by
  have hfilter := filter_relaxedMembers hnodup (fun key => key = name)
    (by simpa using Ne.symm hconst) (by simpa using Ne.symm htype)
  have hfound : ∀ entries : Members,
      find? name (entries.filter fun entry => decide (entry.1 = name)) = find? name entries := by
    intro entries
    rw [find?_filter_names fun key => decide (key = name)]
    simp
  rw [← hfound (relaxedMembers members), hfilter,
    find?_mapValues (fun _ value => relax value) name, hfound]

/-- A name other than the two is in a relaxed object if it was in the object. -/
theorem has_relaxedMembers (hnodup : (keys members).Nodup) {name : String}
    (hconst : name ≠ "const") (htype : name ≠ "type") :
    has name (relaxedMembers members) = has name members := by
  rw [has, find?_relaxedMembers hnodup hconst htype, Option.isSome_map, has]

end Members

/-! ## Kinds -/

@[simp]
theorem isObject_relax (document : Json) : document.relax.isObject = document.isObject := by
  cases document <;> simp [isObject]

@[simp]
theorem isTruth_relax (document : Json) : document.relax.isTruth = document.isTruth := by
  cases document <;> simp [isTruth]

@[simp]
theorem isInhabited_relax (document : Json) :
    document.relax.isInhabited = document.isInhabited := by
  cases document with
  | obj members =>
    rw [relax_obj, isInhabited, isInhabited, Bool.eq_iff_iff]
    simp [relaxedMembers_eq_nil_iff]
  | _ => simp [isInhabited]

/-- A list of texts is relaxed as it is. -/
theorem relax_texts (names : List String) : relax (.arr (names.map .str)) = .arr (names.map .str) := by
  simp [Function.comp_def]

/-! ## Documents that can be relaxed -/

/-- A text, or a list of texts: what can stand for types. -/
def IsTypeText (value : Json) : Prop :=
  (∃ name, value = .str name) ∨ ∃ names : List String, value = .arr (names.map .str)

theorem IsTypeText.relax_eq {value : Json} (h : value.IsTypeText) : value.relax = value := by
  rcases h with ⟨name, rfl⟩ | ⟨names, rfl⟩
  · exact relax_str name
  · exact relax_texts names

/-- A document is well formed, and beside a pinned identifier `type` is a text or a list of texts. -/
structure IsRelaxable (document : Json) : Prop where
  wellFormed : document.WellFormed
  typeText : ∀ {members : Members}, Inside (.obj members) document → Pins members →
    ∀ {value : Json}, find? "type" members = some value → value.IsTypeText

/-- What stands inside a document can be relaxed if the document can. -/
theorem IsRelaxable.inside {part document : Json} (h : document.IsRelaxable)
    (hpart : Inside part document) : part.IsRelaxable where
  wellFormed := h.wellFormed.inside hpart
  typeText hinner := h.typeText (hinner.trans hpart)

theorem IsRelaxable.member {member : String × Json} {members : Members}
    (h : (Json.obj members).IsRelaxable) (hmem : member ∈ members) : member.2.IsRelaxable :=
  h.inside (.of_member hmem)

theorem IsRelaxable.item {value : Json} {items : List Json} (h : (Json.arr items).IsRelaxable)
    (hmem : value ∈ items) : value.IsRelaxable :=
  h.inside (.of_item hmem)

theorem IsRelaxable.keys_nodup {members : Members} (h : (Json.obj members).IsRelaxable) :
    (keys members).Nodup :=
  ((wellFormed_obj_iff members).1 h.wellFormed).1

/-- Where an identifier is pinned, it is all that stands under `const`. -/
theorem IsRelaxable.pinned_of_const {members : Members} (h : (Json.obj members).IsRelaxable)
    (hpins : Pins members) {value : Json} (hvalue : ("const", value) ∈ members) :
    pinsIdentifier "const" value = true := by
  obtain ⟨⟨name, pinned⟩, hmem, hpinned⟩ := hpins
  obtain rfl := (pinsIdentifier_eq_true hpinned).1
  have hfound := (find?_eq_some_iff_mem h.keys_nodup).2 hmem
  rw [(find?_eq_some_iff_mem h.keys_nodup).2 hvalue, Option.some.injEq] at hfound
  rw [hfound]
  exact hpinned

/-! ## Counting members -/

section Counting

variable {names : List String}

/-- How much a member adds to a count of members of some names. -/
def memberCount (names : List String) (member : String × Json) : Nat :=
  (if names.contains member.1 then 1 else 0) + countNamed names member.2

theorem countNamedInMembers_eq (members : Members) :
    countNamedInMembers names members = (members.map (memberCount names)).sum := by
  induction members with
  | nil => rw [countNamedInMembers, List.map_nil, List.sum_nil]
  | cons member rest ih =>
    obtain ⟨name, value⟩ := member
    rw [countNamedInMembers, ih, List.map_cons, List.sum_cons, memberCount]

theorem countNamedInItems_eq (items : List Json) :
    countNamedInItems names items = (items.map (countNamed names)).sum := by
  induction items with
  | nil => rw [countNamedInItems, List.map_nil, List.sum_nil]
  | cons item rest ih => rw [countNamedInItems, ih, List.map_cons, List.sum_cons]

/-- There are no members in a text or a list of texts. -/
theorem IsTypeText.countNamed_eq {value : Json} (h : value.IsTypeText) :
    countNamed names value = 0 := by
  have htext : ∀ text, countNamed names (.str text) = 0 := by
    intro text
    rw [countNamed] <;> simp
  rcases h with ⟨name, rfl⟩ | ⟨texts, rfl⟩
  · exact htext name
  · rw [countNamed, countNamedInItems_eq]
    induction texts with
    | nil => rfl
    | cons text rest ih => rw [List.map_cons, List.map_cons, List.sum_cons, htext, ih]

/-- Members that count nothing can be left out. -/
theorem sum_memberCount_filter {members : Members} {keep : String → Bool}
    (h : ∀ member ∈ members, keep member.1 = false → memberCount names member = 0) :
    ((members.filter fun member => keep member.1).map (memberCount names)).sum =
      (members.map (memberCount names)).sum := by
  induction members with
  | nil => rfl
  | cons member rest ih =>
    obtain ⟨hmember, hrest⟩ := List.forall_mem_cons.1 h
    rw [List.filter_cons]
    by_cases hkeep : keep member.1 = true
    · rw [if_pos hkeep, List.map_cons, List.map_cons, List.sum_cons, List.sum_cons, ih hrest]
    · rw [if_neg hkeep, List.map_cons, List.sum_cons, hmember (by simpa using hkeep), ih hrest,
        Nat.zero_add]

/-- A name that is neither of the two that relaxing has to do with. -/
def isApart (name : String) : Bool :=
  name ≠ "const" && name ≠ "type"

theorem isApart_eq_false {name : String} (h : isApart name = false) :
    name = "const" ∨ name = "type" := by
  by_cases hconst : name = "const"
  · exact .inl hconst
  · exact .inr (by simpa [isApart, hconst] using h)

section Counted

variable (hconst : "const" ∉ names) (htype : "type" ∉ names) {members : Members}
  (h : (Json.obj members).IsRelaxable)
include hconst htype h

/-- Where an identifier is pinned, what stands under the two names counts nothing. -/
theorem memberCount_of_pins (hpins : Pins members) {member : String × Json}
    (hmember : member ∈ members) (hname : isApart member.1 = false) :
    memberCount names member = 0 := by
  obtain ⟨name, value⟩ := member
  rcases isApart_eq_false hname with rfl | rfl
  · obtain ⟨-, s, rfl⟩ := pinsIdentifier_eq_true (h.pinned_of_const hpins hmember)
    simp [memberCount, hconst, countNamed]
  · have htext := h.typeText .self hpins ((find?_eq_some_iff_mem h.keys_nodup).2 hmember)
    simp [memberCount, htype, htext.countNamed_eq]

omit hconst in
/-- Neither does what stands under them once the object is relaxed. -/
theorem memberCount_relaxed_of_pins (hpins : Pins members) {member : String × Json}
    (hmember : member ∈ relaxedMembers members) (hname : isApart member.1 = false) :
    memberCount names member = 0 := by
  obtain ⟨name, value⟩ := member
  rcases mem_relaxedMembers hmember with ⟨heq, -⟩ | ⟨old, hold, hunpinned, rfl⟩
  · obtain ⟨rfl, rfl⟩ := Prod.mk.inj heq
    simp [memberCount, htype, countNamed]
  · rcases isApart_eq_false hname with rfl | rfl
    · rw [h.pinned_of_const hpins hold] at hunpinned
      contradiction
    · have htext := h.typeText .self hpins ((find?_eq_some_iff_mem h.keys_nodup).2 hold)
      simp [memberCount, htype, htext.relax_eq, htext.countNamed_eq]

/-- The members of a relaxed object count what those of the object count, if what stands under each
of them does. -/
theorem sum_memberCount_relaxedMembers
    (hsame : ∀ member ∈ members, countNamed names member.2.relax = countNamed names member.2) :
    ((relaxedMembers members).map (memberCount names)).sum =
      (members.map (memberCount names)).sum := by
  have hrelaxed : ∀ kept : Members, (∀ member ∈ kept, member ∈ members) →
      ((kept.map fun member => (member.1, relax member.2)).map (memberCount names)).sum =
        (kept.map (memberCount names)).sum := by
    intro kept hkept
    rw [List.map_map]
    refine congrArg List.sum (List.map_congr_left fun member hmember => ?_)
    simp only [Function.comp_apply, memberCount, hsame member (hkept member hmember)]
  by_cases hpins : Pins members
  · rw [← sum_memberCount_filter fun _ => memberCount_relaxed_of_pins htype h hpins,
      ← sum_memberCount_filter fun _ => memberCount_of_pins hconst htype h hpins,
      filter_relaxedMembers h.keys_nodup isApart (by decide) (by decide)]
    exact hrelaxed _ fun member hmember => (List.mem_filter.1 hmember).1
  · rw [relaxedMembers_of_unpinned h.keys_nodup hpins]
    exact hrelaxed members fun member hmember => hmember

end Counted

/-- Relaxing a document leaves the number of its members of any names but the two. -/
theorem countNamed_relax (hconst : "const" ∉ names) (htype : "type" ∉ names) {document : Json}
    (h : document.IsRelaxable) : countNamed names document.relax = countNamed names document := by
  induction document using parts_induction with
  | leaf document harr hobj =>
    cases document with
    | arr items => exact absurd rfl (harr items)
    | obj members => exact absurd rfl (hobj members)
    | _ => simp
  | arr items ih =>
    rw [relax_arr, countNamed, countNamed, countNamedInItems_eq, countNamedInItems_eq, List.map_map]
    exact congrArg List.sum (List.map_congr_left fun item hitem => ih item hitem (h.item hitem))
  | obj members ih =>
    rw [relax_obj, countNamed, countNamed, countNamedInMembers_eq, countNamedInMembers_eq]
    exact sum_memberCount_relaxedMembers hconst htype h fun member hmember =>
      ih member.1 member.2 hmember (h.member hmember)

end Counting

end Json

end TypeRegistry
