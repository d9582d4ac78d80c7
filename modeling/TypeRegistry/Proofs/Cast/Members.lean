import TypeRegistry.Proofs.Cast.Return

/-!
# What becomes of a member

A cast notes by their paths the members that come in and those that are dropped.  What stands under
a name of an object before and after the cast is one of a few cases, and the notes name the path
wherever there is something on one side only.  Where a cast goes on into an object or into the
objects of an array, its notes hold those of the casts below.

Main results:

- Definition `CastNotes.Covers`: notes that hold what others note.
- Definition `GoesOn`: what comes in on the way from one casting to another is noted.
- Definition `CarriedOver`: what a cast makes of the value of a member that stays.
- Theorem `castObject_name`: what a cast makes of what stands under a name.
-/

namespace TypeRegistry

open Dictionary

/-! ## Notes that hold others -/

/-- Notes that hold all additions and removals of others. -/
structure CastNotes.Covers (whole part : CastNotes) : Prop where
  added : part.added ⊆ whole.added
  removed : part.removed ⊆ whole.removed

namespace CastNotes.Covers

variable {whole middle part : CastNotes}

theorem refl (notes : CastNotes) : notes.Covers notes :=
  ⟨List.Subset.refl _, List.Subset.refl _⟩

theorem trans (hwhole : whole.Covers middle) (hmiddle : middle.Covers part) : whole.Covers part :=
  ⟨List.Subset.trans hmiddle.added hwhole.added, List.Subset.trans hmiddle.removed hwhole.removed⟩

theorem append_left (first second : CastNotes) : (first.append second).Covers first :=
  ⟨List.subset_append_left _ _, List.subset_append_left _ _⟩

theorem append_right (first second : CastNotes) : (first.append second).Covers second :=
  ⟨List.subset_append_right _ _, List.subset_append_right _ _⟩

/-- The notes of several parts hold those of each. -/
theorem concat {parts : List CastNotes} (h : part ∈ parts) :
    (CastNotes.concat parts).Covers part := by
  induction parts with
  | nil => cases h
  | cons first rest ih =>
    rcases List.mem_cons.1 h with rfl | hrest
    · exact append_left part (CastNotes.concat rest)
    · exact (append_right first (CastNotes.concat rest)).trans (ih hrest)

end CastNotes.Covers

/-! ## Members that come in -/

/-- One casting goes on from another: what was noted stays noted, and members that came in are noted
by their paths. -/
structure GoesOn (path : String) (first second : Casting) : Prop where
  notes : second.notes.Covers first.notes
  reported : ∀ {name}, has name second.members = true →
    has name first.members = true ∨ memberPath path name ∈ second.notes.added

namespace GoesOn

variable {path : String} {first second third : Casting}

theorem refl (path : String) (casting : Casting) : GoesOn path casting casting :=
  ⟨.refl _, .inl⟩

theorem trans (hfirst : GoesOn path first second) (hsecond : GoesOn path second third) :
    GoesOn path first third where
  notes := hsecond.notes.trans hfirst.notes
  reported := by
    intro name hname
    rcases hsecond.reported hname with hmiddle | hnoted
    · exact (hfirst.reported hmiddle).imp_right fun hnoted => hsecond.notes.added hnoted
    · exact .inr hnoted

/-- A default that is put in and noted. -/
theorem put (path name : String) (value : Json) (casting : Casting) :
    GoesOn path casting ⟨Dictionary.put name value casting.members,
      casting.notes.append { added := [memberPath path name] }⟩ where
  notes := .append_left _ _
  reported := by
    intro other hother
    rw [has_put, Bool.or_eq_true, decide_eq_true_eq] at hother
    rcases hother with rfl | hhas
    · exact .inr (List.mem_append_right _ List.mem_cons_self)
    · exact .inl hhas

/-- A note on members that stay away. -/
theorem note (path : String) (more : CastNotes) (casting : Casting) :
    GoesOn path casting ⟨casting.members, casting.notes.append more⟩ :=
  ⟨.append_left _ _, .inl⟩

/-- Required properties that come in are noted. -/
theorem fillRequired (properties : Json.Members) (path : String) (casting : Casting)
    (names : List String) :
    GoesOn path casting (TypeRegistry.fillRequired properties path casting names) := by
  induction names generalizing casting with
  | nil => exact refl path casting
  | cons name rest ih =>
    simp only [TypeRegistry.fillRequired]
    split
    · exact ih casting
    · split
      · exact (put path name _ casting).trans (ih _)
      · exact (note path _ casting).trans (ih _)

/-- Other properties that come in are noted. -/
theorem fillOptional (required : List String) (path : String) (casting : Casting)
    (properties : Json.Members) :
    GoesOn path casting (TypeRegistry.fillOptional required path casting properties) := by
  induction properties generalizing casting with
  | nil => exact refl path casting
  | cons entry rest ih =>
    obtain ⟨name, property⟩ := entry
    simp only [TypeRegistry.fillOptional]
    split
    · exact ih casting
    · split
      · exact (put path name _ casting).trans (ih _)
      · exact ih casting

/-- Defaults of both kinds that come in are noted. -/
theorem filled (schema : FlatSchema) (path : String) (members : Json.Members) :
    GoesOn path ⟨members, {}⟩ (TypeRegistry.filled schema path members) :=
  (fillRequired _ path _ _).trans (fillOptional _ path _ _)

end GoesOn

/-! ## One level -/

section Level

variable {schema : FlatSchema} {path name : String} {members : Json.Members} {value : Json}

/-- The notes of a level hold those on the defaults that came in. -/
theorem castLevel_covers (schema : FlatSchema) (path : String) (members : Json.Members) :
    (castLevel schema path members).notes.Covers (filled schema path members).notes := by
  rw [castLevel_eq, dropUndeclared]
  split
  · exact .append_left _ _
  · exact .refl _

/-- A member of a level stays, with the identifier exchanged that is pinned for it, or the level is
closed, does not declare the name and notes that the member is dropped. -/
theorem castLevel_of_found (hnodup : (keys schema.properties).Nodup)
    (h : find? name members = some value) :
    find? name (castLevel schema path members).members =
        some (pinnedValue schema.properties name value) ∨
      find? name (castLevel schema path members).members = none ∧ isClosed schema = true ∧
        has name schema.properties = false ∧
        memberPath path name ∈ (castLevel schema path members).notes.removed := by
  obtain ⟨gained, hfilled, -⟩ := filled_gains hnodup path members
  have hpinned : find? name (pinIdentifiers schema.properties
      (filled schema path members).members) =
        some (pinnedValue schema.properties name value) := by
    rw [pinIdentifiers_eq, find?_mapValues, hfilled, find?_append, h]
    rfl
  rw [castLevel_eq, dropUndeclared]
  split
  next hclosed =>
    simp only [find?_filter_names (fun key => has key schema.properties)]
    by_cases hdeclared : has name schema.properties = true
    · left
      rw [if_pos hdeclared]
      exact hpinned
    · right
      rw [Bool.not_eq_true] at hdeclared
      refine ⟨by simp [hdeclared], hclosed, hdeclared, ?_⟩
      refine List.mem_append_right _ (List.mem_map_of_mem (List.mem_filter.2 ⟨?_, by simpa⟩))
      rw [← has_iff_mem_keys, has, hpinned, Option.isSome_some]
  next => exact .inl hpinned

/-- A member of a level that was not in the object is noted. -/
theorem castLevel_of_fresh (h : find? name members = none)
    (hlevel : has name (castLevel schema path members).members = true) :
    memberPath path name ∈ (castLevel schema path members).notes.added := by
  have hfilled : has name (filled schema path members).members = true := by
    rw [has_iff_mem_keys] at hlevel ⊢
    obtain ⟨member, hmember, rfl⟩ := List.mem_map.1 hlevel
    rw [castLevel_eq] at hmember
    exact name_mem_of_mem_pinIdentifiers (mem_of_mem_dropUndeclared hmember)
  have hnoted := ((GoesOn.filled schema path members).reported hfilled).resolve_left
    (by simp [has, h])
  exact (castLevel_covers schema path members).added hnoted

end Level

/-! ## All levels -/

/-- What a cast of an object at a path makes of the value of a member that stays: the value is the
same; an identifier is exchanged for the one that is pinned; an object is cast to the schema of its
property, or the items of an array to the schema of the items.  The notes hold those below. -/
inductive CarriedOver (schema : Json) (path name : String) (notes : CastNotes) :
    (value result : Json) → Prop
  /-- The value is the same. -/
  | same (value : Json) : CarriedOver schema path name notes value value
  /-- An identifier is exchanged. -/
  | exchanged {property : Json} {current pinned : String} :
    find? name schema.flatten.properties = some property →
      pinnedIdentifier? property (.str current) = some pinned →
      CarriedOver schema path name notes (.str current) (.str pinned)
  /-- An object is cast. -/
  | object {property : Json} {inner object : Json.Members} :
    find? name schema.flatten.properties = some property →
      nested? .object property = some inner →
      notes.Covers (castObject (.obj inner) (memberPath path name) object).notes →
      CarriedOver schema path name notes (.obj object)
        (.obj (castObject (.obj inner) (memberPath path name) object).members)
  /-- The items of an array are cast. -/
  | items {property : Json} {inner : Json.Members} {items : List Json} :
    find? name schema.flatten.properties = some property →
      nested? .items property = some inner →
      (∀ {place item}, items[place]? = some item →
        notes.Covers (castItem inner (memberPath path name) place item).notes) →
      CarriedOver schema path name notes (.arr items)
        (.arr ((castItems inner (memberPath path name) 0 items).map (·.value)))

/-- What a cast of an object at a path makes of what stands under a name. -/
inductive NameCast (schema : Json) (path name : String) (notes : CastNotes) :
    (before after : Option Json) → Prop
  /-- There is nothing before or after. -/
  | absent : NameCast schema path name notes none none
  /-- A member comes in and is noted. -/
  | gained (result : Json) : memberPath path name ∈ notes.added →
    NameCast schema path name notes none (some result)
  /-- A member that a closed schema does not declare is dropped and is noted. -/
  | dropped (value : Json) : isClosed schema.flatten = true →
    has name schema.flatten.properties = false → memberPath path name ∈ notes.removed →
    NameCast schema path name notes (some value) none
  /-- A member stays. -/
  | carried {value result : Json} : CarriedOver schema path name notes value result →
    NameCast schema path name notes (some value) (some result)

/-- Under a name stands, after a cast, what the cast makes of the value on its level. -/
theorem find?_castObject (schema : Json) (path name : String) (members : Json.Members) :
    find? name (castObject schema path members).members =
      (find? name (castLevel schema.flatten path members).members).map fun value =>
        match find? name schema.flatten.properties with
        | some property => (castValue property (memberPath path name) value).value
        | none => value := by
  rw [castObject_members, find?_mapValues]
  refine Option.map_congr fun value hvalue => ?_
  simp only [carriedValue, hvalue]
  cases find? name schema.flatten.properties <;> rfl

/-- The notes of a cast hold those of its level. -/
theorem castObject_covers_level (schema : Json) (path : String) (members : Json.Members) :
    (castObject schema path members).notes.Covers
      (castLevel schema.flatten path members).notes := by
  rw [castObject_eq]
  exact .append_left _ _

/-- The notes of a cast hold those on the values of declared properties. -/
theorem castObject_covers_value {schema property value : Json} {path name : String}
    {members : Json.Members} (hproperty : find? name schema.flatten.properties = some property)
    (hvalue : find? name (castLevel schema.flatten path members).members = some value) :
    (castObject schema path members).notes.Covers
      (castValue property (memberPath path name) value).notes := by
  rw [castObject_eq]
  refine (CastNotes.Covers.append_right _ _).trans (.concat ?_)
  have hcarried : find? name (carriedValues schema.flatten.properties path
      (castLevel schema.flatten path members).members) =
        some (castValue property (memberPath path name) value) := by
    rw [find?_carriedValues, hproperty, hvalue]
    rfl
  exact List.mem_map_of_mem (mem_of_find? hcarried)

/-- An item of an array that is carried over stands in its place. -/
theorem getElem?_castItems (itemSchema : Json.Members) (path : String) (items : List Json)
    (place : Nat) :
    (castItems itemSchema path 0 items)[place]? =
      items[place]?.map (castItem itemSchema path place) := by
  rw [castItems, List.getElem?_map, List.getElem?_zipIdx, Option.map_map, Nat.zero_add]
  rfl

/-- A value of a level is carried over by the schema of its property. -/
theorem carriedOver_castValue {schema property : Json} {path name : String} {notes : CastNotes}
    (hproperty : find? name schema.flatten.properties = some property) (value : Json)
    (hnotes : notes.Covers (castValue property (memberPath path name) value).notes) :
    CarriedOver schema path name notes value
      (castValue property (memberPath path name) value).value := by
  rcases castValue_cases property value with
    ⟨inner, object, rfl, rfl, htype⟩ |
    ⟨array, inner, items, rfl, rfl, htype, hitems, hobject⟩ | hstays
  · rw [castValue_object htype] at hnotes ⊢
    exact .object hproperty (by simp only [nested?, htype, if_true]) hnotes
  · rw [castValue_array htype hitems hobject] at hnotes ⊢
    refine .items hproperty (by simp only [nested?, htype, hitems, hobject, if_true]) ?_
    intro place item hitem
    have hcast : (castItems inner (memberPath path name) 0 items)[place]? =
        some (castItem inner (memberPath path name) place item) := by
      rw [getElem?_castItems, hitem]
      rfl
    exact hnotes.trans (.concat (List.mem_map_of_mem (List.mem_of_getElem? hcast)))
  · rw [hstays]
    exact .same value

/-- A member that stays is carried over by what its schema pins and then by the schema of its
property. -/
theorem castObject_of_found {schema value : Json} {path name : String} {members : Json.Members}
    (hlevel : find? name (castLevel schema.flatten path members).members =
      some (pinnedValue schema.flatten.properties name value)) :
    ∃ result, find? name (castObject schema path members).members = some result ∧
      CarriedOver schema path name (castObject schema path members).notes value result := by
  rw [find?_castObject, hlevel]
  cases hproperty : find? name schema.flatten.properties with
  | none =>
    refine ⟨_, rfl, ?_⟩
    simp only [pinnedValue, hproperty, Option.bind_none]
    exact .same value
  | some property =>
    refine ⟨_, rfl, ?_⟩
    have hnotes := castObject_covers_value hproperty hlevel
    cases hpinned : pinnedIdentifier? property value with
    | none =>
      have hvalue : pinnedValue schema.flatten.properties name value = value := by
        simp [pinnedValue, hproperty, hpinned]
      rw [hvalue] at hnotes ⊢
      exact carriedOver_castValue hproperty value hnotes
    | some pinned =>
      obtain ⟨-, current, rfl, -⟩ := pinnedIdentifier?_eq_some hpinned
      have hvalue : pinnedValue schema.flatten.properties name (.str current) = .str pinned := by
        simp [pinnedValue, hproperty, hpinned]
      simp only [hvalue, castValue_str]
      exact .exchanged hproperty hpinned

/-- What a cast makes of what stands under a name: a member comes in, is dropped or is carried over,
and the notes say so. -/
theorem castObject_name (schema : Json) (path name : String) (members : Json.Members) :
    NameCast schema path name (castObject schema path members).notes (find? name members)
      (find? name (castObject schema path members).members) := by
  have hnotes := castObject_covers_level schema path members
  cases hbefore : find? name members with
  | none =>
    cases hlevel : find? name (castLevel schema.flatten path members).members with
    | none =>
      rw [find?_castObject, hlevel]
      exact .absent
    | some value =>
      rw [find?_castObject, hlevel]
      exact .gained _ (hnotes.added (castLevel_of_fresh hbefore (by simp [has, hlevel])))
  | some value =>
    rcases @castLevel_of_found _ path _ _ _ (Json.nodup_keys_flatten schema) hbefore with
      hlevel | ⟨hlevel, hclosed, hdeclared, hremoved⟩
    · obtain ⟨result, hresult, hcarried⟩ := castObject_of_found hlevel
      rw [hresult]
      exact .carried hcarried
    · rw [find?_castObject, hlevel]
      exact .dropped value hclosed hdeclared (hnotes.removed hremoved)

end TypeRegistry
