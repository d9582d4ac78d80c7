import TypeRegistry.Proofs.Cast.Level
import TypeRegistry.Proofs.Schema.Flattening

/-!
# Casting twice

A cast treats one level of an object and then the values below it, each by the schema of its
property.  Treating the values below leaves the level settled, because a value keeps its kind and
texts stay as they are.  So a second cast to the same schema finds nothing to do at any depth.

Main results:

- Theorem `castObject_eq`: a cast as its level with the values below it.
- Theorem `isSettled_castObject`: the level is still settled once the values below are carried over.
- Theorem `castObject_idempotent`: a cast to the same schema changes nothing the second time, and
  notes neither additions nor removals.
-/

namespace TypeRegistry

open Dictionary

/-! ## Levels and values -/

/-- The values of declared properties, carried over to the schemas of the properties. -/
def carriedValues (properties : Json.Members) (path : String) (members : Json.Members) :
    Dictionary ValueCasting :=
  properties.filterMap fun entry =>
    (find? entry.1 members).map fun value =>
      (entry.1, castValue entry.2 (memberPath path entry.1) value)

/-- A cast is the cast of a level with the values below it carried over. -/
theorem castObject_eq (schema : Json) (path : String) (members : Json.Members) :
    castObject schema path members =
      { members := replaceValues
          (carriedValues schema.flatten.properties path
            (castLevel schema.flatten path members).members)
          (castLevel schema.flatten path members).members
        notes := (castLevel schema.flatten path members).notes.append
          (.concat ((carriedValues schema.flatten.properties path
            (castLevel schema.flatten path members).members).map fun entry =>
              entry.2.notes)) } := by
  have hattach : carriedValues schema.flatten.properties path
      (castLevel schema.flatten path members).members =
        schema.flatten.properties.attach.filterMap fun entry =>
          (find? entry.1.1 (castLevel schema.flatten path members).members).map fun value =>
            (entry.1.1, castValue entry.1.2 (memberPath path entry.1.1) value) := by
    conv => lhs; rw [carriedValues, ← List.attach_map_subtype_val schema.flatten.properties]
    rw [List.filterMap_map]
    rfl
  rw [castObject, hattach]

/-- The value that is carried over for a name: the one there, to the schema that the name has. -/
theorem find?_carriedValues (properties : Json.Members) (path name : String)
    (members : Json.Members) :
    find? name (carriedValues properties path members) =
      (find? name properties).bind fun property => (find? name members).map fun value =>
        castValue property (memberPath path name) value := by
  induction properties with
  | nil => rfl
  | cons entry rest ih =>
    obtain ⟨key, property⟩ := entry
    rw [carriedValues, List.filterMap_cons]
    by_cases hkey : key = name
    · subst hkey
      cases hvalue : find? key members with
      | none =>
        show find? key (carriedValues rest path members) = _
        rw [ih, hvalue]
        cases find? key rest <;> simp
      | some value => simp [find?]
    · cases hvalue : find? key members with
      | none =>
        simp only [Option.map_none, find?, if_neg hkey]
        exact ih
      | some value =>
        simp only [Option.map_some, find?, if_neg hkey]
        exact ih

/-- Under a declared name stands the value that was carried over, under any other the old one. -/
def carriedValue (properties : Json.Members) (path : String) (members : Json.Members)
    (name : String) (value : Json) : Json :=
  match find? name properties, find? name members with
  | some property, some found => (castValue property (memberPath path name) found).value
  | _, _ => value

/-- A cast changes the values of its level and keeps the names. -/
theorem castObject_members (schema : Json) (path : String) (members : Json.Members) :
    (castObject schema path members).members =
      (castLevel schema.flatten path members).members.map fun member =>
        (member.1, carriedValue schema.flatten.properties path
          (castLevel schema.flatten path members).members member.1 member.2) := by
  rw [castObject_eq]
  apply List.map_congr_left
  rintro ⟨name, value⟩ _
  simp only [find?_carriedValues, carriedValue]
  cases find? name schema.flatten.properties <;>
    cases find? name (castLevel schema.flatten path members).members <;> rfl

/-- A cast that leaves a level and the values below it alone leaves the object alone, and notes
nothing if nothing is noted there.  If a name occurs twice, it is its first value that is cast. -/
theorem castObject_of_values {schema : Json} {path : String} {members : Json.Members}
    (hlevel : (castLevel schema.flatten path members).members = members ∧
      (castLevel schema.flatten path members).notes.IsQuiet)
    (hfirst : ∀ {name value property}, (name, value) ∈ members →
      find? name schema.flatten.properties = some property → find? name members = some value)
    (hvalues : ∀ {name property value}, find? name schema.flatten.properties = some property →
      find? name members = some value →
        (castValue property (memberPath path name) value).value = value ∧
          (castValue property (memberPath path name) value).notes.IsQuiet) :
    (castObject schema path members).members = members ∧
      (castObject schema path members).notes.IsQuiet := by
  obtain ⟨hmembers, hquiet⟩ := hlevel
  constructor
  · have hvalue : ∀ member ∈ members,
        (member.1, carriedValue schema.flatten.properties path members member.1 member.2) =
          id member := by
      rintro ⟨name, value⟩ hmember
      cases hproperty : find? name schema.flatten.properties with
      | none => simp [carriedValue, hproperty]
      | some property =>
        have hfound := hfirst hmember hproperty
        simp only [carriedValue, hproperty, hfound, id]
        rw [(hvalues hproperty hfound).1]
    rw [castObject_members, hmembers, List.map_congr_left hvalue, List.map_id]
  · rw [castObject_eq, hmembers]
    refine hquiet.append (CastNotes.isQuiet_concat ?_)
    rw [List.forall_mem_map]
    rintro ⟨name, casting⟩ hentry
    obtain ⟨⟨key, property⟩, hproperty, hcasting⟩ := List.mem_filterMap.1 hentry
    obtain ⟨value, hvalue, heq⟩ := Option.map_eq_some_iff.1 hcasting
    obtain ⟨rfl, rfl⟩ := Prod.mk.inj heq
    rw [← find?_eq_some_iff_mem (Json.nodup_keys_flatten schema)] at hproperty
    exact (hvalues hproperty hvalue).2

/-! ## Values below a level -/

/-- An item of an array, carried over to the schema of the items if it is an object. -/
def castItem (itemSchema : Json.Members) (path : String) (place : Nat) : Json → ValueCasting
  | .obj members =>
    ⟨.obj (castObject (.obj itemSchema) (itemPath path place) members).members,
      (castObject (.obj itemSchema) (itemPath path place) members).notes⟩
  | other => ⟨other, {}⟩

/-- The items of an array from a place on, carried over one by one. -/
def castItems (itemSchema : Json.Members) (path : String) (place : Nat) (items : List Json) :
    List ValueCasting :=
  (items.zipIdx place).map fun entry => castItem itemSchema path entry.2 entry.1

/-- An object is carried over to a schema of objects. -/
theorem castValue_object {schema : Json.Members} (h : declaredType schema = "object")
    (path : String) (members : Json.Members) :
    castValue (.obj schema) path (.obj members) =
      ⟨.obj (castObject (.obj schema) path members).members,
        (castObject (.obj schema) path members).notes⟩ := by
  rw [castValue]
  simp only [h, if_true]

/-- The items of an array are carried over to a schema of objects, one by one. -/
theorem castValue_array {schema itemSchema : Json.Members} (h : declaredType schema = "array")
    (hitems : find? "items" schema = some (.obj itemSchema))
    (hobject : declaredType itemSchema = "object") (path : String) (items : List Json) :
    castValue (.obj schema) path (.arr items) =
      ⟨.arr ((castItems itemSchema path 0 items).map (·.value)),
        .concat ((castItems itemSchema path 0 items).map (·.notes))⟩ := by
  rw [castValue]
  simp only [h, if_true]
  split
  next found hfound =>
    rw [hitems] at hfound
    obtain rfl := Json.obj.inj (Option.some.inj hfound)
    rw [if_pos hobject, castItems]
    refine congrArg (fun castings : List ValueCasting =>
      (⟨.arr (castings.map (·.value)), .concat (castings.map (·.notes))⟩ : ValueCasting)) ?_
    apply List.map_congr_left
    rintro ⟨item, place⟩ _
    cases item <;> rfl
  next hother => exact absurd hitems (hother itemSchema)

/-- Apart from objects under a schema of objects and arrays under a schema of arrays of objects,
values stay as they are. -/
theorem castValue_cases (property value : Json) :
    (∃ schema members, property = .obj schema ∧ value = .obj members ∧
      declaredType schema = "object") ∨
    (∃ schema itemSchema items, property = .obj schema ∧ value = .arr items ∧
      declaredType schema = "array" ∧ find? "items" schema = some (.obj itemSchema) ∧
      declaredType itemSchema = "object") ∨
    ∀ path, castValue property path value = ⟨value, {}⟩ := by
  cases property with
  | obj schema =>
    cases value with
    | obj members =>
      by_cases htype : declaredType schema = "object"
      · exact .inl ⟨schema, members, rfl, rfl, htype⟩
      · right
        right
        intro path
        rw [castValue]
        simp only [htype, if_false]
    | arr items =>
      by_cases htype : declaredType schema = "array"
      · by_cases hitems : ∃ itemSchema, find? "items" schema = some (.obj itemSchema) ∧
            declaredType itemSchema = "object"
        · obtain ⟨itemSchema, hfound, hobject⟩ := hitems
          exact .inr (.inl ⟨schema, itemSchema, items, rfl, rfl, htype, hfound, hobject⟩)
        · right
          right
          intro path
          rw [castValue]
          simp only [htype, if_true]
          split
          next itemSchema hfound =>
            rw [if_neg fun hobject => hitems ⟨itemSchema, hfound, hobject⟩]
          next => rfl
      · right
        right
        intro path
        rw [castValue]
        simp only [htype, if_false]
    | null | bool _ | int _ | float _ | str _ =>
      right
      right
      intro path
      simp [castValue]
  | null | bool _ | int _ | float _ | str _ | arr _ =>
    right
    right
    intro path
    simp [castValue]

/-- A cast below a level leaves texts as they are. -/
theorem castValue_str (property : Json) (path text : String) :
    castValue property path (.str text) = ⟨.str text, {}⟩ := by
  rcases castValue_cases property (.str text) with
    ⟨_, _, _, hvalue, _⟩ | ⟨_, _, _, _, hvalue, _⟩ | hstays
  · cases hvalue
  · cases hvalue
  · exact hstays path

/-- Carrying a value over keeps what its property schema pins it to: texts stay as they are, and
nothing else becomes a text. -/
theorem pinnedIdentifier?_castValue (property other value : Json) (path : String) :
    pinnedIdentifier? other (castValue property path value).value =
      pinnedIdentifier? other value := by
  rcases castValue_cases property value with
    ⟨schema, members, rfl, rfl, htype⟩ |
    ⟨schema, itemSchema, items, rfl, rfl, htype, hfound, hobject⟩ | hstays
  · rw [castValue_object htype]
    simp [pinnedIdentifier?]
  · rw [castValue_array htype hfound hobject]
    simp [pinnedIdentifier?]
  · rw [hstays]

/-! ## A second cast -/

/-- A second cast of an object to a schema changes nothing and is quiet. -/
def CastsOnce (schema : Json) : Prop :=
  ∀ path members,
    (castObject schema path (castObject schema path members).members).members =
        (castObject schema path members).members ∧
      (castObject schema path (castObject schema path members).members).notes.IsQuiet

/-- An item that was carried over is carried over to itself. -/
theorem castItem_again {itemSchema : Json.Members} (h : CastsOnce (.obj itemSchema)) (path : String)
    (place : Nat) (item : Json) :
    (castItem itemSchema path place (castItem itemSchema path place item).value).value =
        (castItem itemSchema path place item).value ∧
      (castItem itemSchema path place
        (castItem itemSchema path place item).value).notes.IsQuiet := by
  cases item with
  | obj members =>
    obtain ⟨hmembers, hquiet⟩ := h (itemPath path place) members
    exact ⟨congrArg Json.obj hmembers, hquiet⟩
  | null | bool _ | int _ | float _ | str _ | arr _ => exact ⟨rfl, rfl, rfl⟩

/-- Items that were carried over are carried over to themselves, from any place on. -/
theorem castItems_again {itemSchema : Json.Members} (h : CastsOnce (.obj itemSchema))
    (path : String) (place : Nat) (items : List Json) :
    (castItems itemSchema path place
        ((castItems itemSchema path place items).map (·.value))).map (·.value) =
      (castItems itemSchema path place items).map (·.value) ∧
    ∀ casting ∈ castItems itemSchema path place
        ((castItems itemSchema path place items).map (·.value)), casting.notes.IsQuiet := by
  induction items generalizing place with
  | nil => simp [castItems]
  | cons item rest ih =>
    obtain ⟨hvalue, hquiet⟩ := castItem_again h path place item
    obtain ⟨hvalues, hquiets⟩ := ih (place + 1)
    simp only [castItems, List.zipIdx_cons, List.map_cons, List.cons.injEq, List.forall_mem_cons]
    exact ⟨⟨hvalue, hvalues⟩, hquiet, hquiets⟩

/-- A value that was carried over is carried over to itself. -/
theorem castValue_again {property : Json}
    (h : ∀ schema, sizeOf schema ≤ sizeOf property → CastsOnce schema) (path : String)
    (value : Json) :
    (castValue property path (castValue property path value).value).value =
        (castValue property path value).value ∧
      (castValue property path (castValue property path value).value).notes.IsQuiet := by
  rcases castValue_cases property value with
    ⟨schema, members, rfl, rfl, htype⟩ |
    ⟨schema, itemSchema, items, rfl, rfl, htype, hfound, hobject⟩ | hstays
  · obtain ⟨hmembers, hquiet⟩ := h (.obj schema) (Nat.le_refl _) path members
    rw [castValue_object htype, castValue_object htype]
    exact ⟨congrArg Json.obj hmembers, hquiet⟩
  · have hsmaller := Json.sizeOf_lt_of_find? hfound
    obtain ⟨hvalues, hquiets⟩ := castItems_again
      (h (.obj itemSchema) (by simp at hsmaller ⊢; omega)) path 0 items
    rw [castValue_array htype hfound hobject, castValue_array htype hfound hobject]
    constructor
    · exact congrArg Json.arr hvalues
    · apply CastNotes.isQuiet_concat
      exact List.forall_mem_map.2 hquiets
  · rw [hstays, hstays]
    exact ⟨rfl, rfl, rfl⟩

/-- Carrying over what is below a level leaves the level settled. -/
theorem isSettled_castObject (schema : Json) (path : String) (members : Json.Members) :
    IsSettled schema.flatten (castObject schema path members).members := by
  have hsettled := isSettled_castLevel schema.flatten path members
  have hhas (name : String) : has name (castObject schema path members).members =
      has name (castLevel schema.flatten path members).members := by
    rw [castObject_members, has, find?_mapValues, Option.isSome_map, has]
  constructor
  case required =>
    intro name hname
    rw [hhas]
    exact hsettled.required name hname
  case optional =>
    intro entry hentry
    rw [hhas]
    exact hsettled.optional entry hentry
  case pinned =>
    intro member hmember
    rw [castObject_members] at hmember
    obtain ⟨⟨name, value⟩, hother, rfl⟩ := List.mem_map.1 hmember
    simp only [carriedValue]
    split
    next property found _ hfound =>
      have hpinned := hsettled.pinned (name, found) (mem_of_find? hfound)
      cases hproperty : find? name schema.flatten.properties with
      | none => rfl
      | some other =>
        rw [hproperty] at hpinned
        rw [Option.bind_some, pinnedIdentifier?_castValue]
        exact hpinned
    next => exact hsettled.pinned (name, value) hother
  case declared =>
    intro hclosed member hmember
    rw [castObject_members] at hmember
    obtain ⟨other, hother, rfl⟩ := List.mem_map.1 hmember
    exact hsettled.declared hclosed other hother

/-- The values that a second cast carries over are as the first cast left them. -/
theorem carriedValues_again {schema : Json}
    (h : ∀ property, sizeOf property < sizeOf schema → CastsOnce property) (path : String)
    (members : Json.Members) {name : String} {property value : Json}
    (hproperty : find? name schema.flatten.properties = some property)
    (hvalue : find? name (castObject schema path members).members = some value) :
    (castValue property (memberPath path name) value).value = value ∧
      (castValue property (memberPath path name) value).notes.IsQuiet := by
  have hsmaller := Json.sizeOf_lt_of_find?_flatten hproperty
  rw [castObject_members, find?_mapValues] at hvalue
  obtain ⟨before, hbefore, rfl⟩ := Option.map_eq_some_iff.1 hvalue
  simp only [carriedValue, hproperty, hbefore]
  exact castValue_again (fun other hother => h other (by omega)) (memberPath path name) before

/-- A member that a cast leaves under a declared name is the one that is found there, even if the
name occurs twice. -/
theorem find?_castObject_of_mem {schema property value : Json} {path name : String}
    {members : Json.Members}
    (hproperty : find? name schema.flatten.properties = some property)
    (hmember : (name, value) ∈ (castObject schema path members).members) :
    find? name (castObject schema path members).members = some value := by
  rw [castObject_members] at hmember ⊢
  obtain ⟨⟨key, before⟩, hbefore, heq⟩ := List.mem_map.1 hmember
  obtain ⟨rfl, rfl⟩ := Prod.mk.inj heq
  obtain ⟨found, hfound⟩ := Option.isSome_iff_exists.1 (has_of_mem hbefore)
  rw [find?_mapValues, hfound, Option.map_some, Option.some.injEq]
  simp only at hproperty hfound ⊢
  simp only [carriedValue, hproperty, hfound]

/-- A second cast of an object to any schema changes nothing and is quiet. -/
theorem castsOnce (schema : Json) : CastsOnce schema := by
  induction hsize : sizeOf schema using Nat.strongRecOn generalizing schema with
  | _ size ih =>
    subst hsize
    intro path members
    have hsmaller : ∀ property, sizeOf property < sizeOf schema → CastsOnce property :=
      fun property hless => ih _ hless property rfl
    refine castObject_of_values ((isSettled_castObject schema path members).castLevel path) ?_ ?_
    · intro name value property hmember hproperty
      exact find?_castObject_of_mem hproperty hmember
    · intro name property value hproperty hvalue
      exact carriedValues_again hsmaller path members hproperty hvalue

/-- A cast of an object to a schema that it was cast to changes nothing: every member keeps its
value and its place at every depth, and nothing is added or removed. -/
theorem castObject_idempotent (schema : Json) (path : String) (members : Json.Members) :
    let once := castObject schema path members
    let twice := castObject schema path once.members
    twice.members = once.members ∧ twice.notes.added = [] ∧ twice.notes.removed = [] := by
  exact castsOnce schema path members

end TypeRegistry
