import TypeRegistry.Proofs.Cast.Idempotence
import TypeRegistry.Proofs.Relaxation.Document
import TypeRegistry.Proofs.Schema.Acceptance
import TypeRegistry.Proofs.Schema.Composition

/-!
# Casting an object that the schema accepts

A cast reads a flattened schema, while acceptance is that of the whole schema.  Where what a cast
reads of a schema is in force, an object that the schema accepts has the required properties, holds
the pinned identifiers and has no properties that a cast would drop, at every level that the cast
meets.  So only the default of a property that is not required can be left to fill in.

Main results:

- Definition `CastMeets`: the levels of an object that a cast meets.
- Theorem `castObject_of_settled`: a cast changes nothing if all of them are settled.
- Definition `Dialect.Enforces`: what a cast reads of a schema is in force.
- Theorem `Grants.castObject_eq`: a cast changes nothing on an object that the schema accepts, if no
  default is left to fill in.
-/

namespace TypeRegistry

open Dictionary

/-! ## The levels that a cast meets -/

/-- The levels that a cast of an object to a schema meets, each with the schema that it is cast to:
the object itself, the objects under schemas of objects, and those in arrays under schemas of arrays
of objects. -/
inductive CastMeets : (schema members below level : Json.Members) → Prop
  | self {schema members : Json.Members} : CastMeets schema members schema members
  | object {schema members property inner below level : Json.Members} {name : String} :
      find? name (Json.obj schema).flatten.properties = some (.obj property) →
      declaredType property = "object" → find? name members = some (.obj inner) →
      CastMeets property inner below level → CastMeets schema members below level
  | item {schema members property inner item below level : Json.Members} {name : String}
      {items : List Json} :
      find? name (Json.obj schema).flatten.properties = some (.obj property) →
      declaredType property = "array" → find? "items" property = some (.obj inner) →
      declaredType inner = "object" → find? name members = some (.arr items) →
      .obj item ∈ items → CastMeets inner item below level → CastMeets schema members below level

/-- The levels that a cast of a well-formed object meets are well formed. -/
theorem CastMeets.wellFormed {schema members below level : Json.Members}
    (h : CastMeets schema members below level) (hwell : (Json.obj members).WellFormed) :
    (Json.obj level).WellFormed := by
  induction h with
  | self => exact hwell
  | object _ _ hvalue _ ih =>
    exact ih (((Json.wellFormed_obj_iff _).1 hwell).2 _ (mem_of_find? hvalue))
  | item _ _ _ _ hvalue hitem _ ih =>
    have hitems := ((Json.wellFormed_obj_iff _).1 hwell).2 _ (mem_of_find? hvalue)
    exact ih ((Json.wellFormed_arr_iff _).1 hitems _ hitem)

/-- On a level no default is left to fill in for a property that is not required. -/
def HasDefaults (schema : FlatSchema) (members : Json.Members) : Prop :=
  ∀ entry ∈ schema.properties, entry.1 ∈ schema.requiredNames ∨ has entry.1 members = true ∨
    default? (some entry.2) = none

/-- Items that are carried over to themselves are the items of an array that stays as it is. -/
theorem castItems_of_items {itemSchema : Json.Members} {path : String} {place : Nat}
    {items : List Json}
    (h : ∀ {members}, .obj members ∈ items → ∀ path,
      (castObject (.obj itemSchema) path members).members = members ∧
        (castObject (.obj itemSchema) path members).notes.IsQuiet) :
    (castItems itemSchema path place items).map (·.value) = items ∧
      ∀ casting ∈ castItems itemSchema path place items, casting.notes.IsQuiet := by
  induction items generalizing place with
  | nil => simp [castItems]
  | cons item rest ih =>
    obtain ⟨hvalues, hquiets⟩ := @ih (place + 1) fun hmem => h (List.mem_cons_of_mem _ hmem)
    have hitem : (castItem itemSchema path place item).value = item ∧
        (castItem itemSchema path place item).notes.IsQuiet := by
      cases item with
      | obj members =>
        obtain ⟨hmembers, hquiet⟩ := h List.mem_cons_self (itemPath path place)
        exact ⟨congrArg Json.obj hmembers, hquiet⟩
      | null | bool _ | int _ | float _ | str _ | arr _ => exact ⟨rfl, rfl, rfl⟩
    simp only [castItems, List.zipIdx_cons, List.map_cons, List.cons.injEq, List.forall_mem_cons]
    exact ⟨⟨hitem.1, hvalues⟩, hitem.2, hquiets⟩

/-- A cast changes nothing on an object if all levels that it meets are settled, and is quiet. -/
theorem castObject_of_settled {schema members : Json.Members}
    (hwell : (Json.obj members).WellFormed)
    (h : ∀ {below level}, CastMeets schema members below level →
      IsSettled (Json.obj below).flatten level) (path : String) :
    (castObject (.obj schema) path members).members = members ∧
      (castObject (.obj schema) path members).notes.IsQuiet := by
  induction hsize : sizeOf schema using Nat.strongRecOn generalizing schema members path with
  | ind size ih =>
    subst hsize
    obtain ⟨hnodup, hbelow⟩ := (Json.wellFormed_obj_iff members).1 hwell
    refine castObject_of_values ((h .self).castLevel path) ?_ ?_
    · intro name value property hmember _
      exact (find?_eq_some_iff_mem hnodup).2 hmember
    · intro name property value hproperty hvalue
      have hinside := hbelow _ (mem_of_find? hvalue)
      rcases castValue_cases property value with
        ⟨inner, object, rfl, rfl, htype⟩ |
        ⟨inner, itemSchema, items, rfl, rfl, htype, hfound, hobject⟩ | hstays
      · have hsmaller : sizeOf inner < sizeOf schema := by
          have hless := Json.sizeOf_lt_of_find?_flatten hproperty
          simp only [Json.obj.sizeOf_spec] at hless
          omega
        obtain ⟨hmembers, hquiet⟩ := ih _ hsmaller hinside
          (fun hmeets => h (.object hproperty htype hvalue hmeets)) (memberPath path name) rfl
        rw [castValue_object htype]
        exact ⟨congrArg Json.obj hmembers, hquiet⟩
      · have hsmaller : sizeOf itemSchema < sizeOf schema := by
          have hless := Json.sizeOf_lt_of_find?_flatten hproperty
          have hitem := Json.sizeOf_lt_of_find? hfound
          simp only [Json.obj.sizeOf_spec] at hless hitem
          omega
        have hitems := fun {item : Json.Members} (hmem : .obj item ∈ items) =>
          ih _ hsmaller ((Json.wellFormed_arr_iff items).1 hinside _ hmem)
            (fun hmeets => h (.item hproperty htype hfound hobject hvalue hmem hmeets))
        obtain ⟨hvalues, hquiets⟩ := @castItems_of_items itemSchema (memberPath path name) 0 items
          fun hmem path => hitems hmem path rfl
        rw [castValue_array htype hfound hobject]
        exact ⟨congrArg Json.arr hvalues,
          CastNotes.isQuiet_concat (List.forall_mem_map.2 hquiets)⟩
      · rw [hstays]
        exact ⟨rfl, rfl, rfl⟩

/-! ## What a cast reads -/

/-- The keywords that a cast reads, with the values that matter to it. -/
inductive GuidesCast : String → Json → Prop
  | parts {parts : List Json} : GuidesCast "allOf" (.arr parts)
  | properties {properties : Json.Members} : GuidesCast "properties" (.obj properties)
  | required {names : List Json} : GuidesCast "required" (.arr names)
  | closed : GuidesCast "additionalProperties" (.bool false)
  | items {inner : Json.Members} : declaredType inner = "object" → GuidesCast "items" (.obj inner)
  | pinned {id : String} : Identifier.isValid id = true → GuidesCast "const" (.str id)

/-- What a cast reads of a schema is in force where the schema is met in a dialect: its dialect knows
the keyword, no reference stands for the schema, a closed schema declares no properties by patterns,
and the schema of the items is that of every item. -/
structure Dialect.Enforces (surroundings : Dialect) (members : Json.Members) : Prop where
  known : ∀ {dialect keyword value}, surroundings.adopt (.obj members) = .ok dialect →
    find? keyword members = some value → GuidesCast keyword value → dialect.knows keyword = true
  sole : ∀ {keyword value}, find? keyword members = some value → GuidesCast keyword value →
    soleReference? surroundings members = none
  patterns : find? "additionalProperties" members = some (.bool false) →
    find? "patternProperties" members = none
  tuple : ∀ {inner}, find? "items" members = some (.obj inner) → declaredType inner = "object" →
    surroundings.adopt (.obj members) = .ok .draft202012 → find? "prefixItems" members = none

/-- A keyword that a cast reads is in force in the dialect of the schema. -/
theorem Dialect.Enforces.reads {surroundings dialect : Dialect} {members : Json.Members}
    {keyword : String} {value : Json} (h : surroundings.Enforces members)
    (hadopt : surroundings.adopt (.obj members) = .ok dialect)
    (hfound : find? keyword members = some value) (hguides : GuidesCast keyword value) :
    surroundings.Reads dialect members ∧ dialect.knows keyword = true :=
  ⟨⟨hadopt, h.sole hfound hguides⟩, h.known hadopt hfound hguides⟩

/-- The schemas inside a schema that a cast reads, with the dialects in which they are met. -/
inductive CastReads (start : Dialect) (root : Json) : Dialect → Json → Prop
  | root : CastReads start root start root
  | part {surroundings dialect : Dialect} {members : Json.Members} {parts : List Json}
      {part : Json} : CastReads start root surroundings (.obj members) →
      surroundings.adopt (.obj members) = .ok dialect →
      find? "allOf" members = some (.arr parts) → part ∈ parts → CastReads start root dialect part
  | property {surroundings dialect : Dialect} {members properties : Json.Members} {name : String}
      {property : Json} : CastReads start root surroundings (.obj members) →
      surroundings.adopt (.obj members) = .ok dialect →
      find? "properties" members = some (.obj properties) → (name, property) ∈ properties →
      CastReads start root dialect property
  | items {surroundings dialect : Dialect} {members inner : Json.Members} :
      CastReads start root surroundings (.obj members) →
      surroundings.adopt (.obj members) = .ok dialect →
      find? "items" members = some (.obj inner) → declaredType inner = "object" →
      CastReads start root dialect (.obj inner)

/-! ## Acceptance on the way of a cast -/

section Acceptance

variable {refs : Follow} {start : Dialect} {root : Json}
  (henforces : ∀ {surroundings members}, CastReads start root surroundings (.obj members) →
    surroundings.Enforces members)

/-- A schema that a cast reads accepts a part of the instance. -/
def Grants (refs : Follow) (start : Dialect) (root schema subject : Json) : Prop :=
  ∃ surroundings, CastReads start root surroundings schema ∧
    Accepts refs surroundings schema subject

include henforces

/-- Of a schema that accepts a part of the instance, a keyword that a cast reads is in force. -/
theorem Grants.reads {members : Json.Members} {subject : Json} {keyword : String} {value : Json}
    (h : Grants refs start root (.obj members) subject)
    (hfound : find? keyword members = some value) (hguides : GuidesCast keyword value) :
    ∃ surroundings dialect, CastReads start root surroundings (.obj members) ∧
      Accepts refs surroundings (.obj members) subject ∧ surroundings.Reads dialect members ∧
      dialect.knows keyword = true := by
  obtain ⟨surroundings, hreads, haccepts⟩ := h
  obtain ⟨dialect, hadopt⟩ := haccepts.adopt
  exact ⟨surroundings, dialect, hreads, haccepts,
    (henforces hreads).reads hadopt hfound hguides⟩

/-- The schemas that a schema is composed of accept what it accepts. -/
theorem Grants.composes {schema source : Json.Members} {subject : Json}
    (h : Grants refs start root (.obj schema) subject) (hcomposes : Json.Composes schema source) :
    Grants refs start root (.obj source) subject := by
  induction hcomposes with
  | self => exact h
  | part hparts hpart _ ih =>
    obtain ⟨surroundings, dialect, hreads, haccepts, hin, hknown⟩ := h.reads henforces hparts .parts
    exact ih ⟨dialect, .part hreads hin.adopt hparts hpart,
      haccepts.part hin hknown hparts hpart⟩

/-- The schema of a flattened property accepts what the object has under its name. -/
theorem Grants.property {schema members : Json.Members} {name : String} {property value : Json}
    (h : Grants refs start root (.obj schema) (.obj members))
    (hproperty : find? name (Json.obj schema).flatten.properties = some property)
    (hvalue : find? name members = some value) : Grants refs start root property value := by
  obtain ⟨source, hcomposes, hown⟩ :=
    (Json.flatten_gathers schema).properties _ (mem_of_find? hproperty)
  obtain ⟨properties, hfound, hmem⟩ := FlatSchema.mem_own_properties.1 hown
  obtain ⟨surroundings, dialect, hreads, haccepts, hin, -⟩ :=
    (h.composes henforces hcomposes).reads henforces hfound .properties
  exact ⟨dialect, .property hreads hin.adopt hfound hmem, haccepts.property hin hfound hmem hvalue⟩

/-- The schema of the items, if it is one of objects, accepts every item. -/
theorem Grants.item {property inner : Json.Members} {items : List Json} {item : Json}
    (h : Grants refs start root (.obj property) (.arr items))
    (hfound : find? "items" property = some (.obj inner)) (htype : declaredType inner = "object")
    (hitem : item ∈ items) : Grants refs start root (.obj inner) item := by
  obtain ⟨surroundings, dialect, hreads, haccepts, hin, -⟩ :=
    h.reads henforces hfound (.items htype)
  have htuple : dialect = .draft202012 → find? "prefixItems" property = none := by
    rintro rfl
    exact (henforces hreads).tuple hfound htype hin.adopt
  exact ⟨dialect, .items hreads hin.adopt hfound htype, haccepts.item hin htuple hfound hitem⟩

/-- Every level that a cast meets is accepted by the schema that it is cast to. -/
theorem Grants.meets {schema members below level : Json.Members}
    (h : Grants refs start root (.obj schema) (.obj members))
    (hmeets : CastMeets schema members below level) :
    Grants refs start root (.obj below) (.obj level) := by
  induction hmeets with
  | self => exact h
  | object hproperty _ hvalue _ ih => exact ih (h.property henforces hproperty hvalue)
  | item hproperty _ hfound htype hvalue hitem _ ih =>
    exact ih ((h.property henforces hproperty hvalue).item henforces hfound htype hitem)

/-- A schema that pins an identifier leaves no other one to be exchanged. -/
theorem Grants.pinned {property value : Json} (h : Grants refs start root property value) :
    pinnedIdentifier? property value = none := by
  unfold pinnedIdentifier?
  split
  next pinned current hconst =>
    split
    next hexchange =>
      rw [Bool.and_eq_true, Bool.and_eq_true, decide_eq_true_eq] at hexchange
      cases property with
      | obj members =>
        have hfound : find? "const" members = some (.str pinned) := hconst
        obtain ⟨surroundings, dialect, -, haccepts, hin, hknown⟩ :=
          h.reads henforces hfound (.pinned hexchange.1.2)
        exact absurd (Json.str.inj (haccepts.const hin hknown hfound)) hexchange.1.1
      | _ => cases hconst
    next => rfl
  next => rfl

/-- A level that its schema accepts is settled if no default is left to fill in. -/
theorem Grants.isSettled {schema members : Json.Members} (hwell : (Json.obj members).WellFormed)
    (h : Grants refs start root (.obj schema) (.obj members))
    (hdefaults : HasDefaults (Json.obj schema).flatten members) :
    IsSettled (Json.obj schema).flatten members where
  optional := hdefaults
  required := by
    intro name hname
    obtain ⟨value, hvalue, hstr⟩ := List.mem_filterMap.1 hname
    obtain rfl : value = .str name := by
      cases value <;> simp at hstr
      rw [hstr]
    obtain ⟨source, hcomposes, hown⟩ := (Json.flatten_gathers schema).required _ hvalue
    obtain ⟨names, hfound, hmem⟩ := FlatSchema.mem_own_required.1 hown
    obtain ⟨surroundings, dialect, -, haccepts, hin, hknown⟩ :=
      (h.composes henforces hcomposes).reads henforces hfound .required
    exact .inl (haccepts.required hin hknown hfound hmem)
  pinned := by
    rintro ⟨name, value⟩ hmember
    have hnodup := ((Json.wellFormed_obj_iff members).1 hwell).1
    have hvalue := (find?_eq_some_iff_mem hnodup).2 hmember
    cases hproperty : find? name (Json.obj schema).flatten.properties with
    | none => rfl
    | some property => exact (h.property henforces hproperty hvalue).pinned henforces
  declared := by
    rintro hclosed ⟨name, value⟩ hmember
    have hrule : (Json.obj schema).flatten.additional = some (.bool false) := by
      rw [isClosed] at hclosed
      split at hclosed
      next heq => exact heq
      next => cases hclosed
    obtain ⟨source, hcomposes, hfound⟩ := (Json.flatten_gathers schema).additional _ hrule
    obtain ⟨surroundings, dialect, hreads, haccepts, hin, -⟩ :=
      (h.composes henforces hcomposes).reads henforces hfound .closed
    obtain ⟨properties, hproperties, hhas⟩ := haccepts.declared hin hfound
      ((henforces hreads).patterns hfound) (List.mem_map_of_mem (f := fun entry => entry.1) hmember)
    rw [has_iff_mem_keys] at hhas ⊢
    refine Json.keys_flatten hcomposes ?_
    rw [FlatSchema.own_properties hproperties]
    exact hhas

/-- A cast changes nothing on an object that the schema accepts, and is quiet, if at no level that it
meets a default is left to fill in. -/
theorem Grants.castObject_eq {schema members : Json.Members}
    (hwell : (Json.obj members).WellFormed)
    (h : Grants refs start root (.obj schema) (.obj members))
    (hdefaults : ∀ {below level}, CastMeets schema members below level →
      HasDefaults (Json.obj below).flatten level) (path : String) :
    (castObject (.obj schema) path members).members = members ∧
      (castObject (.obj schema) path members).notes.IsQuiet := by
  refine castObject_of_settled hwell ?_ path
  intro below level hmeets
  exact (h.meets henforces hmeets).isSettled henforces (hmeets.wellFormed hwell)
    (hdefaults hmeets)

end Acceptance

end TypeRegistry
