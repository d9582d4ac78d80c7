import TypeRegistry.Proofs.Json.Ordered
import TypeRegistry.Proofs.Schema.Regrouping

/-!
# Schemas that are written down otherwise

One schema can be written down in many ways: the members of an object may come in any order, and so
may the names in a list of required names and the values of an enumeration, each of them as often as
one likes.  Flattening keeps to that: what is composed of schemas that are written down otherwise,
in the same order, has the same properties, written down otherwise, and requires the same names.

The order of all other lists counts: the later parts of a schema overwrite the earlier ones.

Main results:

- Definition `Json.Restates`: two documents differ only in the way they are written down.
- Theorem `Json.Restates.of_perm`: members may be restated one by one and put in another order.
- Theorem `Json.postOrder_restates`: a schema that is restated is composed of restated schemas, in
  the same order.
- Theorem `flatten_restates`: its flattened form has restated properties and the same required
  names.
-/

namespace TypeRegistry

open Dictionary

namespace Json

/-! ## Restated documents -/

/-- Two lists have the same entries, in whatever order and however often, and with the members of
their objects in whatever order. -/
def SameEntries (items others : List Json) : Prop :=
  ∀ entry, entry ∈ items.map ordered ↔ entry ∈ others.map ordered

/-- The keywords whose lists are read as sets. -/
def setKeywords : List String := ["required", "enum"]

mutual

/-- Two documents, in which no object has two members of one name, differ only in the order of
members and in how the lists are written down that are read as sets. -/
inductive Restates : Json → Json → Prop
  | leaf (document : Json) (harr : ∀ items, document ≠ .arr items)
      (hobj : ∀ members, document ≠ .obj members) : Restates document document
  | arr {items others : List Json} (hitems : List.Forall₂ Restates items others) :
      Restates (.arr items) (.arr others)
  | obj {members others : Members} (hmembers : (keys members).Nodup)
      (hothers : (keys others).Nodup)
      (hvalues : ∀ name, RestatesUnder name (find? name members) (find? name others)) :
      Restates (.obj members) (.obj others)

/-- What is found under a name differs only in the way it is written down. -/
inductive RestatesUnder : String → Option Json → Option Json → Prop
  | nothing {name : String} : RestatesUnder name none none
  | entries {name : String} {items others : List Json} (hname : name ∈ setKeywords)
      (hentries : SameEntries items others) :
      RestatesUnder name (some (.arr items)) (some (.arr others))
  | value {name : String} {value other : Json}
      (hlist : name ∈ setKeywords → ∀ items, value ≠ .arr items) (h : Restates value other) :
      RestatesUnder name (some value) (some other)

end

/-! ### Lists with the same entries -/

theorem SameEntries.refl (items : List Json) : SameEntries items items :=
  fun _ => Iff.rfl

theorem SameEntries.symm {items others : List Json} (h : SameEntries items others) :
    SameEntries others items :=
  fun entry => (h entry).symm

/-- Only a string is a string in order. -/
theorem ordered_eq_str_iff {text : String} {document : Json} :
    document.ordered = .str text ↔ document = .str text := by
  cases document <;> simp [ordered]

/-- The strings among the entries are the same. -/
theorem SameEntries.str_mem_iff {items others : List Json} (h : SameEntries items others)
    (text : String) : .str text ∈ items ↔ .str text ∈ others := by
  have hentry := h (.str text)
  simpa only [List.mem_map, ordered_eq_str_iff, exists_eq_right] using hentry

/-- Lists with the same entries are empty together. -/
theorem SameEntries.eq_nil_iff {items others : List Json} (h : SameEntries items others) :
    items = [] ↔ others = [] := by
  have hempty {others : List Json} (h : SameEntries [] others) : others = [] :=
    List.eq_nil_iff_forall_not_mem.2 fun other hother =>
      absurd ((h _).2 (List.mem_map_of_mem hother)) List.not_mem_nil
  constructor
  · rintro rfl
    exact hempty h
  · rintro rfl
    exact hempty h.symm

/-! ### Ways to restate -/

/-- A value that restates itself does so under every name. -/
theorem RestatesUnder.self {name : String} {value : Json} (h : Restates value value) :
    RestatesUnder name (some value) (some value) := by
  by_cases hname : name ∈ setKeywords
  · cases value with
    | arr items => exact .entries hname (.refl items)
    | _ => exact .value (fun _ => nofun) h
  · exact .value (fun h => absurd h hname) h

/-- An object is restated under every name. -/
theorem RestatesUnder.of_obj {name : String} {members others : Members}
    (h : Restates (.obj members) (.obj others)) :
    RestatesUnder name (some (.obj members)) (some (.obj others)) :=
  .value (fun _ _ heq => by cases heq) h

/-- A document restates itself if no object in it has two members of one name. -/
theorem Restates.refl {document : Json} (h : document.WellFormed) : Restates document document := by
  induction document using parts_induction with
  | leaf document harr hobj => exact .leaf document harr hobj
  | arr items ih =>
    rw [wellFormed_arr_iff] at h
    exact .arr (List.forall₂_same.2 fun item hitem => ih item hitem (h item hitem))
  | obj members ih =>
    rw [wellFormed_obj_iff] at h
    refine .obj h.1 h.1 fun name => ?_
    cases hvalue : find? name members with
    | none => exact .nothing
    | some value =>
      exact .self (ih name value (mem_of_find? hvalue) (h.2 _ (mem_of_find? hvalue)))

/-- An object is restated by restating its members one by one and putting them in another order. -/
theorem Restates.of_perm {members others : Members} (restated : Members)
    (hmembers : (keys members).Nodup)
    (h : List.Forall₂ (fun member other => member.1 = other.1 ∧
      RestatesUnder member.1 (some member.2) (some other.2)) members restated)
    (hperm : restated.Perm others) : Restates (.obj members) (.obj others) := by
  -- member by member the names stay in their places; only the last step moves them
  have hinPlace : keys members = keys restated ∧
      ∀ name, RestatesUnder name (find? name members) (find? name restated) := by
    clear hmembers hperm
    induction h with
    | nil => exact ⟨rfl, fun _ => .nothing⟩
    | @cons member other members restated hfirst _ ih =>
      obtain ⟨key, value⟩ := member
      obtain ⟨_, other⟩ := other
      obtain ⟨rfl, hunder⟩ := hfirst
      refine ⟨congrArg (key :: ·) ih.1, fun name => ?_⟩
      by_cases hname : key = name
      · subst hname
        simpa [find?] using hunder
      · simpa [find?, hname] using ih.2 name
  have hrestated : (keys restated).Nodup := hinPlace.1 ▸ hmembers
  have hothers : (keys others).Nodup := (hperm.map Prod.fst).nodup_iff.1 hrestated
  refine .obj hmembers hothers fun name => ?_
  rw [← find?_eq_of_perm hrestated hperm]
  exact hinPlace.2 name

/-! ### What is found in restated objects -/

/-- What stands under a name is restated. -/
theorem Restates.lookUp {members others : Members} (h : Restates (.obj members) (.obj others))
    (name : String) : RestatesUnder name (find? name members) (find? name others) := by
  cases h with
  | leaf _ _ hobj => exact absurd rfl (hobj _)
  | obj _ _ hvalues => exact hvalues name

section Found

variable {name : String} {value other : Option Json}

/-- Restated values are there together. -/
theorem RestatesUnder.isSome_eq (h : RestatesUnder name value other) :
    value.isSome = other.isSome := by
  cases h <;> rfl

/-- Restated values are the same, or both are arrays, or both are objects. -/
theorem RestatesUnder.eq_or (h : RestatesUnder name value other) :
    value = other ∨ (∃ items others, value = some (.arr items) ∧ other = some (.arr others)) ∨
      ∃ members others, value = some (.obj members) ∧ other = some (.obj others) := by
  cases h with
  | nothing => exact .inl rfl
  | entries _ _ => exact .inr (.inl ⟨_, _, rfl, rfl⟩)
  | value _ h =>
    cases h with
    | leaf _ _ _ => exact .inl rfl
    | arr _ => exact .inr (.inl ⟨_, _, rfl, rfl⟩)
    | obj _ _ _ => exact .inr (.inr ⟨_, _, rfl, rfl⟩)

/-- An object is restated by an object. -/
theorem RestatesUnder.of_left {members : Members}
    (h : RestatesUnder name (some (.obj members)) other) :
    ∃ others, other = some (.obj others) ∧ Restates (.obj members) (.obj others) := by
  cases h with
  | value _ h =>
    cases h with
    | leaf _ _ hobj => exact absurd rfl (hobj members)
    | obj hmembers hothers hvalues => exact ⟨_, rfl, .obj hmembers hothers hvalues⟩

/-- Only an object is restated by an object. -/
theorem RestatesUnder.of_right {others : Members}
    (h : RestatesUnder name value (some (.obj others))) :
    ∃ members, value = some (.obj members) ∧ Restates (.obj members) (.obj others) := by
  cases h with
  | value _ h =>
    cases h with
    | leaf _ _ hobj => exact absurd rfl (hobj others)
    | obj hmembers hothers hvalues => exact ⟨_, rfl, .obj hmembers hothers hvalues⟩

end Found

/-! ## Parts of restated schemas -/

/-- The parts of a schema that is restated are restated in their order. -/
theorem partsOf_restates {members others : Members} (h : Restates (.obj members) (.obj others)) :
    List.Forall₂ Restates (partsOf members) (partsOf others) := by
  have hfound := h.lookUp "allOf"
  unfold partsOf
  generalize find? "allOf" members = value, find? "allOf" others = other at hfound
  cases hfound with
  | nothing => exact .nil
  | entries hname _ => exact absurd hname (by decide)
  | @value _ value _ _ h =>
    cases h with
    | arr hitems => exact hitems
    | obj _ _ _ => exact .nil
    | leaf _ harr _ =>
      cases value with
      | arr items => exact absurd rfl (harr items)
      | _ => exact .nil

/-- A schema that is restated is composed of restated schemas, in the same order. -/
theorem postOrder_restates {schema other : Json} (h : Restates schema other) :
    List.Forall₂ (fun members others => Restates (.obj members) (.obj others)) (postOrder schema)
      (postOrder other) := by
  induction hsize : sizeOf schema using Nat.strongRecOn generalizing schema other with
  | ind size ih =>
    subst hsize
    cases schema with
    | obj members =>
      cases other with
      | obj others =>
        have hsmaller : ∀ part ∈ partsOf members, sizeOf part < sizeOf (obj members) := by
          intro part hpart
          have := sizeOf_lt_of_mem_partsOf hpart
          rw [obj.sizeOf_spec]
          omega
        have hparts := (List.forall₂_and_left _ _).2 ⟨hsmaller, partsOf_restates h⟩
        rw [postOrder_obj, postOrder_obj]
        exact List.rel_append
          (List.rel_flatMap hparts fun part other hpart => ih _ hpart.1 hpart.2 rfl) (.cons h .nil)
      | _ => cases h
    | arr items =>
      cases h with
      | leaf _ harr _ => exact absurd rfl (harr items)
      | arr _ => exact .nil
    | _ => cases h; exact .nil

end Json

/-! ## Restated flattened schemas -/

/-- Two flattened schemas, in which no property occurs twice, have restated properties and the same
required names. -/
structure FlatSchema.Restates (flat other : FlatSchema) : Prop where
  nodup : (keys flat.properties).Nodup
  nodup_other : (keys other.properties).Nodup
  properties : ∀ name,
    Json.RestatesUnder name (find? name flat.properties) (find? name other.properties)
  required : ∀ name, name ∈ flat.requiredNames ↔ name ∈ other.requiredNames

namespace FlatSchema

theorem Restates.empty : Restates {} {} :=
  ⟨List.nodup_nil, List.nodup_nil, fun _ => .nothing, fun _ => Iff.rfl⟩

/-- Restated schemas on top of restated schemas are restated together. -/
theorem Restates.merge {earlier other later otherLater : FlatSchema} (h : earlier.Restates other)
    (h' : later.Restates otherLater) : (earlier.merge later).Restates (other.merge otherLater) := by
  refine ⟨nodup_keys_putAll h.nodup, nodup_keys_putAll h.nodup_other, fun name => ?_,
    fun name => ?_⟩
  · simp only [FlatSchema.merge, find?_putAll h'.nodup, find?_putAll h'.nodup_other]
    have hlater := h'.properties name
    generalize find? name later.properties = value, find? name otherLater.properties = value'
      at hlater
    cases hlater with
    | nothing => exact h.properties name
    | entries hname hentries => exact .entries hname hentries
    | value hlist hvalue => exact .value hlist hvalue
  · simp only [requiredNames, FlatSchema.merge, List.filterMap_append, List.mem_append]
    exact or_congr (h.required name) (h'.required name)

/-- Schemas that are restated one by one are restated on top of each other. -/
theorem Restates.stack {earlier other : FlatSchema} (h : earlier.Restates other)
    {schemas others : List Json.Members}
    (hschemas : List.Forall₂ (fun members others => (own members).Restates (own others)) schemas
      others) : (earlier.stack schemas).Restates (other.stack others) := by
  induction hschemas generalizing earlier other with
  | nil => exact h
  | cons hfirst _ ih => exact ih (h.merge hfirst)

/-- A name is a required one if it stands in the list as a string. -/
theorem mem_requiredNames_iff {name : String} {flat : FlatSchema} :
    name ∈ flat.requiredNames ↔ .str name ∈ flat.required := by
  rw [requiredNames, List.mem_filterMap]
  constructor
  · rintro ⟨value, hvalue, hname⟩
    cases value <;> simp at hname
    exact hname ▸ hvalue
  · intro h
    exact ⟨_, h, rfl⟩

variable {members others : Json.Members}

/-- The properties that a restated schema declares itself are restated. -/
theorem own_properties_restates (h : Json.Restates (.obj members) (.obj others)) :
    (keys (own members).properties).Nodup ∧ (keys (own others).properties).Nodup ∧
      ∀ name, Json.RestatesUnder name (find? name (own members).properties)
        (find? name (own others).properties) := by
  have hfound := h.lookUp "properties"
  simp only [own]
  generalize find? "properties" members = value, find? "properties" others = other at hfound
  cases hfound with
  | nothing => exact ⟨List.nodup_nil, List.nodup_nil, fun _ => .nothing⟩
  | entries hname _ => exact absurd hname (by decide)
  | @value _ value _ _ h =>
    cases h with
    | obj hmembers hothers hvalues => exact ⟨hmembers, hothers, hvalues⟩
    | arr _ => exact ⟨List.nodup_nil, List.nodup_nil, fun _ => .nothing⟩
    | leaf _ _ hobj =>
      cases value with
      | obj members => exact absurd rfl (hobj members)
      | _ => exact ⟨List.nodup_nil, List.nodup_nil, fun _ => .nothing⟩

/-- The names that a restated schema requires itself are the same. -/
theorem own_required_restates (h : Json.Restates (.obj members) (.obj others)) (name : String) :
    name ∈ (own members).requiredNames ↔ name ∈ (own others).requiredNames := by
  have hfound := h.lookUp "required"
  simp only [mem_requiredNames_iff, own]
  generalize find? "required" members = value, find? "required" others = other at hfound
  cases hfound with
  | nothing => rfl
  | entries _ hentries => exact hentries.str_mem_iff name
  | value hlist h =>
    cases h with
    | leaf _ _ _ => rfl
    | arr _ => exact absurd rfl (hlist (by decide) _)
    | obj _ _ _ => rfl

/-- What a restated schema declares itself is restated. -/
theorem own_restates (h : Json.Restates (.obj members) (.obj others)) :
    (own members).Restates (own others) := by
  obtain ⟨hnodup, hother, hproperties⟩ := own_properties_restates h
  exact ⟨hnodup, hother, hproperties, own_required_restates h⟩

end FlatSchema

/-- A restated schema is flattened to restated properties and the same required names. -/
theorem flatten_restates {schema other : Json} (h : schema.Restates other) :
    schema.flatten.Restates other.flatten := by
  cases h with
  | leaf _ _ hobj =>
    cases schema with
    | obj members => exact absurd rfl (hobj members)
    | _ => exact .empty
  | arr _ => exact .empty
  | obj hmembers hothers hvalues =>
    have hpostOrder := Json.postOrder_restates (.obj hmembers hothers hvalues)
    rw [Json.flatten_eq_stack, Json.flatten_eq_stack]
    exact FlatSchema.Restates.empty.stack (hpostOrder.imp fun _ _ => FlatSchema.own_restates)

end TypeRegistry
