import TypeRegistry.Proofs.Schema.Flattening

/-!
# The schemas that a schema is composed of

A schema is composed of itself and of the schemas that its parts under `allOf` are composed of.  A
flattened schema is put together of what these declare: every property, every required name and the
rule on additional properties stands in one of them, and no property of any of them gets lost.

Main results:

- Definition `Json.Composes`: the schemas that a schema is composed of.
- Theorem `Json.flatten_gathers`: a flattened schema gathers what these schemas declare.
- Theorem `Json.keys_flatten`: every property that one of them declares is among its properties.
-/

namespace TypeRegistry

open Dictionary

/-! ## Gathered schemas -/

/-- All that a flattened schema has is declared by one of several schemas. -/
structure FlatSchema.Gathers (sources : Json.Members → Prop) (schema : FlatSchema) : Prop where
  properties : ∀ entry ∈ schema.properties, ∃ members, sources members ∧
    entry ∈ (own members).properties
  required : ∀ name ∈ schema.required, ∃ members, sources members ∧ name ∈ (own members).required
  additional : ∀ rule, schema.additional = some rule → ∃ members, sources members ∧
    (own members).additional = some rule

namespace FlatSchema

variable {sources others : Json.Members → Prop} {schema earlier later : FlatSchema}

/-- What a schema declares itself under `properties`. -/
theorem own_properties {members properties : Json.Members}
    (h : find? "properties" members = some (.obj properties)) :
    (own members).properties = properties := by
  simp only [own, h]

theorem mem_own_properties {entry : String × Json} {members : Json.Members} :
    entry ∈ (own members).properties ↔
      ∃ properties, find? "properties" members = some (.obj properties) ∧ entry ∈ properties := by
  simp only [own]
  constructor
  · intro h
    split at h
    next properties hfound => exact ⟨properties, hfound, h⟩
    next => cases h
  · rintro ⟨properties, hfound, hmem⟩
    simpa only [hfound] using hmem

theorem mem_own_required {name : Json} {members : Json.Members} :
    name ∈ (own members).required ↔
      ∃ names, find? "required" members = some (.arr names) ∧ name ∈ names := by
  simp only [own]
  constructor
  · intro h
    split at h
    next names hfound => exact ⟨names, hfound, h⟩
    next => cases h
  · rintro ⟨names, hfound, hmem⟩
    simpa only [hfound] using hmem

theorem gathers_empty : Gathers sources {} where
  properties := by simp
  required := by simp
  additional := by simp

theorem gathers_own {members : Json.Members} (h : sources members) : Gathers sources (own members)
    where
  properties _ hentry := ⟨members, h, hentry⟩
  required _ hname := ⟨members, h, hname⟩
  additional _ hrule := ⟨members, h, hrule⟩

theorem Gathers.mono (h : Gathers sources schema)
    (hsub : ∀ members, sources members → others members) : Gathers others schema where
  properties entry hentry :=
    (h.properties entry hentry).imp fun members => And.imp_left (hsub members)
  required name hname := (h.required name hname).imp fun members => And.imp_left (hsub members)
  additional rule hrule := (h.additional rule hrule).imp fun members => And.imp_left (hsub members)

/-- What is gathered on top of what was gathered is gathered. -/
theorem Gathers.merge (hearlier : Gathers sources earlier) (hlater : Gathers sources later) :
    Gathers sources (earlier.merge later) where
  properties entry hentry := by
    rcases mem_of_mem_putAll hentry with hold | hnew
    · exact hearlier.properties entry hold
    · exact hlater.properties entry hnew
  required name hname := by
    rcases List.mem_append.1 hname with hold | hnew
    · exact hearlier.required name hold
    · exact hlater.required name hnew
  additional rule hrule := by
    rcases Option.or_eq_some_iff.1 hrule with hnew | ⟨-, hold⟩
    · exact hlater.additional rule hnew
    · exact hearlier.additional rule hold

/-- Composition loses no property of what comes earlier or later. -/
theorem mem_keys_merge {name : String} :
    name ∈ keys (earlier.merge later).properties ↔
      name ∈ keys earlier.properties ∨ name ∈ keys later.properties :=
  mem_keys_putAll

end FlatSchema

namespace Json

/-! ## Composition -/

/-- The schemas that a schema is composed of: itself, and those that its parts are composed of. -/
inductive Composes : Members → Members → Prop
  | self {members : Members} : Composes members members
  | part {members part source : Members} {parts : List Json} :
      find? "allOf" members = some (.arr parts) → .obj part ∈ parts → Composes part source →
        Composes members source

/-- What a schema composes are its parts, if they are in a list. -/
theorem flattenParts_eq (members : Members) :
    flattenParts members = match find? "allOf" members with
      | some (.arr parts) => flattenAll {} parts
      | _ => {} := by
  induction members with
  | nil => rfl
  | cons member rest ih =>
    obtain ⟨name, value⟩ := member
    by_cases hname : name = "allOf"
    · cases value <;> simp [flattenParts, find?, hname]
    · cases value <;> simp [flattenParts, find?, hname, ih]

/-- Parts that gather what some schemas declare gather it together. -/
theorem flattenAll_gathers {sources : Members → Prop} {parts : List Json} {earlier : FlatSchema}
    (hearlier : earlier.Gathers sources)
    (h : ∀ {part}, .obj part ∈ parts → (flatten (.obj part)).Gathers sources) :
    (flattenAll earlier parts).Gathers sources := by
  induction parts generalizing earlier with
  | nil => simpa [flattenAll] using hearlier
  | cons part rest ih =>
    have hrest : ∀ {part}, .obj part ∈ rest → (flatten (.obj part)).Gathers sources :=
      fun hpart => h (List.mem_cons_of_mem _ hpart)
    cases part with
    | obj part =>
      rw [flattenAll]
      exact ih (hearlier.merge (h List.mem_cons_self)) hrest
    | null | bool _ | int _ | float _ | str _ | arr _ =>
      rw [flattenAll]
      · exact ih hearlier hrest
      · simp

/-- A flattened schema gathers what the schemas declare that the schema is composed of. -/
theorem flatten_gathers (members : Members) :
    (flatten (.obj members)).Gathers (Composes members) := by
  induction hsize : sizeOf members using Nat.strongRecOn generalizing members with
  | ind size ih =>
    subst hsize
    rw [flatten]
    refine .merge ?_ (FlatSchema.gathers_own .self)
    rw [flattenParts_eq]
    split
    next parts hparts =>
      refine flattenAll_gathers FlatSchema.gathers_empty ?_
      intro part hpart
      have hsmaller : sizeOf part < sizeOf members := by
        have hitem := sizeOf_lt_of_item hpart
        have hlist := sizeOf_lt_of_find? hparts
        rw [obj.sizeOf_spec] at hitem
        omega
      exact (ih _ hsmaller part rfl).mono fun source hsource => .part hparts hpart hsource
    next => exact FlatSchema.gathers_empty

/-! ## Nothing gets lost -/

/-- No property gets lost that was there before some parts. -/
theorem keys_flattenAll_of_earlier {name : String} {parts : List Json} {earlier : FlatSchema}
    (h : name ∈ keys earlier.properties) :
    name ∈ keys (flattenAll earlier parts).properties := by
  induction parts generalizing earlier with
  | nil => simpa [flattenAll] using h
  | cons part rest ih =>
    cases part with
    | obj part =>
      rw [flattenAll]
      exact ih (FlatSchema.mem_keys_merge.2 (.inl h))
    | null | bool _ | int _ | float _ | str _ | arr _ =>
      rw [flattenAll]
      · exact ih h
      · simp

/-- No property of a part gets lost. -/
theorem keys_flattenAll_of_part {name : String} {part : Members} {parts : List Json}
    {earlier : FlatSchema} (hpart : .obj part ∈ parts)
    (h : name ∈ keys (flatten (.obj part)).properties) :
    name ∈ keys (flattenAll earlier parts).properties := by
  induction parts generalizing earlier with
  | nil => cases hpart
  | cons first rest ih =>
    rcases List.mem_cons.1 hpart with rfl | hrest
    · rw [flattenAll]
      exact keys_flattenAll_of_earlier (FlatSchema.mem_keys_merge.2 (.inr h))
    · cases first with
      | obj first =>
        rw [flattenAll]
        exact ih hrest
      | null | bool _ | int _ | float _ | str _ | arr _ =>
        rw [flattenAll]
        · exact ih hrest
        · simp

/-- Every property that one of the schemas declares which a schema is composed of is a property of
the flattened schema. -/
theorem keys_flatten {members source : Members} (h : Composes members source) {name : String}
    (hname : name ∈ keys (FlatSchema.own source).properties) :
    name ∈ keys (flatten (.obj members)).properties := by
  induction h with
  | self =>
    rw [flatten]
    exact FlatSchema.mem_keys_merge.2 (.inr hname)
  | part hparts hpart _ ih =>
    rw [flatten, flattenParts_eq, hparts]
    exact FlatSchema.mem_keys_merge.2 (.inl (keys_flattenAll_of_part hpart (ih hname)))

end Json

end TypeRegistry
