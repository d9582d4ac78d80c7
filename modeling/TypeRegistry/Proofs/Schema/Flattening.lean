import TypeRegistry.Proofs.Json.Parts
import TypeRegistry.Proofs.Lookup
import TypeRegistry.Schema.Flat

/-!
# The properties of a flattened schema

A flattened schema has each property once, however often the parts that it is composed of declare
it, because the properties are put together one by one.

Main results:

- Theorem `nodup_keys_flatten`: no property of a flattened schema occurs twice.
- Theorem `flatten_of_no_parts`: a schema without parts is flat as it is.
- Theorem `inside_of_find?_flatten`: the properties of a flattened schema are inside the schema.
-/

namespace TypeRegistry

open Dictionary

/-- Merging makes no property occur twice. -/
theorem FlatSchema.nodup_keys_merge {earlier later : FlatSchema}
    (h : (keys earlier.properties).Nodup) : (keys (earlier.merge later).properties).Nodup :=
  nodup_keys_putAll h

namespace Json

/-- Parts that are merged in turn make no property occur twice. -/
theorem nodup_keys_flattenAll {earlier : FlatSchema} (parts : List Json)
    (h : (keys earlier.properties).Nodup) :
    (keys (flattenAll earlier parts).properties).Nodup := by
  induction parts generalizing earlier with
  | nil => simpa [flattenAll] using h
  | cons part rest ih =>
    cases part with
    | obj members =>
      rw [flattenAll]
      exact ih (FlatSchema.nodup_keys_merge h)
    | null | bool _ | int _ | float _ | str _ | arr _ =>
      rw [flattenAll]
      · exact ih h
      · simp

/-- What an object composes has no property twice. -/
theorem nodup_keys_flattenParts (members : Members) :
    (keys (flattenParts members).properties).Nodup := by
  induction members with
  | nil => simp [flattenParts, keys]
  | cons member rest ih =>
    obtain ⟨name, value⟩ := member
    cases value with
    | arr parts =>
      rw [flattenParts]
      split
      · exact nodup_keys_flattenAll parts (by simp [keys])
      · exact ih
    | null | bool _ | int _ | float _ | str _ | obj _ =>
      rw [flattenParts]
      · split
        · simp [keys]
        · exact ih
      · simp

/-- No property of a flattened schema occurs twice. -/
theorem nodup_keys_flatten (schema : Json) : (keys schema.flatten.properties).Nodup := by
  cases schema with
  | obj members =>
    rw [flatten]
    exact FlatSchema.nodup_keys_merge (nodup_keys_flattenParts members)
  | null | bool _ | int _ | float _ | str _ | arr _ => simp [flatten, keys]

/-- A schema without parts composes nothing. -/
theorem flattenParts_of_no_parts {members : Members} (h : find? "allOf" members = none) :
    flattenParts members = {} := by
  induction members with
  | nil => rfl
  | cons member rest ih =>
    obtain ⟨name, value⟩ := member
    rw [find?] at h
    split at h
    · cases h
    next hname =>
      cases value with
      | arr parts => rw [flattenParts, if_neg hname, ih h]
      | null | bool _ | int _ | float _ | str _ | obj _ =>
        rw [flattenParts, if_neg hname, ih h]
        simp

/-- A schema without parts is flat as it is. -/
theorem flatten_of_no_parts {members : Members} (h : find? "allOf" members = none)
    (hnodup : (keys (FlatSchema.own members).properties).Nodup) :
    (Json.obj members).flatten = FlatSchema.own members := by
  have hproperties : putAll [] (FlatSchema.own members).properties =
      (FlatSchema.own members).properties := putAll_of_nodup hnodup
  rw [flatten, flattenParts_of_no_parts h, FlatSchema.merge]
  simp only [hproperties, List.nil_append, Option.or_none]

/-! ## Where properties come from -/

/-- The properties that an object declares itself are inside one of its members. -/
theorem inside_of_mem_own {entry : String × Json} {members : Members}
    (h : entry ∈ (FlatSchema.own members).properties) :
    ∃ member ∈ members, Inside entry.2 member.2 := by
  simp only [FlatSchema.own] at h
  split at h
  next properties hfound => exact ⟨_, mem_of_find? hfound, .of_member h⟩
  next => cases h

mutual

/-- The properties of a flattened schema are inside the schema. -/
theorem inside_of_mem_flatten {entry : String × Json} :
    (schema : Json) → entry ∈ (flatten schema).properties → Inside entry.2 schema
  | .obj members, h => by
    rw [flatten] at h
    refine inside_obj_iff.2 (.inr ?_)
    rcases mem_of_mem_putAll h with h | h
    · exact inside_of_mem_flattenParts members h
    · exact inside_of_mem_own h
  | .null, h | .bool _, h | .int _, h | .float _, h | .str _, h | .arr _, h => by
    simp [flatten] at h

/-- The properties of what an object composes are inside one of its members. -/
theorem inside_of_mem_flattenParts {entry : String × Json} :
    (members : Members) → entry ∈ (flattenParts members).properties →
      ∃ member ∈ members, Inside entry.2 member.2
  | [], h => by simp [flattenParts] at h
  | (key, .arr parts) :: rest, h => by
    rw [flattenParts] at h
    split at h
    · obtain ⟨part, hpart, hinside⟩ :=
        (inside_of_mem_flattenAll {} parts h).resolve_left List.not_mem_nil
      exact ⟨_, List.mem_cons_self, .item hpart hinside⟩
    · obtain ⟨member, hmember, hinside⟩ := inside_of_mem_flattenParts rest h
      exact ⟨member, List.mem_cons_of_mem _ hmember, hinside⟩
  | (key, .null) :: rest, h | (key, .bool _) :: rest, h | (key, .int _) :: rest, h
  | (key, .float _) :: rest, h | (key, .str _) :: rest, h | (key, .obj _) :: rest, h => by
    simp only [flattenParts] at h
    split at h
    · cases h
    · obtain ⟨member, hmember, hinside⟩ := inside_of_mem_flattenParts rest h
      exact ⟨member, List.mem_cons_of_mem _ hmember, hinside⟩

/-- The properties of parts that are merged in turn are those there before, or inside one of the
parts. -/
theorem inside_of_mem_flattenAll {entry : String × Json} :
    (earlier : FlatSchema) → (parts : List Json) →
      entry ∈ (flattenAll earlier parts).properties →
        entry ∈ earlier.properties ∨ ∃ part ∈ parts, Inside entry.2 part
  | earlier, [], h => .inl h
  | earlier, .obj members :: rest, h => by
    rw [flattenAll] at h
    rcases inside_of_mem_flattenAll _ rest h with h | ⟨part, hpart, hinside⟩
    · rcases mem_of_mem_putAll h with h | h
      · exact .inl h
      · exact .inr ⟨_, List.mem_cons_self, inside_of_mem_flatten (.obj members) h⟩
    · exact .inr ⟨part, List.mem_cons_of_mem _ hpart, hinside⟩
  | earlier, .null :: rest, h | earlier, .bool _ :: rest, h | earlier, .int _ :: rest, h
  | earlier, .float _ :: rest, h | earlier, .str _ :: rest, h | earlier, .arr _ :: rest, h => by
    simp only [flattenAll] at h
    rcases inside_of_mem_flattenAll earlier rest h with h | ⟨part, hpart, hinside⟩
    · exact .inl h
    · exact .inr ⟨part, List.mem_cons_of_mem _ hpart, hinside⟩

end

/-- A property that is looked up in a flattened schema is inside the schema. -/
theorem inside_of_find?_flatten {name : String} {value schema : Json}
    (h : find? name schema.flatten.properties = some value) : Inside value schema :=
  inside_of_mem_flatten schema (mem_of_find? h)

end Json

end TypeRegistry
