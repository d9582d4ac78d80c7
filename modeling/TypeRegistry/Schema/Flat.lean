import TypeRegistry.Json.Basic

/-!
# Flattened schemas

A schema that is composed by `allOf` is flattened before its properties are compared or an instance
is cast to it: the properties of the parts are put together, later ones replacing earlier ones in
their place, the lists of required names are joined, and the last declared rule on additional
properties counts.  A schema's own entries come after those of its parts.

Main definitions:

- `FlatSchema`, `FlatSchema.merge`: flattened schemas and their composition.
- `Json.flatten`: the flattened form of a schema.
-/

namespace TypeRegistry

open Dictionary

/-- The properties, the required names and the rule on additional properties of a schema. -/
structure FlatSchema where
  properties : Json.Members := []
  required : List Json := []
  additional : Option Json := none
deriving Inhabited

namespace FlatSchema

/-- The entries of a later schema on top of those of an earlier one. -/
def merge (earlier later : FlatSchema) : FlatSchema :=
  { properties := putAll earlier.properties later.properties
    required := earlier.required ++ later.required
    additional := later.additional.or earlier.additional }

/-- The entries that a schema makes itself. -/
def own (members : Json.Members) : FlatSchema :=
  { properties := match find? "properties" members with
      | some (.obj properties) => properties
      | _ => []
    required := match find? "required" members with
      | some (.arr names) => names
      | _ => []
    additional := find? "additionalProperties" members }

/-- The required names that are strings. -/
def requiredNames (schema : FlatSchema) : List String :=
  schema.required.filterMap fun
    | .str name => some name
    | _ => none

/-- A flattened schema as a document. -/
def toJson (schema : FlatSchema) : Json :=
  .obj ([("properties", .obj schema.properties), ("required", .arr schema.required)] ++
    match schema.additional with
    | some rule => [("additionalProperties", rule)]
    | none => [])

end FlatSchema

namespace Json

mutual

/-- The flattened form of a schema. -/
def flatten : Json → FlatSchema
  | .obj members => (flattenParts members).merge (FlatSchema.own members)
  | _ => {}

/-- The flattened form of what an object composes by `allOf`. -/
def flattenParts : Members → FlatSchema
  | [] => {}
  | (name, .arr parts) :: rest => if name = "allOf" then flattenAll {} parts else flattenParts rest
  | (name, _) :: rest => if name = "allOf" then {} else flattenParts rest

/-- The flattened forms of the parts that are objects, in turn on top of what is there. -/
def flattenAll (earlier : FlatSchema) : List Json → FlatSchema
  | [] => earlier
  | .obj members :: rest => flattenAll (earlier.merge (flatten (.obj members))) rest
  | _ :: rest => flattenAll earlier rest

end

/-! ## The parts of a schema are smaller -/

/-- The values of an object are smaller than its members. -/
theorem sizeOf_lt_of_mem {name : String} {value : Json} {members : Members}
    (h : (name, value) ∈ members) : sizeOf value < sizeOf members := by
  have := List.sizeOf_lt_of_mem h
  simp at this
  omega

/-- The properties that an object declares itself are smaller than its members. -/
theorem sizeOf_own_lt {name : String} {value : Json} {members : Members}
    (h : (name, value) ∈ (FlatSchema.own members).properties) :
    sizeOf value < sizeOf members := by
  unfold FlatSchema.own at h
  simp only at h
  split at h
  next properties hfound =>
    have h1 := sizeOf_lt_of_find? hfound
    have h2 := sizeOf_lt_of_mem h
    simp at h1
    omega
  next => simp at h

mutual

/-- A property schema is smaller than the schema that it was flattened from. -/
theorem sizeOf_flatten_lt {name : String} {value : Json} :
    (schema : Json) → (name, value) ∈ (flatten schema).properties → sizeOf value < sizeOf schema
  | .obj members, h => by
    simp only [flatten, FlatSchema.merge] at h
    rcases value_of_mem_putAll h with h | ⟨key, h⟩
    · have := sizeOf_flattenParts_lt members h
      simp
      omega
    · have := sizeOf_own_lt h
      simp
      omega
  | .null, h | .bool _, h | .int _, h | .float _, h | .str _, h | .arr _, h => by
    simp [flatten] at h

theorem sizeOf_flattenParts_lt {name : String} {value : Json} :
    (members : Members) → (name, value) ∈ (flattenParts members).properties →
      sizeOf value < sizeOf members
  | [], h => by simp [flattenParts] at h
  | (key, .arr parts) :: rest, h => by
    simp only [flattenParts] at h
    split at h
    · rcases sizeOf_flattenAll_lt {} parts h with ⟨key, h⟩ | h
      · simp at h
      · simp
        omega
    · have := sizeOf_flattenParts_lt rest h
      simp
      omega
  | (key, .null) :: rest, h | (key, .bool _) :: rest, h | (key, .int _) :: rest, h
  | (key, .float _) :: rest, h | (key, .str _) :: rest, h | (key, .obj _) :: rest, h => by
    simp only [flattenParts] at h
    split at h
    · simp at h
    · have := sizeOf_flattenParts_lt rest h
      simp
      omega

theorem sizeOf_flattenAll_lt {name : String} {value : Json} :
    (earlier : FlatSchema) → (parts : List Json) →
      (name, value) ∈ (flattenAll earlier parts).properties →
      (∃ key, (key, value) ∈ earlier.properties) ∨ sizeOf value < sizeOf parts
  | earlier, [], h => .inl ⟨name, h⟩
  | earlier, .obj members :: rest, h => by
    simp only [flattenAll] at h
    rcases sizeOf_flattenAll_lt _ rest h with ⟨key, h⟩ | h
    · rcases value_of_mem_putAll h with h | ⟨key, h⟩
      · exact .inl ⟨_, h⟩
      · have := sizeOf_flatten_lt (.obj members) h
        right
        simp at this ⊢
        omega
    · right
      simp
      omega
  | earlier, .null :: rest, h | earlier, .bool _ :: rest, h | earlier, .int _ :: rest, h
  | earlier, .float _ :: rest, h | earlier, .str _ :: rest, h | earlier, .arr _ :: rest, h => by
    simp only [flattenAll] at h
    rcases sizeOf_flattenAll_lt earlier rest h with h | h
    · exact .inl h
    · right
      simp
      omega

end

/-- A property schema that is looked up in a flattened schema is smaller than the schema. -/
theorem sizeOf_lt_of_find?_flatten {name : String} {value schema : Json}
    (h : find? name (flatten schema).properties = some value) : sizeOf value < sizeOf schema :=
  sizeOf_flatten_lt schema (mem_of_find? h)

end Json

end TypeRegistry
