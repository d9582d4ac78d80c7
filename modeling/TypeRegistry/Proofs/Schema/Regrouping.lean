import TypeRegistry.Proofs.Schema.Composition

/-!
# Parts of parts

Putting one flattened schema on top of another is associative, down to the order of the properties
and the repetitions among the required names.  So a schema is flattened by putting the own entries
of all schemas that it is composed of on top of each other, and it does not matter how these are
grouped: the parts of a part may as well stand in front of it, as parts of the whole.

Main results:

- Theorem `FlatSchema.merge_assoc`: flattened schemas may be put together before they are put on
  top of others.
- Definition `Json.postOrder`: the schemas of a nest from left to right, each behind its parts.
- Theorem `Json.flatten_eq_stack`: a schema is flattened by its nest in this order.
- Theorem `Json.flatten_grouping`: grouping does not matter, and what is flat stays as it is.
-/

namespace TypeRegistry

open Dictionary

namespace FlatSchema

/-! ## Schemas on top of schemas -/

/-- A schema on top of nothing is the schema itself, if no property occurs twice. -/
theorem empty_merge {schema : FlatSchema} (h : (keys schema.properties).Nodup) :
    merge {} schema = schema := by
  have hproperties : putAll [] schema.properties = schema.properties := putAll_of_nodup h
  simp only [merge, hproperties, List.nil_append, Option.or_none]

/-- Nothing on top of a schema changes nothing. -/
@[simp]
theorem merge_empty (schema : FlatSchema) : schema.merge {} = schema := by
  simp [merge, putAll]

/-- Schemas may be put together before they are put on top of another, if no property occurs twice
in the one that comes in first. -/
theorem merge_assoc (first : FlatSchema) {second : FlatSchema}
    (h : (keys second.properties).Nodup) (third : FlatSchema) :
    (first.merge second).merge third = first.merge (second.merge third) := by
  simp only [merge, putAll_assoc h, List.append_assoc, Option.or_assoc]

/-- What schemas declare themselves, in turn on top of what is there. -/
def stack (earlier : FlatSchema) (schemas : List Json.Members) : FlatSchema :=
  schemas.foldl (fun earlier members => earlier.merge (own members)) earlier

@[simp]
theorem stack_append (earlier : FlatSchema) (first second : List Json.Members) :
    earlier.stack (first ++ second) = (earlier.stack first).stack second :=
  List.foldl_append

/-- Only what the schemas declare themselves counts. -/
theorem stack_congr {schemas others : List Json.Members}
    (h : schemas.map own = others.map own) (earlier : FlatSchema) :
    earlier.stack schemas = earlier.stack others := by
  have hmap (schemas : List Json.Members) :
      earlier.stack schemas = (schemas.map own).foldl merge earlier := by
    rw [stack, List.foldl_map]
  rw [hmap, hmap, h]

/-- Of the members of a schema only three count as its own entries. -/
theorem own_congr {members others : Json.Members}
    (h : ∀ name, name ≠ "allOf" → find? name members = find? name others) :
    own members = own others := by
  simp only [own, h "properties" (by decide), h "required" (by decide),
    h "additionalProperties" (by decide)]

end FlatSchema

namespace Json

/-! ## Nests of parts -/

/-- The parts of a schema, if they are in a list. -/
def partsOf (members : Members) : List Json :=
  match find? "allOf" members with
  | some (.arr parts) => parts
  | _ => []

/-- A schema without its parts. -/
def withoutParts (members : Members) : Members :=
  erase "allOf" members

/-- A schema with other parts. -/
def withParts (parts : List Json) (members : Members) : Members :=
  put "allOf" (.arr parts) members

/-- The parts of a schema are smaller than its members. -/
theorem sizeOf_lt_of_mem_partsOf {part : Json} {members : Members} (h : part ∈ partsOf members) :
    sizeOf part < sizeOf members := by
  rw [partsOf] at h
  split at h
  next parts hfound => exact Nat.lt_trans (sizeOf_lt_of_item h) (sizeOf_lt_of_find? hfound)
  next => cases h

mutual

/-- The schemas that a schema is composed of, from left to right, each behind its parts. -/
def postOrder : Json → List Members
  | .obj members => postOrderOfParts members ++ [members]
  | _ => []

/-- The schemas that the parts of an object are composed of. -/
def postOrderOfParts : Members → List Members
  | [] => []
  | (name, .arr parts) :: rest =>
    if name = "allOf" then postOrderOfAll parts else postOrderOfParts rest
  | (name, _) :: rest => if name = "allOf" then [] else postOrderOfParts rest

/-- The schemas that several documents are composed of. -/
def postOrderOfAll : List Json → List Members
  | [] => []
  | part :: rest => postOrder part ++ postOrderOfAll rest

end

theorem postOrderOfAll_eq_flatMap (parts : List Json) :
    postOrderOfAll parts = parts.flatMap postOrder := by
  induction parts with
  | nil => rfl
  | cons part rest ih => rw [postOrderOfAll, ih, List.flatMap_cons]

/-- A schema comes behind what its parts are composed of. -/
theorem postOrder_obj (members : Members) :
    postOrder (.obj members) = (partsOf members).flatMap postOrder ++ [members] := by
  have hparts (members : Members) :
      postOrderOfParts members = (partsOf members).flatMap postOrder := by
    induction members with
    | nil => rfl
    | cons member rest ih =>
      obtain ⟨name, value⟩ := member
      by_cases hname : name = "allOf"
      · cases value <;>
          simp [postOrderOfParts, partsOf, find?, hname, postOrderOfAll_eq_flatMap]
      · cases value <;> simp [postOrderOfParts, partsOf, find?, hname] at ih ⊢ <;> exact ih
  rw [postOrder, hparts]

@[simp]
theorem partsOf_withParts (parts : List Json) (members : Members) :
    partsOf (withParts parts members) = parts := by
  simp [partsOf, withParts]

@[simp]
theorem partsOf_withoutParts (members : Members) : partsOf (withoutParts members) = [] := by
  have hnone : find? "allOf" (withoutParts members) = none :=
    find?_filter_names (fun name => decide (name ≠ "allOf")) "allOf" members
  rw [partsOf, hnone]

/-- The own entries of a schema are the same with other parts. -/
@[simp]
theorem own_withParts (parts : List Json) (members : Members) :
    FlatSchema.own (withParts parts members) = FlatSchema.own members :=
  FlatSchema.own_congr fun _ hname => find?_put_of_ne hname.symm _ _

/-- The own entries of a schema are the same without its parts. -/
@[simp]
theorem own_withoutParts (members : Members) :
    FlatSchema.own (withoutParts members) = FlatSchema.own members := by
  refine FlatSchema.own_congr fun name hname => ?_
  have hfound := find?_filter_names (fun name => decide (name ≠ "allOf")) name members
  rwa [if_pos (decide_eq_true hname)] at hfound

/-! ## Flattening in order -/

/-- The parts that are merged in turn may be merged before they are put on top of what is there. -/
theorem flattenAll_eq_merge (earlier : FlatSchema) (parts : List Json) :
    flattenAll earlier parts = earlier.merge (flattenAll {} parts) := by
  induction parts generalizing earlier with
  | nil => rw [flattenAll, flattenAll, FlatSchema.merge_empty]
  | cons part rest ih =>
    cases part with
    | obj part =>
      have hnodup := nodup_keys_flatten (.obj part)
      rw [flattenAll, flattenAll, ih, FlatSchema.merge_assoc _ hnodup,
        FlatSchema.empty_merge hnodup, ← ih (flatten (.obj part))]
    | null | bool _ | int _ | float _ | str _ | arr _ =>
      rw [flattenAll, flattenAll, ih]
      all_goals simp

/-- What an object composes are its parts, merged in turn. -/
theorem flatten_obj (members : Members) : flatten (.obj members) =
    (flattenAll {} (partsOf members)).merge (FlatSchema.own members) := by
  rw [flatten, flattenParts_eq, partsOf]
  cases find? "allOf" members with
  | none => rfl
  | some value => cases value <;> rfl

/-- Parts are merged in turn by what they are composed of, if each is. -/
theorem flattenAll_eq_stack {parts : List Json}
    (h : ∀ part, .obj part ∈ parts → ∀ earlier : FlatSchema,
      earlier.merge (flatten (.obj part)) = earlier.stack (postOrder (.obj part)))
    (earlier : FlatSchema) :
    flattenAll earlier parts = earlier.stack (parts.flatMap postOrder) := by
  induction parts generalizing earlier with
  | nil => rfl
  | cons part rest ih =>
    have hrest := ih fun part hpart => h part (List.mem_cons_of_mem _ hpart)
    rw [List.flatMap_cons, FlatSchema.stack_append]
    cases part with
    | obj part => rw [flattenAll, h part List.mem_cons_self, hrest]
    | null | bool _ | int _ | float _ | str _ | arr _ =>
      rw [flattenAll, hrest]
      · rfl
      · simp

/-- A flattened schema on top of another is what it is composed of, in turn on top of the other. -/
theorem merge_flatten_eq_stack (earlier : FlatSchema) (members : Members) :
    earlier.merge (flatten (.obj members)) = earlier.stack (postOrder (.obj members)) := by
  induction hsize : sizeOf members using Nat.strongRecOn generalizing earlier members with
  | ind size ih =>
    subst hsize
    have hparts : ∀ part, .obj part ∈ partsOf members → ∀ earlier : FlatSchema,
        earlier.merge (flatten (.obj part)) = earlier.stack (postOrder (.obj part)) := by
      intro part hpart earlier
      refine ih _ ?_ earlier part rfl
      have hsmaller := sizeOf_lt_of_mem_partsOf hpart
      rw [obj.sizeOf_spec] at hsmaller
      omega
    have hnodup : (keys (flattenAll {} (partsOf members)).properties).Nodup :=
      nodup_keys_flattenAll (partsOf members) (by simp [keys])
    calc earlier.merge (flatten (.obj members))
        = (earlier.merge (flattenAll {} (partsOf members))).merge (FlatSchema.own members) := by
          rw [flatten_obj, FlatSchema.merge_assoc _ hnodup]
      _ = (earlier.stack ((partsOf members).flatMap postOrder)).merge
            (FlatSchema.own members) := by
          rw [← flattenAll_eq_merge, flattenAll_eq_stack hparts]
      _ = earlier.stack (postOrder (.obj members)) := by
          rw [postOrder_obj, FlatSchema.stack_append]
          rfl

/-- A schema is flattened by putting the own entries of the schemas that it is composed of on top of
each other. -/
theorem flatten_eq_stack (members : Members) :
    flatten (.obj members) = FlatSchema.stack {} (postOrder (.obj members)) := by
  rw [← merge_flatten_eq_stack, FlatSchema.empty_merge (nodup_keys_flatten _)]

/-- Parts whose nests are composed of schemas with the same own entries, in the same order, make no
difference. -/
theorem flatten_withParts {members : Members} {parts : List Json}
    (h : (parts.flatMap postOrder).map FlatSchema.own =
      ((partsOf members).flatMap postOrder).map FlatSchema.own) :
    flatten (.obj (withParts parts members)) = flatten (.obj members) := by
  rw [flatten_eq_stack, flatten_eq_stack]
  refine FlatSchema.stack_congr ?_ _
  rw [postOrder_obj, postOrder_obj, List.map_append, List.map_append, partsOf_withParts, h,
    List.map_singleton, List.map_singleton, own_withParts]

/-- A schema without parts stands alone in its nest. -/
theorem postOrder_withoutParts (members : Members) :
    postOrder (.obj (withoutParts members)) = [withoutParts members] := by
  rw [postOrder_obj, partsOf_withoutParts, List.flatMap_nil, List.nil_append]

/-- Schemas without parts are their own nests. -/
theorem flatMap_postOrder_withoutParts (schemas : List Members) :
    (schemas.map fun part => Json.obj (withoutParts part)).flatMap postOrder =
      schemas.map withoutParts := by
  rw [List.flatMap_map]
  simp only [postOrder_withoutParts, List.map_eq_flatMap]

/-- A flattened schema is flat. -/
theorem flatten_toJson {flat : FlatSchema} (h : (keys flat.properties).Nodup) :
    flatten flat.toJson = flat := by
  rcases flat with ⟨properties, required, _ | rule⟩
  · exact flatten_of_no_parts rfl h
  · exact flatten_of_no_parts rfl h

/-- Grouping does not matter to flattening: the parts of a part may stand in front of it, without
its parts, among the parts of the whole; a whole nest is put together from left to right, each schema
behind its parts and the schema itself last, and may stand in this order as one list of parts; and a
flattened schema is flat. -/
theorem flatten_grouping (members : Members) :
    (∀ (before inner after : List Json) (part : Members),
      find? "allOf" members = some (.arr (before ++ .obj part :: after)) →
        find? "allOf" part = some (.arr inner) →
          flatten (.obj (withParts (before ++ inner ++ .obj (withoutParts part) :: after)
            members)) = flatten (.obj members)) ∧
    flatten (.obj members) =
      FlatSchema.stack {} ((partsOf members).flatMap postOrder ++ [members]) ∧
    flatten (.obj (withParts
        (((partsOf members).flatMap postOrder).map fun part => .obj (withoutParts part)) members)) =
      flatten (.obj members) ∧
    flatten (flatten (.obj members)).toJson = flatten (.obj members) := by
  refine ⟨?regroup, ?order, ?listing, flatten_toJson (nodup_keys_flatten _)⟩
  case regroup =>
    intro before inner after part hparts hinner
    have hpart : postOrder (.obj part) = inner.flatMap postOrder ++ [part] := by
      rw [postOrder_obj, partsOf, hinner]
    refine flatten_withParts ?_
    rw [partsOf, hparts]
    simp [hpart, postOrder_withoutParts]
  case order => rw [flatten_eq_stack, postOrder_obj]
  case listing =>
    refine flatten_withParts ?_
    rw [flatMap_postOrder_withoutParts, List.map_map]
    exact List.map_congr_left fun part _ => own_withoutParts part

/-- What every entry has. -/
def entryPart : Members :=
  [("properties", .obj [("id", .obj []), ("note", .obj [])]), ("required", .arr [.str "id"])]

/-- What every booking has, as an entry. -/
def bookingPart : Members :=
  [("required", .arr [.str "amount"]), ("allOf", .arr [.obj entryPart]),
    ("properties", .obj [("amount", .obj []), ("id", .bool true)])]

/-- Bookings that are signed. -/
def signedBooking : Members :=
  [("allOf", .arr [.null, .obj bookingPart, .obj [("required", .arr [.str "id"])]]),
    ("properties", .obj [("sign", .obj []), ("note", .bool false)])]

/-- What an entry has may stand among the parts of a signed booking: its properties come first, the
later values count, and a name that is required twice is required twice. -/
theorem flatten_grouping_signedBooking :
    flatten (.obj (withParts [.null, .obj entryPart, .obj (withoutParts bookingPart),
      .obj [("required", .arr [.str "id"])]] signedBooking)) = flatten (.obj signedBooking) ∧
    keys (flatten (.obj signedBooking)).properties = ["id", "note", "amount", "sign"] ∧
    (flatten (.obj signedBooking)).requiredNames = ["id", "amount", "id"] :=
  ⟨(flatten_grouping signedBooking).1 [.null] [.obj entryPart]
    [.obj [("required", .arr [.str "id"])]] bookingPart rfl rfl, by decide +kernel,
    by decide +kernel⟩

end Json

end TypeRegistry
