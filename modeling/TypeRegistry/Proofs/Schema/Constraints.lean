import TypeRegistry.Proofs.Schema.Composition
import TypeRegistry.Schema.IdentifierConstraint

/-!
# Constraints that were checked

The constraints of a schema are checked wherever they stand in it, those on an instance are looked
for along its values: through the properties of the flattened schema and through the schemas of
items.  Whatever the second way comes to stands where the first has searched, and both follow
pointers from the same root.  So a schema without issues has none to show in an instance: there,
only the values can be wrong.

Main results:

- Theorem `mem_constrainedStrings_iff`: where a search on an instance comes to, step by step.
- Theorem `WellConstrained.constrainedStrings`: every constraint on an instance was checked in the
  schema.
- Theorem `IsConstraint.constraintPattern`: a constraint that was checked stands for a pattern.
- Theorem `constrainedValueIssues_blame_values`: under a schema without issues, every issue with an
  instance is one of its values.
-/

namespace TypeRegistry

open Dictionary

/-! ## Where constraints stand -/

/-- A value of the keyword with which nothing is wrong, pointers being followed from a root. -/
def IsConstraint (root ref : Json) : Prop :=
  ∃ text, ref = .str text ∧ constraintCause? root text = none

/-- An object in a schema in which every constraint was found to be in order, at whatever path it
was searched. -/
def WellConstrained (root : Json) (members : Json.Members) : Prop :=
  ∃ path, ∀ entry ∈ occurrencesOf constraintKeyword path members, IsConstraint root entry.2

/-- The schema of a string that a text constrains. -/
def constrainedBy (ref : String) : Json.Members :=
  [("type", .str "string"), (constraintKeyword, .str ref)]

/-- A value of the keyword shows no issue exactly if it is a constraint. -/
theorem constraintIssue?_eq_none_iff {root ref : Json} {path : String} :
    constraintIssue? root path ref = none ↔ IsConstraint root ref := by
  cases ref with
  | str text => simp [constraintIssue?, IsConstraint]
  | null | bool _ | int _ | float _ | arr _ | obj _ => simp [constraintIssue?, IsConstraint]

/-- A schema without issues is well constrained. -/
theorem wellConstrained_of_no_issues {schema : Json} {path : String}
    (h : constraintIssues schema path schema = []) : WellConstrained schema schema.members := by
  refine ⟨path, fun entry hentry => ?_⟩
  rw [constraintIssues, List.filterMap_eq_nil_iff] at h
  exact constraintIssue?_eq_none_iff.1 (h entry hentry)

/-- The occurrences in an object are those of its members: each member of the keyword, and what occurs
under every other one. -/
theorem occurrencesOf_eq_flatMap (keyword path : String) (members : Json.Members) :
    occurrencesOf keyword path members = members.flatMap fun member =>
      if member.1 = keyword then [(schemaPath path member.1, member.2)]
      else occurrencesInValue keyword (schemaPath path member.1) member.2 := by
  induction members with
  | nil => rfl
  | cons member rest ih =>
    obtain ⟨name, value⟩ := member
    rw [occurrencesOf, ih, List.flatMap_cons]

/-- The occurrences under a member are occurrences in the object, unless the member is one. -/
theorem mem_occurrencesOf_of_value {keyword path name : String} {value : Json}
    {members : Json.Members} (hmember : (name, value) ∈ members) (hname : name ≠ keyword)
    {entry : String × Json}
    (h : entry ∈ occurrencesInValue keyword (schemaPath path name) value) :
    entry ∈ occurrencesOf keyword path members := by
  rw [occurrencesOf_eq_flatMap]
  exact List.mem_flatMap.2 ⟨_, hmember, by rwa [if_neg hname]⟩

/-- A member of the keyword is an occurrence. -/
theorem mem_occurrencesOf_of_keyword {keyword path : String} {value : Json}
    {members : Json.Members} (hmember : (keyword, value) ∈ members) :
    (schemaPath path keyword, value) ∈ occurrencesOf keyword path members := by
  rw [occurrencesOf_eq_flatMap]
  exact List.mem_flatMap.2 ⟨_, hmember, by rw [if_pos rfl]; exact List.mem_singleton_self _⟩

/-- The occurrences in an object among the items of an array are occurrences in the items, at some
path. -/
theorem exists_path_of_item {keyword path : String} {inner : Json.Members} {items : List Json}
    (hitem : .obj inner ∈ items) (place : Nat) :
    ∃ innerPath, ∀ entry ∈ occurrencesOf keyword innerPath inner,
      entry ∈ occurrencesInItems keyword path place items := by
  induction items generalizing place with
  | nil => cases hitem
  | cons first rest ih =>
    rcases List.mem_cons.1 hitem with rfl | hrest
    · refine ⟨itemPath path place, fun entry hentry => ?_⟩
      rw [occurrencesInItems]
      exact List.mem_append_left _ hentry
    · obtain ⟨innerPath, hinner⟩ := ih hrest (place + 1)
      refine ⟨innerPath, fun entry hentry => ?_⟩
      have hmem := hinner entry hentry
      cases first with
      | obj _ =>
        rw [occurrencesInItems]
        exact List.mem_append_right _ hmem
      | null | bool _ | int _ | float _ | str _ | arr _ =>
        rw [occurrencesInItems]
        · exact hmem
        · simp

/-! ## What a search comes to -/

/-- A search comes to a string where it stands, or along a property of an object or an item of an
array, which the type in the schema allows. -/
theorem mem_constrainedStrings_iff {members : Json.Members} {path : String} {subject : Json}
    {found : ConstrainedString} :
    found ∈ constrainedStrings (.obj members) path subject ↔
      found ∈ constrainedHere members path subject ∨
      (Json.getString? "type" members = some "object" ∧ ∃ values name inner value,
        subject = .obj values ∧ (name, .obj inner) ∈ (Json.obj members).flatten.properties ∧
          find? name values = some value ∧
          found ∈ constrainedStrings (.obj inner) (memberPath path name) value) ∨
      (Json.getString? "type" members = some "array" ∧ ∃ items inner item place,
        subject = .arr items ∧ find? "items" members = some (.obj inner) ∧
          (item, place) ∈ items.zipIdx ∧
          found ∈ constrainedStrings (.obj inner) (itemPath path place) item) := by
  rw [constrainedStrings.eq_def, List.mem_append]
  refine or_congr Iff.rfl ?_
  constructor
  · intro hbelow
    split at hbelow
    next values htype =>
      left
      obtain ⟨⟨⟨name, property⟩, hproperty⟩, -, hmem⟩ := List.mem_flatMap.1 hbelow
      dsimp only at hmem
      split at hmem
      next inner value hproperty hvalue =>
        exact ⟨htype, values, name, inner, value, rfl, hproperty, hvalue, hmem⟩
      next => cases hmem
    next items htype =>
      right
      split at hbelow
      next inner hitems =>
        obtain ⟨⟨item, place⟩, hplace, hmem⟩ := List.mem_flatMap.1 hbelow
        exact ⟨htype, items, inner, item, place, rfl, hitems, hplace, hmem⟩
      next => cases hbelow
    next => cases hbelow
  · rintro (⟨htype, values, name, inner, value, rfl, hproperty, hvalue, hmem⟩ |
      ⟨htype, items, inner, item, place, rfl, hitems, hplace, hmem⟩)
    · simp only [Json.members, htype]
      refine List.mem_flatMap.2 ⟨⟨(name, .obj inner), hproperty⟩, List.mem_attach _ _, ?_⟩
      simpa only [hvalue] using hmem
    · simp only [Json.members, htype]
      split
      next other hother =>
        rw [hitems] at hother
        obtain rfl := Json.obj.inj (Option.some.inj hother)
        exact List.mem_flatMap.2 ⟨(item, place), hplace, hmem⟩
      next hnone => exact absurd hitems (hnone inner)
namespace WellConstrained

variable {root : Json} {members inner : Json.Members}

/-- The value of the keyword in a well-constrained object is a constraint. -/
theorem keyword {ref : Json} (h : WellConstrained root members)
    (hmember : (constraintKeyword, ref) ∈ members) : IsConstraint root ref := by
  obtain ⟨path, hall⟩ := h
  exact hall _ (mem_occurrencesOf_of_keyword hmember)

/-- A member that is no text does not stand under the keyword, for a constraint is a text. -/
theorem ne_keyword {name : String} {value : Json} (h : WellConstrained root members)
    (hmember : (name, value) ∈ members) (hvalue : ∀ text, value ≠ .str text) :
    name ≠ constraintKeyword := by
  rintro rfl
  obtain ⟨text, htext, -⟩ := h.keyword hmember
  exact hvalue text htext

/-- An object in a well-constrained object is well constrained. -/
theorem member {name : String} (h : WellConstrained root members)
    (hmember : (name, .obj inner) ∈ members) : WellConstrained root inner := by
  have hname := h.ne_keyword hmember (by simp)
  obtain ⟨path, hall⟩ := h
  refine ⟨schemaPath path name, fun entry hentry => hall entry ?_⟩
  apply mem_occurrencesOf_of_value hmember hname
  rwa [occurrencesInValue]

/-- An object in an array in a well-constrained object is well constrained. -/
theorem item {name : String} {items : List Json} (h : WellConstrained root members)
    (hmember : (name, .arr items) ∈ members) (hitem : .obj inner ∈ items) :
    WellConstrained root inner := by
  have hname := h.ne_keyword hmember (by simp)
  obtain ⟨path, hall⟩ := h
  obtain ⟨innerPath, hinner⟩ :=
    @exists_path_of_item constraintKeyword (schemaPath path name) _ _ hitem 0
  refine ⟨innerPath, fun entry hentry => hall entry ?_⟩
  apply mem_occurrencesOf_of_value hmember hname
  rw [occurrencesInValue]
  exact hinner entry hentry

/-- What a well-constrained schema is composed of is well constrained. -/
theorem source {source : Json.Members} (h : WellConstrained root members)
    (hsource : Json.Composes members source) : WellConstrained root source := by
  induction hsource with
  | self => exact h
  | part hparts hpart _ ih => exact ih (h.item (mem_of_find? hparts) hpart)

/-- The properties of a well-constrained schema, flattened, are well constrained. -/
theorem property {name : String} (h : WellConstrained root members)
    (hproperty : (name, .obj inner) ∈ (Json.obj members).flatten.properties) :
    WellConstrained root inner := by
  obtain ⟨source, hsource, hown⟩ := (Json.flatten_gathers members).properties _ hproperty
  obtain ⟨properties, hfound, hmember⟩ := FlatSchema.mem_own_properties.1 hown
  exact ((h.source hsource).member (mem_of_find? hfound)).member hmember

/-- Every constraint that a well-constrained schema puts on an instance is one that was checked. -/
theorem constrainedStrings (h : WellConstrained root members) (path : String) (subject : Json)
    {found : ConstrainedString}
    (hfound : found ∈ TypeRegistry.constrainedStrings (.obj members) path subject) :
    IsConstraint root found.ref := by
  induction hsize : sizeOf members using Nat.strongRecOn generalizing members path subject with
  | ind size ih =>
    subst hsize
    rcases mem_constrainedStrings_iff.1 hfound with hhere |
      ⟨-, _, name, inner, value, -, hproperty, -, hmem⟩ |
      ⟨-, _, inner, item, place, -, hitems, -, hmem⟩
    · unfold constrainedHere at hhere
      split at hhere
      next ref text href =>
        obtain rfl := List.mem_singleton.1 hhere
        exact h.keyword (mem_of_find? href)
      next => cases hhere
    · have hsmaller := Json.sizeOf_flatten_lt (.obj members) hproperty
      simp only [Json.obj.sizeOf_spec] at hsmaller
      exact ih _ (by omega) (h.property hproperty) _ _ hmem rfl
    · have hsmaller := Json.sizeOf_lt_of_find? hitems
      simp only [Json.obj.sizeOf_spec] at hsmaller
      exact ih _ (by omega) (h.member (mem_of_find? hitems)) _ _ hmem rfl

end WellConstrained

/-! ## What a constraint stands for -/

/-- A text that begins like an identifier is no pointer. -/
theorem not_startsWith_slash {text : String} (h : Text.startsWith Identifier.lead text = true) :
    Text.startsWith "/" text = false := by
  rw [Text.startsWith, List.isPrefixOf_iff_prefix] at h
  obtain ⟨rest, hrest⟩ := h
  rw [Text.startsWith, ← hrest]
  rfl

/-- A constraint that was checked stands for a pattern with which nothing is wrong. -/
theorem IsConstraint.constraintPattern {root ref : Json} (h : IsConstraint root ref) :
    ∃ text pattern, ref = .str text ∧ TypeRegistry.constraintPattern root text = .ok pattern ∧
      Text.startsWith Identifier.lead pattern = true ∧ patternCause? pattern = none := by
  obtain ⟨text, rfl, hcause⟩ := h
  unfold constraintCause? at hcause
  split at hcause
  next hlead =>
    refine ⟨text, text, rfl, ?_, hlead, hcause⟩
    rw [TypeRegistry.constraintPattern, not_startsWith_slash hlead]
    rfl
  next =>
    split at hcause
    next hslash =>
      split at hcause
      next => cases hcause
      next resolved hpointed =>
        split at hcause
        next hpattern =>
          rw [Bool.and_eq_true, Option.isNone_iff_eq_none] at hpattern
          refine ⟨text, resolved, rfl, ?_, hpattern.1, hpattern.2⟩
          rw [TypeRegistry.constraintPattern, if_pos hslash, hpointed]
          exact if_pos hpattern.1
        next => cases hcause
    next => cases hcause

/-! ## Issues with values -/

/-- What is wrong lies in a value: it is no identifier, it does not begin as its pattern wants, or
nothing is known under it. -/
inductive BlamesValue (lookup : Option Lookup) (value pattern : String) : ConstraintCause → Prop
  | invalid (hvalid : Identifier.isValid value = false) :
      BlamesValue lookup value pattern (.invalidValue value)
  | mismatch (hvalid : Identifier.isValid value = true) (hpattern : pattern ≠ "gts.*")
      (hstart : Text.startsWith (patternStart pattern) value = false) :
      BlamesValue lookup value pattern (.mismatch value pattern)
  | unregistered (known : Lookup) (hlookup : lookup = some known)
      (hvalid : Identifier.isValid value = true) (hunknown : known value = none) :
      BlamesValue lookup value pattern (.unregistered value)

/-- Whatever is wrong with a value against a pattern lies in the value. -/
theorem blamesValue_of_valueCause? {lookup : Option Lookup} {pattern value : String}
    {cause : ConstraintCause} (h : (valueCause? lookup pattern value).value = some cause) :
    BlamesValue lookup value pattern cause := by
  unfold valueCause? at h
  split at h
  next hvalid =>
    obtain rfl := Option.some.inj h
    exact .invalid (by simpa using hvalid)
  next hvalid =>
    have hvalid : Identifier.isValid value = true := by simpa using hvalid
    split at h
    next hstart =>
      obtain rfl := Option.some.inj h
      exact .mismatch hvalid hstart.1 (by simpa using hstart.2)
    next =>
      split at h
      next => cases h
      next known =>
        rw [Option.ite_none_right_eq_some, Option.isNone_iff_eq_none] at h
        obtain ⟨hunknown, hcause⟩ := h
        obtain rfl := Option.some.inj hcause
        exact .unregistered known rfl hvalid hunknown

/-- Under a schema whose constraints are in order, whatever is wrong with an instance lies in its
values: every issue names a string of the instance and a pattern that is in order, and says of the
string that it is no identifier, does not match the pattern or is not known. -/
theorem constrainedValueIssues_blame_values {schema : Json} {start : String}
    (h : constraintIssues schema start schema = []) (lookup : Option Lookup) (path : String)
    (subject : Json) :
    ∀ issue ∈ (constrainedValueIssues lookup schema path subject).value,
      ∃ value, issue.value = .str value ∧
        Text.startsWith Identifier.lead issue.pattern = true ∧
        patternCause? issue.pattern = none ∧
        BlamesValue lookup value issue.pattern issue.cause := by
  intro issue hissue
  obtain ⟨checked, hchecked, hvalue⟩ := List.mem_filterMap.1 hissue
  obtain ⟨found, hfound, rfl⟩ := List.mem_map.1 hchecked
  have href : IsConstraint schema found.ref := by
    cases schema with
    | obj members => exact (wellConstrained_of_no_issues h).constrainedStrings path subject hfound
    | null | bool _ | int _ | float _ | str _ | arr _ =>
      simp [constrainedStrings.eq_def, constrainedHere, Json.members, Json.getString?, find?]
        at hfound
  obtain ⟨text, pattern, htext, hpattern, hlead, hcause⟩ := href.constraintPattern
  simp only [constrainedValueIssue?, htext, hpattern, Consulted.mapValue, Option.map_eq_some_iff]
    at hvalue
  obtain ⟨cause, hblame, rfl⟩ := hvalue
  exact ⟨found.value, rfl, hlead, hcause, blamesValue_of_valueCause? hblame⟩

/-- A schema with constraints in a part, in items and over a pointer to those of the items. -/
def taggedSchema : Json :=
  .obj [("$id", .str "gts://gts.acme.shop.cart.item.v1~"), ("type", .str "object"),
    ("allOf", .arr [.obj [("properties", .obj
      [("kind", .obj [("x-gts-ref", .str "/$id")])])]]),
    ("properties", .obj
      [("tags", .obj [("type", .str "array"),
        ("items", .obj [("x-gts-ref", .str "gts.acme.shop.tags.*")])]),
      ("first", .obj [("x-gts-ref", .str "/properties/tags/items")])])]

/-- An instance with a kind that the schema does not want, a tag that is no identifier, and one that
nobody knows. -/
def taggedItem : Json :=
  .obj [("kind", .str "gts.acme.shop.cart.gift.v1~"), ("tags", .arr [.str "red"]),
    ("first", .str "gts.acme.shop.tags.red.v1~")]

/-- The values are to blame for all three issues with the instance. -/
theorem constrainedValueIssues_blame_values_taggedItem :
    constraintIssues taggedSchema "" taggedSchema = [] ∧
    (constrainedValueIssues (some fun _ => none) taggedSchema "" taggedItem).value.map
        (fun issue => (issue.path, issue.cause)) =
      [("kind", .mismatch "gts.acme.shop.cart.gift.v1~" "gts.acme.shop.cart.item.v1~"),
        ("tags[0]", .invalidValue "red"), ("first", .unregistered "gts.acme.shop.tags.red.v1~")] ∧
    ∀ issue ∈ (constrainedValueIssues (some fun _ => none) taggedSchema "" taggedItem).value,
      ∃ value, issue.value = .str value ∧
        Text.startsWith Identifier.lead issue.pattern = true ∧
        patternCause? issue.pattern = none ∧
        BlamesValue (some fun _ => none) value issue.pattern issue.cause := by
  have hchecked : constraintIssues taggedSchema "" taggedSchema = [] := by rfl
  exact ⟨hchecked, by decide +kernel, constrainedValueIssues_blame_values hchecked _ _ _⟩

end TypeRegistry
