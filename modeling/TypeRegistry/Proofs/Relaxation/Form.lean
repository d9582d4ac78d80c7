import TypeRegistry.Proofs.Relaxation.Document
import TypeRegistry.Proofs.Schema.Formed

/-!
# The form of relaxed schemas

Since draft-06 a schema that has the form of its dialect keeps it when it is relaxed: a pinned
identifier gives way to a type, and no demand on the values of keywords looks into what is relaxed
but to find schemas there.  A text that pins an identifier can stand in none of the objects that hold
schemas or lists of names under names, so that these are relaxed member by member.

Main results:

- Theorem `schemaCheck_obj_eq_empty_iff`: an object has the form if the values of all keywords do.
- Theorem `schemaCheck_relax`: a relaxed schema has the form of the dialect that the schema has.
-/

namespace TypeRegistry

open Dictionary

/-! ## Keyword by keyword -/

namespace FormCheck

/-- A choice of two forms finds nothing if the first does not, or if the second does not and the
first does not break down. -/
theorem orElse_eq_empty (first : FormCheck) (value : Json) (second : FormCheck) :
    first.orElse value second = {} ↔ first = {} ∨ first.breakdown = none ∧ second = {} := by
  obtain ⟨fault, breakdown⟩ := first
  obtain ⟨fault', breakdown'⟩ := second
  cases breakdown <;> cases fault <;> cases breakdown' <;> cases fault' <;> simp [orElse]

end FormCheck

/-- Checks in the order of a table find nothing if none of those in the table does. -/
theorem inTableOrder_eq_empty {table : List (String × Shape)} {checks : Dictionary FormCheck}
    (h : ∀ keyword ∈ keys table, ∀ check, find? keyword checks = some check → check = {}) :
    inTableOrder table checks = {} := by
  have hall : ∀ entries : List (String × Shape), (∀ entry ∈ entries, entry ∈ table) →
      entries.foldl (fun check entry => check.andThen ((find? entry.1 checks).getD {})) {} =
        ({} : FormCheck) := by
    intro entries
    induction entries with
    | nil => exact fun _ => rfl
    | cons entry rest ih =>
      intro hentries
      obtain ⟨hentry, hrest⟩ := List.forall_mem_cons.1 hentries
      have hempty : (find? entry.1 checks).getD {} = {} := by
        cases hfound : find? entry.1 checks with
        | none => rfl
        | some check => exact h entry.1 (List.mem_map_of_mem hentry) check hfound
      rw [List.foldl_cons, hempty]
      exact ih hrest
  exact hall table fun _ hentry => hentry

/-- The check of the value of a keyword. -/
def valueCheck (dialect : Dialect) (keyword : String) (value : Json) : FormCheck :=
  (find? keyword (memberChecks dialect [(keyword, value)])).getD {}

/-- A keyword that is missing is not checked. -/
theorem find?_memberChecks_none (dialect : Dialect) {keyword : String} {members : Json.Members}
    (h : find? keyword members = none) : find? keyword (memberChecks dialect members) = none := by
  induction members with
  | nil => rw [memberChecks, find?]
  | cons member rest ih =>
    obtain ⟨key, value⟩ := member
    rw [find?] at h
    split at h
    · cases h
    next hkey =>
      have hother : has keyword (memberChecks dialect [(key, value)]) ≠ true := by
        rw [Ne, has_iff_mem_keys, keys_memberChecks_singleton]
        split <;> simp [Ne.symm hkey]
      have hnone : find? keyword (memberChecks dialect [(key, value)]) = none := by
        simpa [has] using hother
      rw [memberChecks_cons, find?_append, hnone, Option.none_or]
      exact ih h

/-- An object has the form of a dialect since draft-06 if the values of all keywords do. -/
theorem schemaCheck_obj_eq_empty_iff {dialect : Dialect} (hdialect : dialect.isSince .draft06)
    (members : Json.Members) :
    schemaCheck dialect (.obj members) = {} ↔
      ∀ keyword value, find? keyword members = some value →
        valueCheck dialect keyword value = {} := by
  have hdependents : dependentFault? dialect members = none := by
    cases dialect <;> first | rfl | exact absurd hdialect (by decide)
  rw [schemaCheck, FormCheck.andThen_eq_empty, hdependents]
  constructor
  · rintro ⟨htable, -⟩ keyword value hfound
    by_cases hshape : has keyword dialect.shapes = true
    · rw [valueCheck, ← find?_memberChecks dialect hshape hfound]
      cases hcheck : find? keyword (memberChecks dialect members) with
      | none => rfl
      | some check => exact eq_empty_of_inTableOrder htable (has_iff_mem_keys.1 hshape) hcheck
    · have hnone : find? keyword dialect.shapes = none := by simpa [has] using hshape
      rw [valueCheck, memberChecks, hnone, memberChecks]
      rfl
  · intro hvalues
    refine ⟨inTableOrder_eq_empty ?_, rfl⟩
    intro keyword hkeyword check hcheck
    cases hfound : find? keyword members with
    | none =>
      rw [find?_memberChecks_none dialect hfound] at hcheck
      cases hcheck
    | some value =>
      rw [find?_memberChecks dialect (has_iff_mem_keys.2 hkeyword) hfound] at hcheck
      have hvalue := hvalues keyword value hfound
      rwa [valueCheck, hcheck] at hvalue

/-! ## Values that are relaxed as they are -/

section Values

variable {dialect : Dialect} {value : Json}

theorem typeFault?_eq_none_iff (name : String) :
    typeFault? dialect name value = none ↔ hasType dialect name value = true := by
  simp [typeFault?, typesFault?]

/-- A value of a scalar type is relaxed as it is. -/
theorem relax_of_hasType {name : String} (hname : name ∈ ["string", "boolean", "number", "integer"])
    (h : hasType dialect name value = true) : value.relax = value := by
  simp only [List.mem_cons, List.not_mem_nil, or_false] at hname
  cases value with
  | obj members => rcases hname with rfl | rfl | rfl | rfl <;> simp [hasType, isOfKind] at h
  | arr items => rcases hname with rfl | rfl | rfl | rfl <;> simp [hasType, isOfKind] at h
  | _ => simp

theorem eq_arr_of_hasType (h : hasType dialect "array" value = true) :
    ∃ items, value = .arr items := by
  cases value <;> simp_all [hasType, isOfKind]

theorem eq_obj_of_hasType (h : hasType dialect "object" value = true) :
    ∃ members, value = .obj members := by
  cases value <;> simp_all [hasType, isOfKind]

theorem eq_str_of_hasType (h : hasType dialect "string" value = true) : ∃ s, value = .str s := by
  cases value <;> simp_all [hasType, isOfKind]

/-- Items that are all texts are a list of texts. -/
theorem exists_texts {items : List Json} (h : ∀ item ∈ items, ∃ s, item = .str s) :
    ∃ names : List String, items = names.map .str := by
  induction items with
  | nil => exact ⟨[], rfl⟩
  | cons item rest ih =>
    obtain ⟨⟨s, rfl⟩, hrest⟩ := List.forall_mem_cons.1 h
    obtain ⟨names, rfl⟩ := ih hrest
    exact ⟨s :: names, rfl⟩

/-- A list of names is a list of texts. -/
theorem exists_texts_of_nameListFault? (h : nameListFault? dialect value = none) :
    ∃ names : List String, value = .arr (names.map .str) := by
  rw [nameListFault?, Option.or_eq_none_iff, Option.or_eq_none_iff, typeFault?_eq_none_iff] at h
  obtain ⟨⟨harray, hitems⟩, -⟩ := h
  obtain ⟨items, rfl⟩ := eq_arr_of_hasType harray
  rw [itemTypeFault?, List.findSome?_eq_none_iff] at hitems
  obtain ⟨names, rfl⟩ := exists_texts fun item hitem =>
    eq_str_of_hasType ((typeFault?_eq_none_iff "string").1 (hitems item hitem))
  exact ⟨names, rfl⟩

/-- A value that names types is a text or a list of texts. -/
theorem isTypeText_of_isTypeNames (h : isTypeNames value = true) : value.IsTypeText := by
  cases value with
  | str s => exact .inl ⟨s, rfl⟩
  | arr items =>
    rw [isTypeNames, Bool.and_eq_true, List.all_eq_true] at h
    obtain ⟨names, rfl⟩ := exists_texts fun item hitem => by
      have hname := h.2 item hitem
      cases item <;> simp_all
    exact .inr ⟨names, rfl⟩
  | _ => simp [isTypeNames] at h

/-- An object whose values are relaxed as they are, and none of which is a text, is relaxed as it
is. -/
theorem relax_obj_of_values {members : Json.Members} (hnodup : (keys members).Nodup)
    (hvalues : ∀ member ∈ members, member.2.relax = member.2 ∧ ∀ s, member.2 ≠ .str s) :
    Json.relax (.obj members) = .obj members := by
  have hpins : ¬ Json.Pins members := by
    rintro ⟨member, hmember, hpinned⟩
    obtain ⟨-, s, hs⟩ := Json.pinsIdentifier_eq_true hpinned
    exact (hvalues member hmember).2 s hs
  have hsame : (members.map fun member => (member.1, member.2.relax)) = members := by
    refine (List.map_congr_left fun member hmember => ?_).trans (List.map_id members)
    rw [(hvalues member hmember).1, id]
  rw [Json.relax_obj_of_unpinned hnodup hpins, hsame]

/-- Whether only dialects before draft-06 demand a shape. -/
def Shape.isEarly : Shape → Bool
  | .integer | .distinctList | .someNames | .schemaOrTruth | .schemasOrSomeNames | .types
  | .schemaOr _ | .schemasOrTexts => true
  | _ => false

/-- Since draft-06 no such shape is demanded. -/
theorem isEarly_eq_false {keyword : String} {shape : Shape} (hdialect : dialect.isSince .draft06)
    (h : find? keyword dialect.shapes = some shape) : shape.isEarly = false := by
  have hall : ∀ entry ∈ dialect.shapes, entry.2.isEarly = false := by
    cases dialect <;> first | decide | exact absurd hdialect (by decide)
  exact hall _ (mem_of_find? h)

end Values

/-! ## Values with schemas inside -/

section Parts

variable {dialect : Dialect}

/-- A text is no schema. -/
theorem schemaCheck_str_ne_empty (s : String) : schemaCheck dialect (.str s) ≠ {} := by
  rw [schemaCheck]
  · unfold Dialect.schemaTypes
    split <;> simp [typesFault?, hasType, isOfKind]
  · simp

/-- The check of a list as a schema does not break down. -/
theorem schemaCheck_arr_breakdown (items : List Json) :
    (schemaCheck dialect (.arr items)).breakdown = none := by
  rw [schemaCheck]
  · rfl
  · simp

theorem itemListCheck_eq_empty_iff (items : List Json) :
    itemListCheck dialect items = {} ↔ ∀ item ∈ items, schemaCheck dialect item = {} := by
  induction items with
  | nil => simp [itemListCheck]
  | cons item rest ih => rw [itemListCheck, FormCheck.andThen_eq_empty, ih, List.forall_mem_cons]

theorem partListCheck_eq_empty_iff (members : Json.Members) :
    partListCheck dialect members = {} ↔ ∀ member ∈ members, schemaCheck dialect member.2 = {} := by
  induction members with
  | nil => simp [partListCheck]
  | cons member rest ih => rw [partListCheck, FormCheck.andThen_eq_empty, ih, List.forall_mem_cons]

theorem choiceListCheck_eq_empty_iff (namesFault? : Json → Option FormFault)
    (members : Json.Members) :
    choiceListCheck dialect namesFault? members = {} ↔
      ∀ member ∈ members, (schemaCheck dialect member.2).orElse member.2
        (.ofFault (namesFault? member.2)) = {} := by
  induction members with
  | nil => simp [choiceListCheck]
  | cons member rest ih =>
    rw [choiceListCheck, FormCheck.andThen_eq_empty, ih, List.forall_mem_cons]

/-- A value is a list of schemas if it is a list with something in it, and schemas only. -/
theorem schemaListCheck_eq_empty_iff (value : Json) :
    schemaListCheck dialect value (itemsCheck dialect value) = {} ↔
      ∃ items, value = .arr items ∧ items ≠ [] ∧ ∀ item ∈ items, schemaCheck dialect item = {} := by
  rw [schemaListCheck, typeCheck_eq_empty, FormCheck.andThen_eq_empty, FormCheck.ofFault_eq_empty]
  constructor
  · rintro ⟨harray, hnonempty, hitems⟩
    obtain ⟨items, rfl⟩ := eq_arr_of_hasType harray
    rw [itemsCheck, itemListCheck_eq_empty_iff] at hitems
    refine ⟨items, rfl, ?_, hitems⟩
    rintro rfl
    simp [emptinessFault?] at hnonempty
  · rintro ⟨items, rfl, hnonempty, hitems⟩
    refine ⟨rfl, ?_, (itemListCheck_eq_empty_iff items).2 hitems⟩
    cases items with
    | nil => contradiction
    | cons item rest => rfl

/-- The names in an object are the same once it is relaxed member by member. -/
theorem nameRegexCheck_mapValues (members : Json.Members) :
    nameRegexCheck (.obj (members.map fun member => (member.1, member.2.relax))) =
      nameRegexCheck (.obj members) := by
  simp [nameRegexCheck, Json.members, List.foldl_map]

/-- What relaxing does to the schemas inside a value. -/
def KeepsForm (dialect : Dialect) (value : Json) : Prop :=
  ∀ part, Json.Inside part value → schemaCheck dialect part = {} →
    schemaCheck dialect part.relax = {}

/-- A list of schemas is relaxed to a list of schemas. -/
theorem schemaListCheck_relax {value : Json} (hkeeps : KeepsForm dialect value)
    (h : schemaListCheck dialect value (itemsCheck dialect value) = {}) :
    schemaListCheck dialect value.relax (itemsCheck dialect value.relax) = {} := by
  obtain ⟨items, rfl, hnonempty, hitems⟩ := (schemaListCheck_eq_empty_iff value).1 h
  rw [Json.relax_arr, schemaListCheck_eq_empty_iff]
  refine ⟨_, rfl, by simpa using hnonempty, List.forall_mem_map.2 fun item hitem => ?_⟩
  exact hkeeps item (.of_item hitem) (hitems item hitem)

/-- A schema or a list of schemas is relaxed to one. -/
theorem schemaOrListCheck_relax {value : Json} (hkeeps : KeepsForm dialect value)
    (h : (schemaCheck dialect value).orElse value
      (schemaListCheck dialect value (itemsCheck dialect value)) = {}) :
    (schemaCheck dialect value.relax).orElse value.relax
      (schemaListCheck dialect value.relax (itemsCheck dialect value.relax)) = {} := by
  rw [FormCheck.orElse_eq_empty] at h ⊢
  refine h.imp (hkeeps value .self) ?_
  rintro ⟨-, hlist⟩
  refine ⟨?_, schemaListCheck_relax hkeeps hlist⟩
  obtain ⟨items, rfl, -⟩ := (schemaListCheck_eq_empty_iff value).1 hlist
  rw [Json.relax_arr]
  exact schemaCheck_arr_breakdown _

/-- Schemas under names are relaxed one by one: none of them is a text, so that none pins an
identifier. -/
theorem relax_schemas {members : Json.Members} (hnodup : (keys members).Nodup)
    (h : ∀ member ∈ members, ∀ s, member.2 ≠ .str s) :
    Json.relax (.obj members) = .obj (members.map fun member => (member.1, member.2.relax)) := by
  refine Json.relax_obj_of_unpinned hnodup ?_
  rintro ⟨member, hmember, hpinned⟩
  obtain ⟨-, s, hs⟩ := Json.pinsIdentifier_eq_true hpinned
  exact h member hmember s hs

/-- Schemas under names are relaxed to schemas under the same names. -/
theorem schemasCheck_relax {value : Json} (hvalue : value.IsRelaxable)
    (hkeeps : KeepsForm dialect value) (hobject : hasType dialect "object" value = true)
    (h : partsCheck dialect value = {}) :
    hasType dialect "object" value.relax = true ∧ partsCheck dialect value.relax = {} ∧
      nameRegexCheck value.relax = nameRegexCheck value := by
  obtain ⟨members, rfl⟩ := eq_obj_of_hasType hobject
  rw [partsCheck, partListCheck_eq_empty_iff] at h
  rw [relax_schemas hvalue.keys_nodup fun member hmember s hs => by
    exact schemaCheck_str_ne_empty s (hs ▸ h member hmember)]
  refine ⟨rfl, ?_, nameRegexCheck_mapValues members⟩
  rw [partsCheck, partListCheck_eq_empty_iff]
  exact List.forall_mem_map.2 fun member hmember =>
    hkeeps member.2 (.of_member hmember) (h member hmember)

/-- Schemas or lists of names under names are relaxed to such under the same names. -/
theorem choicesCheck_relax {value : Json} (hvalue : value.IsRelaxable)
    (hkeeps : KeepsForm dialect value) (hobject : hasType dialect "object" value = true)
    (h : choicesCheck dialect (nameListFault? dialect) value = {}) :
    hasType dialect "object" value.relax = true ∧
      choicesCheck dialect (nameListFault? dialect) value.relax = {} := by
  obtain ⟨members, rfl⟩ := eq_obj_of_hasType hobject
  rw [choicesCheck, choiceListCheck_eq_empty_iff] at h
  simp only [FormCheck.orElse_eq_empty, FormCheck.ofFault_eq_empty] at h
  rw [relax_schemas hvalue.keys_nodup fun member hmember s hs => by
    rcases h member hmember with hschema | ⟨-, hnames⟩
    · exact schemaCheck_str_ne_empty s (hs ▸ hschema)
    · obtain ⟨names, hlist⟩ := exists_texts_of_nameListFault? hnames
      rw [hs] at hlist
      cases hlist]
  refine ⟨rfl, ?_⟩
  rw [choicesCheck, choiceListCheck_eq_empty_iff]
  refine List.forall_mem_map.2 fun member hmember => ?_
  rw [FormCheck.orElse_eq_empty, FormCheck.ofFault_eq_empty]
  refine (h member hmember).imp (hkeeps member.2 (.of_member hmember)) ?_
  rintro ⟨hbreakdown, hnames⟩
  obtain ⟨names, hlist⟩ := exists_texts_of_nameListFault? hnames
  rw [hlist] at hbreakdown hnames ⊢
  rw [Json.relax_texts]
  exact ⟨hbreakdown, hnames⟩

/-- Truth values or lists of names under names are relaxed as they are. -/
theorem relax_of_memberFaults {value : Json} (hvalue : value.IsRelaxable)
    (hobject : hasType dialect "object" value = true)
    (h : (∀ member ∈ value.members, hasType dialect "boolean" member.2 = true) ∨
      ∀ member ∈ value.members, nameListFault? dialect member.2 = none) :
    value.relax = value := by
  obtain ⟨members, rfl⟩ := eq_obj_of_hasType hobject
  refine relax_obj_of_values hvalue.keys_nodup ?_
  intro member hmember
  rcases h with htruths | hlists
  · have htruth := htruths member hmember
    refine ⟨relax_of_hasType (by simp) htruth, ?_⟩
    intro s hs
    rw [hs] at htruth
    simp [hasType, isOfKind] at htruth
  · obtain ⟨names, hnames⟩ := exists_texts_of_nameListFault? (hlists member hmember)
    rw [hnames]
    exact ⟨Json.relax_texts names, by simp⟩

end Parts

/-! ## Schemas -/

section Schemas

variable {dialect : Dialect}

/-- The value of a keyword that has the form since draft-06 keeps it when it is relaxed. -/
theorem valueCheck_relax (hdialect : dialect.isSince .draft06) {keyword : String} {value : Json}
    (hvalue : value.IsRelaxable) (hkeeps : KeepsForm dialect value)
    (h : valueCheck dialect keyword value = {}) : valueCheck dialect keyword value.relax = {} := by
  have hsame : value.relax = value → valueCheck dialect keyword value.relax = {} := by
    intro heq
    rw [heq]
    exact h
  cases hshape : find? keyword dialect.shapes with
  | none => simp [valueCheck, memberChecks, hshape, find?]
  | some shape =>
    have hearly := isEarly_eq_false hdialect hshape
    cases shape <;>
      simp only [valueCheck, memberChecks, hshape, find?, if_true, Option.getD_some, plainFault?,
        FormCheck.ofFault_eq_empty, typeCheck_eq_empty, FormCheck.andThen_eq_empty,
        Option.or_eq_none_iff, typeFault?_eq_none_iff] at h hsame ⊢
    case text => exact hsame (relax_of_hasType (by simp) h)
    case textLike pattern => exact hsame (relax_of_hasType (by simp) h.1)
    case regex => exact hsame (relax_of_hasType (by simp) h.1)
    case truth => exact hsame (relax_of_hasType (by simp) h)
    case number => exact hsame (relax_of_hasType (by simp) h)
    case positiveNumber => exact hsame (relax_of_hasType (by simp) h.1)
    case count => exact hsame (relax_of_hasType (by simp) h.1)
    case truths =>
      refine hsame (relax_of_memberFaults hvalue h.1 (.inl ?_))
      simpa only [List.findSome?_eq_none_iff, typeFault?_eq_none_iff] using h.2
    case nameLists =>
      refine hsame (relax_of_memberFaults hvalue h.1 (.inr ?_))
      simpa only [List.findSome?_eq_none_iff] using h.2
    case list =>
      obtain ⟨items, rfl⟩ := eq_arr_of_hasType h
      rw [Json.relax_arr]
      rfl
    case typeNames =>
      refine hsame (isTypeText_of_isTypeNames ?_).relax_eq
      split at h
      next hnames => exact hnames
      next => cases h
    case nameList =>
      obtain ⟨names, rfl⟩ := exists_texts_of_nameListFault? h
      exact hsame (Json.relax_texts names)
    case schema => exact hkeeps value .self h
    case schemaList => exact schemaListCheck_relax hkeeps h
    case schemaOrList => exact schemaOrListCheck_relax hkeeps h
    case schemas =>
      obtain ⟨hobject, hparts, -⟩ := schemasCheck_relax hvalue hkeeps h.1 h.2
      exact ⟨hobject, hparts⟩
    case schemasByRegex =>
      obtain ⟨hobject, hparts, hnames⟩ := schemasCheck_relax hvalue hkeeps h.1 h.2.1
      exact ⟨hobject, hparts, hnames.trans h.2.2⟩
    case schemasOrNames => exact choicesCheck_relax hvalue hkeeps h.1 h.2
    -- What is left are shapes that no dialect since draft-06 demands.
    all_goals cases hearly

/-- Since draft-06 a relaxed schema has the form of the dialect that the schema has. -/
theorem schemaCheck_relax (hdialect : dialect.isSince .draft06) {schema : Json}
    (hschema : schema.IsRelaxable) (h : schemaCheck dialect schema = {}) :
    schemaCheck dialect schema.relax = {} := by
  induction hsize : sizeOf schema using Nat.strongRecOn generalizing schema with
  | ind size ih =>
    subst hsize
    cases schema with
    | obj members =>
      rw [schemaCheck_obj_eq_empty_iff hdialect] at h
      rw [Json.relax_obj, schemaCheck_obj_eq_empty_iff hdialect]
      intro keyword value hfound
      rcases Json.mem_relaxedMembers (mem_of_find? hfound) with
        ⟨heq, -⟩ | ⟨old, hmember, -, rfl⟩
      · obtain ⟨rfl, rfl⟩ := Prod.mk.inj heq
        cases dialect <;> rfl
      · have hold := (find?_eq_some_iff_mem hschema.keys_nodup).2 hmember
        refine valueCheck_relax hdialect (hschema.member hmember) ?_ (h keyword old hold)
        intro part hpart hcheck
        exact ih (sizeOf part) (hpart.sizeOf_lt_of_member hmember)
          ((hschema.member hmember).inside hpart) hcheck rfl
    | arr items =>
      rw [schemaCheck] at h
      · have hnone : ¬ typesFault? dialect dialect.schemaTypes (.arr items) = none := by
          unfold Dialect.schemaTypes
          split <;> simp [typesFault?, hasType, isOfKind]
        exact absurd ((FormCheck.ofFault_eq_empty _).1 h) hnone
      · simp
    | _ => simpa using h

end Schemas

end TypeRegistry
