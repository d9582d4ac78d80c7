import TypeRegistry.Proofs.Lookup
import TypeRegistry.Schema.Validator

/-!
# What the form of a schema grants

A check of a form finds nothing exactly if none of its parts does.  So a schema that has the form of
draft 2020-12 has the demanded form keyword by keyword: its required names are texts, its properties
are members of an object, and the schemas inside it have the form as well.

Main results:

- Theorem `formOf_eq_valid_iff`: a schema that declares no dialect has the form of draft 2020-12.
- Theorem `HasForm.required`: the required names are texts.
- Theorems `HasForm.properties`, `HasForm.items`: the schemas inside have the form.
-/

namespace TypeRegistry

open Dictionary

/-! ## Checks that find nothing -/

namespace FormCheck

/-- Two checks one after the other find nothing if neither does. -/
@[simp]
theorem andThen_eq_empty (first second : FormCheck) :
    first.andThen second = {} ↔ first = {} ∧ second = {} := by
  obtain ⟨fault, breakdown⟩ := first
  obtain ⟨fault', breakdown'⟩ := second
  cases breakdown <;> simp [andThen, Option.or_eq_none_iff, and_assoc]

@[simp]
theorem ofFault_eq_empty (fault : Option FormFault) : ofFault fault = {} ↔ fault = none := by
  simp [ofFault]

end FormCheck

/-- A check for a type before another one finds nothing if the value is of the type and the other
finds nothing. -/
@[simp]
theorem typeCheck_eq_empty (dialect : Dialect) (name : String) (value : Json) (rest : FormCheck) :
    typeCheck dialect name value rest = {} ↔ hasType dialect name value ∧ rest = {} := by
  simp [typeCheck, typeFault?, typesFault?]

/-- Checks in the order of a table find nothing only if none of those in the table does. -/
theorem eq_empty_of_inTableOrder {table : List (String × Shape)} {checks : Dictionary FormCheck}
    (h : inTableOrder table checks = {}) {keyword : String} (hkeyword : keyword ∈ keys table)
    {check : FormCheck} (hcheck : find? keyword checks = some check) : check = {} := by
  have hall : ∀ first : FormCheck,
      table.foldl (fun check entry => check.andThen ((find? entry.1 checks).getD {})) first = {} →
        first = {} ∧ ∀ entry ∈ table, (find? entry.1 checks).getD {} = {} := by
    clear h hkeyword
    induction table with
    | nil => exact fun first h => ⟨h, by simp⟩
    | cons entry rest ih =>
      intro first h
      obtain ⟨hfirst, hrest⟩ := ih _ h
      rw [FormCheck.andThen_eq_empty] at hfirst
      exact ⟨hfirst.1, List.forall_mem_cons.2 ⟨hfirst.2, hrest⟩⟩
  obtain ⟨entry, hentry, rfl⟩ := List.mem_map.1 hkeyword
  have hempty := (hall {} h).2 entry hentry
  rwa [hcheck] at hempty

/-! ## The checks of keywords -/

/-- A keyword is checked under its own name if it is in the table. -/
theorem keys_memberChecks_singleton (dialect : Dialect) (keyword : String) (value : Json) :
    keys (memberChecks dialect [(keyword, value)]) =
      if has keyword dialect.shapes then [keyword] else [] := by
  rw [memberChecks]
  split
  next hshape => simp [has, hshape, memberChecks, keys]
  next shape hshape => simp [has, hshape, memberChecks, keys]

/-- The check of a keyword is the one for its value alone. -/
theorem find?_memberChecks (dialect : Dialect) {keyword : String} {value : Json}
    (hshape : has keyword dialect.shapes = true) {members : Json.Members}
    (hfound : find? keyword members = some value) :
    find? keyword (memberChecks dialect members) =
      find? keyword (memberChecks dialect [(keyword, value)]) := by
  induction members with
  | nil => cases hfound
  | cons member rest ih =>
    obtain ⟨key, old⟩ := member
    rw [memberChecks_cons, find?_append]
    rw [find?] at hfound
    split at hfound
    next hkey =>
      obtain rfl := Option.some.inj hfound
      subst hkey
      have hown : has key (memberChecks dialect [(key, old)]) = true := by
        rw [has_iff_mem_keys, keys_memberChecks_singleton, if_pos hshape]
        exact List.mem_singleton_self key
      exact Option.or_of_isSome hown
    next hkey =>
      have hother : has keyword (memberChecks dialect [(key, old)]) ≠ true := by
        rw [Ne, has_iff_mem_keys, keys_memberChecks_singleton]
        split <;> simp [Ne.symm hkey]
      have hnone : find? keyword (memberChecks dialect [(key, old)]) = none := by
        simpa [has] using hother
      rw [hnone, Option.none_or]
      exact ih hfound

/-! ## The form of draft 2020-12 -/

/-- A schema has the form of draft 2020-12. -/
def HasForm (members : Json.Members) : Prop :=
  schemaCheck .draft202012 (.obj members) = {}

/-- The verdict of a check is that nothing is wrong if it finds nothing. -/
theorem Verdict.ofForm_eq_valid {check : FormCheck} :
    Verdict.ofForm check = Verdict.valid ↔ check = {} := by
  obtain ⟨fault, breakdown⟩ := check
  cases fault <;> cases breakdown <;> simp [Verdict.ofForm, Verdict.invalid, Verdict.valid]

/-- A schema has the form of its dialect if it adopts one and the check of its form finds nothing. -/
theorem formOf_eq_valid_iff_exists {schema : Json} :
    formOf schema = Verdict.valid ↔
      ∃ dialect, Dialect.draft202012.adopt schema = .ok dialect ∧
        schemaCheck dialect schema = {} := by
  rw [formOf]
  cases Dialect.draft202012.adopt schema with
  | error cause => simp [Except.bind, Verdict.valid]
  | ok dialect =>
    simp only [Except.ok.injEq, exists_eq_left']
    exact Verdict.ofForm_eq_valid

/-- A schema that declares no dialect has the form of draft 2020-12 if it has the form of its
dialect. -/
theorem formOf_eq_valid_iff {members : Json.Members} (hdialect : find? "$schema" members = none) :
    formOf (.obj members) = Verdict.valid ↔ HasForm members := by
  have hadopt : Dialect.draft202012.adopt (.obj members) = .ok .draft202012 := by
    rw [Dialect.adopt, hdialect]
  rw [formOf_eq_valid_iff_exists, hadopt, HasForm]
  simp only [Except.ok.injEq, exists_eq_left']

namespace HasForm

variable {members : Json.Members} {value : Json}

/-- In a schema with the form of draft 2020-12 the check of every keyword finds nothing. -/
theorem check_eq_empty (h : HasForm members) {keyword : String}
    (hshape : has keyword Dialect.draft202012.shapes = true)
    (hfound : find? keyword members = some value) {check : FormCheck}
    (hcheck : find? keyword (memberChecks .draft202012 [(keyword, value)]) = some check) :
    check = {} := by
  rw [HasForm, schemaCheck, FormCheck.andThen_eq_empty] at h
  rw [← find?_memberChecks .draft202012 hshape hfound] at hcheck
  exact eq_empty_of_inTableOrder h.1 (has_iff_mem_keys.1 hshape) hcheck

/-- A type that is declared by one name is known. -/
theorem knowsType {typeName : String} (h : HasForm members)
    (hfound : find? "type" members = some (.str typeName)) :
    simpleTypes.contains typeName = true := by
  have hcheck := h.check_eq_empty (by decide) hfound
    (show find? "type" _ = some (.ofFault (if isTypeNames (.str typeName) then none
        else some (.finding (.noneAccepts (.str typeName))))) by
      simp [memberChecks, Dialect.shapes, draft202012Shapes, find?, plainFault?])
  rw [FormCheck.ofFault_eq_empty] at hcheck
  cases hknown : isTypeNames (.str typeName) with
  | true => exact hknown
  | false => simp [hknown] at hcheck

/-- The required names of a schema are texts. -/
theorem required (h : HasForm members) (hfound : find? "required" members = some value) :
    ∃ names, value = .arr names ∧ ∀ name ∈ names, ∃ text, name = .str text := by
  have hcheck := h.check_eq_empty (by decide) hfound
    (show find? "required" _ = some (.ofFault (nameListFault? .draft202012 value)) by
      simp [memberChecks, Dialect.shapes, draft202012Shapes, find?, plainFault?])
  rw [FormCheck.ofFault_eq_empty, nameListFault?, Option.or_eq_none_iff, Option.or_eq_none_iff]
    at hcheck
  obtain ⟨⟨harray, hitems⟩, -⟩ := hcheck
  obtain ⟨names, rfl⟩ : ∃ names, value = .arr names := by
    cases value <;> simp_all [typeFault?, typesFault?, hasType, isOfKind]
  rw [itemTypeFault?, List.findSome?_eq_none_iff] at hitems
  refine ⟨names, rfl, ?_⟩
  intro name hname
  have hfault := hitems name hname
  cases name <;> simp_all [typeFault?, typesFault?, hasType, isOfKind]

/-- The properties of a schema are schemas that have the form. -/
theorem properties (h : HasForm members) (hfound : find? "properties" members = some value) :
    ∃ schemas, value = .obj schemas ∧
      ∀ entry ∈ schemas, ∀ inner, entry.2 = .obj inner → HasForm inner := by
  have hcheck := h.check_eq_empty (by decide) hfound
    (show find? "properties" _ =
        some (typeCheck .draft202012 "object" value (partsCheck .draft202012 value)) by
      simp [memberChecks, Dialect.shapes, draft202012Shapes, find?])
  rw [typeCheck_eq_empty] at hcheck
  obtain ⟨hobject, hparts⟩ := hcheck
  obtain ⟨schemas, rfl⟩ : ∃ schemas, value = .obj schemas := by
    cases value <;> simp_all [hasType, isOfKind]
  refine ⟨schemas, rfl, ?_⟩
  rw [partsCheck] at hparts
  clear hfound hobject
  induction schemas with
  | nil => simp
  | cons entry rest ih =>
    obtain ⟨name, schema⟩ := entry
    rw [partListCheck, FormCheck.andThen_eq_empty] at hparts
    refine List.forall_mem_cons.2 ⟨?_, ih hparts.2⟩
    rintro inner rfl
    exact hparts.1

/-- The schema of the items has the form. -/
theorem items {inner : Json.Members} (h : HasForm members)
    (hfound : find? "items" members = some (.obj inner)) : HasForm inner :=
  h.check_eq_empty (by decide) hfound (by
    simp [memberChecks, Dialect.shapes, draft202012Shapes, find?])

end HasForm

end TypeRegistry
