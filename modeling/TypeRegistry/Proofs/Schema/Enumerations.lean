import TypeRegistry.Proofs.Json.Ordered
import TypeRegistry.Proofs.Json.Reading
import TypeRegistry.Proofs.Schema.Duality

/-!
# What the comparison says about enumerations

The values of two enumerations are compared by keys: a string is its own key, any other value has
its sorted text for one.  Backward comparison asks that no key comes, forward comparison that none
goes, at every property that is compared and has an enumeration in both versions; what is found is
wrapped once for every object and array on the way to the property.

The keys stand for the values themselves as far as they tell them apart.  They fail to where a
number is written in two ways, as an integer and as a double or as the two zeros, and where a string
is the text of a value that is not a string.

Main results:

- Theorem `valueKey_eq_iff`: where keys tell values apart, one key is one value.
- Definition `ComparedLevelAt`: a level of a comparison with the way to it.
- Theorem `along_mem_violations_iff`: what is violated at a level is found with the way in front.
- Theorem `enumerations_judged`: backward comparison finds a new value that equals no old one,
  forward comparison an old value that equals no new one.
- Theorem `enumerations_judged_otherwise`: not the other way round, and only where keys tell values
  apart.
-/

namespace TypeRegistry

open Dictionary

/-! ## Keys of values -/

namespace Json

/-- A string is the text of a value that is not a string. -/
def IsTextOf (text value : Json) : Prop :=
  text = .str (value.write .spaced) ∧ ∀ s, value ≠ .str s

/-- The keys of two values tell whether they are the same: equal numbers in them are written alike,
and neither is the text of the other. -/
structure HaveTellingKeys (a b : Json) : Prop where
  numbers : AgreeOnNumbers a b
  left : ¬ IsTextOf a b
  right : ¬ IsTextOf b a

/-- The key of a value that is not a string is its sorted text. -/
theorem valueKey_of_ne_str {value : Json} (h : ∀ s, value ≠ .str s) :
    valueKey value = value.write .spaced := by
  cases value with
  | str s => exact absurd rfl (h s)
  | _ => rfl

/-- A string has another key than a value that is not a string, unless it is the text of the
value. -/
theorem valueKey_str_ne {s : String} {value : Json} (hne : ∀ t, value ≠ .str t)
    (h : ¬ IsTextOf (.str s) value) : valueKey (.str s) ≠ valueKey value :=
  fun heq => h ⟨congrArg Json.str (heq.trans (valueKey_of_ne_str hne)), hne⟩

/-- Where keys tell values apart, values have one key exactly if they are the same data. -/
theorem valueKey_eq_iff {a b : Json} (ha : a.IsSound) (hb : b.IsSound)
    (h : HaveTellingKeys a b) : valueKey a = valueKey b ↔ sameData a b = true := by
  have hordered := sameData_iff_ordered_eq ha.wellFormed hb.wellFormed h.numbers
  by_cases hleft : ∃ s, a = .str s
  · obtain ⟨s, rfl⟩ := hleft
    by_cases hright : ∃ t, b = .str t
    · obtain ⟨t, rfl⟩ := hright
      simp [valueKey, sameData, equalBy, sameScalarData]
    · rw [not_exists] at hright
      refine iff_of_false (valueKey_str_ne hright h.left) fun hsame => ?_
      rw [hordered] at hsame
      cases b <;> simp_all [ordered]
  · rw [not_exists] at hleft
    by_cases hright : ∃ t, b = .str t
    · obtain ⟨t, rfl⟩ := hright
      refine iff_of_false (valueKey_str_ne hleft h.right).symm fun hsame => ?_
      rw [hordered] at hsame
      cases a <;> simp_all [ordered]
    · rw [not_exists] at hright
      rw [valueKey_of_ne_str hleft, valueKey_of_ne_str hright,
        write_spaced_eq_iff ha.doubles hb.doubles, hordered]

end Json

/-! ## What a violation is about -/

/-- What a violation can be about: required names, a part of a property, or something below it. -/
inductive Matter where
  | required
  | declaredType (property : String)
  | values (property : String)
  | bound (property : String)
  | inObject (property : String)
  | inItems (property : String)
deriving DecidableEq, Repr

/-- The property that a violation is at or below, if it is about one. -/
def Matter.property? : Matter → Option String
  | required => none
  | declaredType property | values property | bound property | inObject property
  | inItems property => some property

/-- What a violation is about. -/
def Violation.matter : Violation → Matter
  | requiredAdded _ | requiredRemoved _ => .required
  | typeChanged property _ _ => .declaredType property
  | valuesAdded property _ | valuesRemoved property _ => .values property
  | boundIncreased property _ _ _ | boundDecreased property _ _ _ | boundAdded property _ _
  | boundRemoved property _ => .bound property
  | inObject property _ => .inObject property
  | inItems property _ => .inItems property

section Matters

variable {mode : Mode} {property : String} {old new : Json.Members} {violation : Violation}

/-- What is found, unless there is nothing to find, is the one violation. -/
theorem eq_of_mem_unless {nothing : Prop} [Decidable nothing] {found : Violation}
    (h : violation ∈ if nothing then [] else [found]) : violation = found := by
  split at h
  · cases h
  · exact List.mem_singleton.1 h

/-- Required names give violations about required names. -/
theorem matter_of_mem_required {old new : FlatSchema}
    (h : violation ∈ requiredViolations mode old new) : violation.matter = .required := by
  cases mode with
  | backward => exact congrArg Violation.matter (eq_of_mem_unless h)
  | forward => exact congrArg Violation.matter (eq_of_mem_unless h)

/-- Types give violations about the type of the property. -/
theorem matter_of_mem_type (h : violation ∈ typeViolations property old new) :
    violation.matter = .declaredType property := by
  rw [typeViolations] at h
  split at h
  · rw [List.mem_singleton.1 h, Violation.matter]
  · cases h

/-- Enumerations give violations about the values of the property. -/
theorem matter_of_mem_enum (h : violation ∈ enumViolations mode property old new) :
    violation.matter = .values property := by
  rw [enumViolations] at h
  split at h
  next =>
    cases mode with
    | backward => exact congrArg Violation.matter (eq_of_mem_unless h)
    | forward => exact congrArg Violation.matter (eq_of_mem_unless h)
  next => cases h

/-- What the bounds at one end of a range give says that the bound of the property with the keyword
of that end moved, came in or went away. -/
theorem eq_of_mem_bound {rangeEnd : RangeEnd}
    (h : violation ∈ boundViolations mode property old new rangeEnd) :
    ∃ keyword, boundKeyword? (declaredType old) rangeEnd = some keyword ∧
      ((∃ past now, violation = .boundIncreased property keyword past now ∨
          violation = .boundDecreased property keyword past now) ∨
        (∃ now, violation = .boundAdded property keyword now) ∨
        violation = .boundRemoved property keyword) := by
  have hmoved {keyword : String} {past now o n : Double}
      (h : violation ∈ if tightens rangeEnd past now then [boundMoved property keyword o n]
        else []) : violation = .boundIncreased property keyword o n ∨
          violation = .boundDecreased property keyword o n := by
    split at h
    · rw [List.mem_singleton.1 h, boundMoved]
      split
      · exact .inl rfl
      · exact .inr rfl
    · cases h
  rw [boundViolations] at h
  split at h
  next => cases h
  next keyword hkeyword =>
    refine ⟨keyword, hkeyword, ?_⟩
    split at h
    next => exact .inl ⟨_, _, hmoved h⟩
    next => exact .inr (.inl ⟨_, List.mem_singleton.1 h⟩)
    next => exact .inl ⟨_, _, hmoved h⟩
    next => exact .inr (.inr (List.mem_singleton.1 h))
    next => cases h

/-- Bounds give violations about a bound of the property. -/
theorem matter_of_mem_bound {rangeEnd : RangeEnd}
    (h : violation ∈ boundViolations mode property old new rangeEnd) :
    violation.matter = .bound property := by
  obtain ⟨keyword, -, ⟨past, now, rfl | rfl⟩ | ⟨now, rfl⟩ | rfl⟩ := eq_of_mem_bound h <;> rfl

/-- What is violated at a property itself is its type, its values or a bound. -/
theorem matter_of_mem_property (h : violation ∈ propertyViolations mode property old new) :
    violation.matter = .declaredType property ∨ violation.matter = .values property ∨
      violation.matter = .bound property := by
  simp only [propertyViolations, List.mem_append] at h
  rcases h with ((h | h) | h) | h
  · exact .inl (matter_of_mem_type h)
  · exact .inr (.inl (matter_of_mem_enum h))
  · exact .inr (.inr (matter_of_mem_bound h))
  · exact .inr (.inr (matter_of_mem_bound h))

/-- Of the violations at a property those about values come from the enumerations. -/
theorem mem_propertyViolations_of_values (h : violation.matter = .values property) :
    violation ∈ propertyViolations mode property old new ↔
      violation ∈ enumViolations mode property old new := by
  simp only [propertyViolations, List.mem_append]
  constructor
  · rintro (((hmem | hmem) | hmem) | hmem)
    · cases h.symm.trans (matter_of_mem_type hmem)
    · exact hmem
    · cases h.symm.trans (matter_of_mem_bound hmem)
    · cases h.symm.trans (matter_of_mem_bound hmem)
  · exact fun hmem => .inl (.inl (.inr hmem))

end Matters

/-! ## Violations below a level -/

section Levels

variable {mode : Mode} {old new : Json} {violation : Violation}

/-- What the comparison finds at a property that both versions have, and below it. -/
inductive FoundAt (mode : Mode) (name : String) (inOld inNew : Json.Members) : Violation → Prop
  | itself {violation : Violation} (h : violation ∈ propertyViolations mode name inOld inNew) :
      FoundAt mode name inOld inNew violation
  | inObject {violation : Violation} (hold : declaredType inOld = "object")
      (hnew : declaredType inNew = "object")
      (h : violation ∈ violations mode (.obj inOld) (.obj inNew)) :
      FoundAt mode name inOld inNew (.inObject name violation)
  | inItems {violation : Violation} {itemOld itemNew : Json.Members}
      (hold : declaredType inOld = "array") (hnew : declaredType inNew = "array")
      (holdItems : find? "items" inOld = some (.obj itemOld))
      (hnewItems : find? "items" inNew = some (.obj itemNew))
      (h : violation ∈ violations mode (.obj itemOld) (.obj itemNew)) :
      FoundAt mode name inOld inNew (.inItems name violation)

/-- What is found at a property and below it. -/
theorem mem_violationsAt_iff {name : String} {inOld inNew : Json.Members} :
    violation ∈ violationsAt mode name inOld inNew ↔ FoundAt mode name inOld inNew violation := by
  rw [violationsAt, List.mem_append, List.mem_append]
  constructor
  · rintro ((h | h) | h)
    · exact .itself h
    · split at h
      next htypes =>
        obtain ⟨inner, hinner, rfl⟩ := List.mem_map.1 h
        exact .inObject htypes.1 htypes.2 hinner
      next => cases h
    · split at h
      next htypes =>
        obtain ⟨itemOld, itemNew, holdItems, hnewItems, h⟩ := mem_onObjects_iff.1 h
        obtain ⟨inner, hinner, rfl⟩ := List.mem_map.1 h
        exact .inItems htypes.1 htypes.2 holdItems hnewItems hinner
      next => cases h
  · intro h
    cases h with
    | itself h => exact .inl (.inl h)
    | inObject holdType hnewType h =>
      rw [if_pos ⟨holdType, hnewType⟩]
      exact .inl (.inr (List.mem_map_of_mem h))
    | inItems holdType hnewType holdItems hnewItems h =>
      rw [if_pos (⟨holdType, hnewType⟩ : _ = "array" ∧ _ = "array"), mem_onObjects_iff]
      exact .inr ⟨_, _, holdItems, hnewItems, List.mem_map_of_mem h⟩

/-- A violation is one by required names, or is found at a property that both versions have. -/
theorem mem_violations_iff :
    violation ∈ violations mode old new ↔
      violation ∈ requiredViolations mode old.flatten new.flatten ∨
      ∃ name inOld inNew, find? name old.flatten.properties = some (.obj inOld) ∧
        find? name new.flatten.properties = some (.obj inNew) ∧
        FoundAt mode name inOld inNew violation := by
  rw [violations_eq, List.mem_append, List.mem_flatMap]
  simp only [mem_onObjects_iff, mem_violationsAt_iff]
  refine or_congr_right ⟨?_, ?_⟩
  · rintro ⟨name, -, hfound⟩
    exact ⟨name, hfound⟩
  · rintro ⟨name, inOld, inNew, hold, hnew, hfound⟩
    exact ⟨name, mem_commonNames hold hnew, inOld, inNew, hold, hnew, hfound⟩

/-- Nothing that is found at one property is found at another. -/
theorem FoundAt.name_eq {name property : String} {inOld inNew : Json.Members}
    (h : FoundAt mode name inOld inNew violation)
    (hmatter : violation.matter.property? = some property) : name = property := by
  cases h with
  | itself h =>
    rcases matter_of_mem_property h with hown | hown | hown <;>
      · rw [hown] at hmatter
        exact Option.some.inj hmatter
  | inObject _ _ _ => exact Option.some.inj hmatter
  | inItems _ _ _ _ _ => exact Option.some.inj hmatter

/-- A violation that is not by required names is found at the property that it is about. -/
theorem mem_violations_at_iff {name : String} {inOld inNew : Json.Members}
    (hold : find? name old.flatten.properties = some (.obj inOld))
    (hnew : find? name new.flatten.properties = some (.obj inNew))
    (hmatter : violation.matter.property? = some name) :
    violation ∈ violations mode old new ↔ FoundAt mode name inOld inNew violation := by
  rw [mem_violations_iff]
  constructor
  · rintro (h | ⟨property, o, n, ho, hn, h⟩)
    · rw [matter_of_mem_required h] at hmatter
      cases hmatter
    · obtain rfl := h.name_eq hmatter
      obtain rfl := Json.obj.inj (Option.some.inj (hold.symm.trans ho))
      obtain rfl := Json.obj.inj (Option.some.inj (hnew.symm.trans hn))
      exact h
  · exact fun h => .inr ⟨name, inOld, inNew, hold, hnew, h⟩

/-- A step from a level of a comparison to one below: into a property that is an object, or into the
items of one that is an array. -/
inductive LevelStep where
  | intoObject (property : String)
  | intoItems (property : String)
deriving DecidableEq, Repr

/-- A violation at the end of a way, as it is found at the beginning. -/
def Violation.along : List LevelStep → Violation → Violation
  | [], violation => violation
  | .intoObject property :: way, violation => .inObject property (violation.along way)
  | .intoItems property :: way, violation => .inItems property (violation.along way)

/-- The levels at which two schemas are compared, each with the way to it. -/
inductive ComparedLevelAt : List LevelStep → (old new levelOld levelNew : Json) → Prop
  | here {old new : Json} : ComparedLevelAt [] old new old new
  | intoObject {way : List LevelStep} {old new levelOld levelNew : Json} {name : String}
      {inOld inNew : Json.Members}
      (hold : find? name old.flatten.properties = some (.obj inOld))
      (hnew : find? name new.flatten.properties = some (.obj inNew))
      (holdType : declaredType inOld = "object") (hnewType : declaredType inNew = "object")
      (hlevel : ComparedLevelAt way (.obj inOld) (.obj inNew) levelOld levelNew) :
      ComparedLevelAt (.intoObject name :: way) old new levelOld levelNew
  | intoItems {way : List LevelStep} {old new levelOld levelNew : Json} {name : String}
      {inOld inNew itemOld itemNew : Json.Members}
      (hold : find? name old.flatten.properties = some (.obj inOld))
      (hnew : find? name new.flatten.properties = some (.obj inNew))
      (holdType : declaredType inOld = "array") (hnewType : declaredType inNew = "array")
      (holdItems : find? "items" inOld = some (.obj itemOld))
      (hnewItems : find? "items" inNew = some (.obj itemNew))
      (hlevel : ComparedLevelAt way (.obj itemOld) (.obj itemNew) levelOld levelNew) :
      ComparedLevelAt (.intoItems name :: way) old new levelOld levelNew

/-- A level is compared exactly if there is a way to it. -/
theorem comparedLevel_iff_exists_way {levelOld levelNew : Json} :
    ComparedLevel old new levelOld levelNew ↔
      ∃ way, ComparedLevelAt way old new levelOld levelNew := by
  constructor
  · intro h
    induction h with
    | self => exact ⟨[], .here⟩
    | object hold hnew holdType hnewType _ ih =>
      obtain ⟨way, hway⟩ := ih
      exact ⟨_, .intoObject hold hnew holdType hnewType hway⟩
    | items hold hnew holdType hnewType holdItems hnewItems _ ih =>
      obtain ⟨way, hway⟩ := ih
      exact ⟨_, .intoItems hold hnew holdType hnewType holdItems hnewItems hway⟩
  · rintro ⟨way, h⟩
    induction h with
    | here => exact .self
    | intoObject hold hnew holdType hnewType _ ih => exact .object hold hnew holdType hnewType ih
    | intoItems hold hnew holdType hnewType holdItems hnewItems _ ih =>
      exact .items hold hnew holdType hnewType holdItems hnewItems ih

/-- What is violated at a level is found with the way to the level in front, and nothing else is. -/
theorem along_mem_violations_iff {way : List LevelStep} {levelOld levelNew : Json}
    (h : ComparedLevelAt way old new levelOld levelNew) :
    violation.along way ∈ violations mode old new ↔
      violation ∈ violations mode levelOld levelNew := by
  induction h with
  | here => rfl
  | @intoObject way old new levelOld levelNew name inOld inNew hold hnew holdType hnewType _ ih =>
    rw [Violation.along, mem_violations_at_iff hold hnew rfl, ← ih]
    constructor
    · rintro (h | ⟨-, -, h⟩)
      · simpa [Violation.matter] using matter_of_mem_property h
      · exact h
    · exact fun h => .inObject holdType hnewType h
  | @intoItems way old new levelOld levelNew name inOld inNew itemOld itemNew hold hnew holdType
      hnewType holdItems hnewItems _ ih =>
    rw [Violation.along, mem_violations_at_iff hold hnew rfl, ← ih]
    constructor
    · rintro (h | _ | ⟨-, -, holdItems', hnewItems', h⟩)
      · simpa [Violation.matter] using matter_of_mem_property h
      · obtain rfl := Json.obj.inj (Option.some.inj (holdItems.symm.trans holdItems'))
        obtain rfl := Json.obj.inj (Option.some.inj (hnewItems.symm.trans hnewItems'))
        exact h
    · exact fun h => .inItems holdType hnewType holdItems hnewItems h

/-- Of what is found at a property only what its enumerations give is about its values. -/
theorem foundAt_iff_of_values {name : String} {inOld inNew : Json.Members}
    (hmatter : violation.matter = .values name) :
    FoundAt mode name inOld inNew violation ↔ violation ∈ enumViolations mode name inOld inNew := by
  rw [← mem_propertyViolations_of_values hmatter]
  constructor
  · intro h
    cases h with
    | itself h => exact h
    | inObject _ _ _ => cases hmatter
    | inItems _ _ _ _ _ => cases hmatter
  · exact .itself

/-- Comparison finds a violation about the values of a property, with the way to the property in
front. -/
def ViolatesValues (mode : Mode) (old new : Json) (way : List LevelStep) (name : String) : Prop :=
  ∃ violation : Violation, violation.matter = .values name ∧
    violation.along way ∈ violations mode old new

/-- Comparison finds a violation about the values of a property exactly if its enumerations give
one. -/
theorem violatesValues_iff {way : List LevelStep} {levelOld levelNew : Json} {name : String}
    {inOld inNew : Json.Members} (hlevel : ComparedLevelAt way old new levelOld levelNew)
    (hold : find? name levelOld.flatten.properties = some (.obj inOld))
    (hnew : find? name levelNew.flatten.properties = some (.obj inNew)) :
    ViolatesValues mode old new way name ↔ enumViolations mode name inOld inNew ≠ [] := by
  have hiff (violation : Violation) (hmatter : violation.matter = .values name) :
      violation.along way ∈ violations mode old new ↔
        violation ∈ enumViolations mode name inOld inNew := by
    rw [along_mem_violations_iff hlevel,
      mem_violations_at_iff hold hnew (congrArg Matter.property? hmatter),
      foundAt_iff_of_values hmatter]
  constructor
  · rintro ⟨violation, hmatter, h⟩
    exact List.ne_nil_of_mem ((hiff violation hmatter).1 h)
  · intro h
    obtain ⟨violation, hmem⟩ := List.exists_mem_of_ne_nil _ h
    have hmatter := matter_of_mem_enum hmem
    exact ⟨violation, hmatter, (hiff violation hmatter).2 hmem⟩

end Levels

/-! ## Enumerations -/

/-- A level that is compared is inside the schema. -/
theorem ComparedLevel.inside {old new levelOld levelNew : Json}
    (h : ComparedLevel old new levelOld levelNew) : Json.Inside levelOld old := by
  induction h with
  | self => exact .self
  | object hold _ _ _ _ ih => exact ih.trans (Json.inside_of_find?_flatten hold)
  | items hold _ _ _ holdItems _ _ ih =>
    have hproperty := Json.inside_of_find?_flatten hold
    exact ih.trans (.trans (.of_member (mem_of_find? holdItems)) hproperty)

/-- The values of an enumeration are inside the property. -/
theorem inside_of_mem_enumeration? {members : Json.Members} {values : List Json} {value : Json}
    (h : enumeration? members = some values) (hvalue : value ∈ values) :
    Json.Inside value (.obj members) := by
  rw [enumeration?] at h
  split at h
  next first rest hfound =>
    obtain rfl := Option.some.inj h
    exact .trans (.of_item hvalue) (.of_member (mem_of_find? hfound))
  next => cases h

/-- Of two properties with enumerations backward comparison finds a new value whose key is that of
no old one, forward comparison an old value whose key is that of no new one. -/
theorem enumViolations_ne_nil_iff {mode : Mode} {name : String} {inOld inNew : Json.Members}
    {oldValues newValues : List Json} (hold : enumeration? inOld = some oldValues)
    (hnew : enumeration? inNew = some newValues) :
    enumViolations mode name inOld inNew ≠ [] ↔
      ∃ read ∈ mode.reader oldValues newValues, ∀ written ∈ mode.writer oldValues newValues,
        valueKey read ≠ valueKey written := by
  have hreader : enumeration? (mode.reader inOld inNew) =
      some (mode.reader oldValues newValues) := by cases mode <;> assumption
  have hwriter : enumeration? (mode.writer inOld inNew) =
      some (mode.writer oldValues newValues) := by cases mode <;> assumption
  have hnil : enumViolations mode name inOld inNew = [] ↔
      ∀ read ∈ mode.reader oldValues newValues,
        valueKey read ∈ (mode.writer oldValues newValues).map valueKey := by
    rw [enumViolations_eq_nil_iff, ← List.forall_mem_map]
    constructor
    · exact fun h => h _ _ hreader hwriter
    · rintro h read written hread hwritten
      obtain rfl := Option.some.inj (hreader.symm.trans hread)
      obtain rfl := Option.some.inj (hwriter.symm.trans hwritten)
      exact h
  rw [Ne, hnil]
  simp only [List.mem_map, not_forall, not_exists, not_and, exists_prop, ne_eq, eq_comm]

/-- Backward comparison finds, with the way to the property in front, a violation by the values of
an enumeration exactly if a new value equals no old one; forward comparison exactly if an old value
equals no new one. -/
theorem enumerations_judged {way : List LevelStep} {old new levelOld levelNew : Json}
    {name : String} {inOld inNew : Json.Members} {oldValues newValues : List Json}
    (holdSound : old.IsSound) (hnewSound : new.IsSound)
    (hlevel : ComparedLevelAt way old new levelOld levelNew)
    (hold : find? name levelOld.flatten.properties = some (.obj inOld))
    (hnew : find? name levelNew.flatten.properties = some (.obj inNew))
    (holdValues : enumeration? inOld = some oldValues)
    (hnewValues : enumeration? inNew = some newValues)
    (hkeys : ∀ a ∈ oldValues, ∀ b ∈ newValues, Json.HaveTellingKeys a b) :
    (ViolatesValues .backward old new way name ↔
      ∃ b ∈ newValues, ∀ a ∈ oldValues, Json.sameData a b = false) ∧
    (ViolatesValues .forward old new way name ↔
      ∃ a ∈ oldValues, ∀ b ∈ newValues, Json.sameData a b = false) := by
  have hcompared := comparedLevel_iff_exists_way.2 ⟨way, hlevel⟩
  have holdInside : ∀ a ∈ oldValues, Json.Inside a old := fun a ha =>
    ((inside_of_mem_enumeration? holdValues ha).trans (Json.inside_of_find?_flatten hold)).trans
      hcompared.inside
  have hnewInside : ∀ b ∈ newValues, Json.Inside b new := fun b hb =>
    ((inside_of_mem_enumeration? hnewValues hb).trans (Json.inside_of_find?_flatten hnew)).trans
      hcompared.symm.inside
  have hkey : ∀ a ∈ oldValues, ∀ b ∈ newValues,
      (valueKey a = valueKey b ↔ Json.sameData a b = true) := fun a ha b hb =>
    Json.valueKey_eq_iff (holdSound.inside (holdInside a ha)) (hnewSound.inside (hnewInside b hb))
      (hkeys a ha b hb)
  simp only [violatesValues_iff hlevel hold hnew, enumViolations_ne_nil_iff holdValues hnewValues]
  constructor
  · refine exists_congr fun b => and_congr_right fun hb => forall₂_congr fun a ha => ?_
    rw [Ne, eq_comm, hkey a ha b hb, Bool.not_eq_true]
  · refine exists_congr fun a => and_congr_right fun ha => forall₂_congr fun b hb => ?_
    rw [Ne, hkey a ha b hb, Bool.not_eq_true]

/-- An order whose lines are of some sizes. -/
def sizesSchema (sizes : List Json) : Json :=
  .obj [("properties", .obj [("lines", .obj [("type", .str "array"),
    ("items", countSchema [("enum", .arr sizes)])])])]

/-- The double that is written 2.5. -/
def twoAndAHalf : Double := .finite false (5 * 2 ^ 50) (-51)

/-- The keys of these sizes tell them apart. -/
theorem haveTellingKeys_sizes : ∀ a ∈ [Json.str "s", .int 1],
    ∀ b ∈ [Json.int 1, .float twoAndAHalf, .str "s"], Json.HaveTellingKeys a b := by
  have htexts : Json.write .spaced (.int 1) = "1" ∧
      Json.write .spaced (.float twoAndAHalf) = "2.5" := by decide +kernel
  have hsame : Json.sameData (.int 1) (.float twoAndAHalf) = false ∧
      Json.sameData (.int 1) (.str "s") = false := by decide +kernel
  have hnumber : ∀ a ∈ [Json.str "s", .int 1], ∀ b ∈ [Json.int 1, .float twoAndAHalf, .str "s"],
      (Json.number? a).isSome = true → Json.sameData a b = true → a = b := by
    simp [Json.number?, hsame]
  have hleaf : ∀ a ∈ [Json.str "s", .int 1],
      (∀ items, a ≠ .arr items) ∧ ∀ members, a ≠ .obj members := by simp
  have htext : ∀ a ∈ [Json.str "s", .int 1], ∀ b ∈ [Json.int 1, .float twoAndAHalf, .str "s"],
      ¬ Json.IsTextOf a b ∧ ¬ Json.IsTextOf b a := by
    simp [Json.IsTextOf, htexts]
  intro a ha b hb
  refine ⟨?_, (htext a ha b hb).1, (htext a ha b hb).2⟩
  exact (Json.agreeOnNumbers_leaf_iff (hleaf a ha).1 (hleaf a ha).2).2 (hnumber a ha b hb)

/-- A new size of the lines of an order is found backward, and nothing is found forward. -/
theorem enumerations_judged_sizes :
    let old := sizesSchema [.str "s", .int 1]
    let new := sizesSchema [.int 1, .float twoAndAHalf, .str "s"]
    ViolatesValues .backward old new [.intoItems "lines"] "count" ∧
      ¬ ViolatesValues .forward old new [.intoItems "lines"] "count" := by
  intro old new
  have hcanonical : twoAndAHalf.IsCanonical := by
    simp [twoAndAHalf, Double.IsCanonical, Double.leastExponent, Double.greatestExponent]
  have holdSound : old.IsSound := by
    constructor <;> simp [old, sizesSchema, countSchema, Json.WellFormed, Json.WellFormedMembers,
      Json.WellFormedItems, keys, Json.HasCanonicalDoubles, Json.inside_obj_iff,
      Json.inside_arr_iff, Json.inside_str_iff, Json.inside_int_iff]
  have hnewSound : new.IsSound := by
    constructor <;> simp [new, sizesSchema, countSchema, Json.WellFormed, Json.WellFormedMembers,
      Json.WellFormedItems, keys, Json.HasCanonicalDoubles, Json.inside_obj_iff,
      Json.inside_arr_iff, Json.inside_str_iff, Json.inside_int_iff, Json.inside_float_iff,
      hcanonical]
  have hlevel : ComparedLevelAt [.intoItems "lines"] old new
      (countSchema [("enum", .arr [.str "s", .int 1])])
      (countSchema [("enum", .arr [.int 1, .float twoAndAHalf, .str "s"])]) :=
    .intoItems rfl rfl rfl rfl rfl rfl .here
  have hjudged := @enumerations_judged _ _ _ _ _ "count" _ _ _ _ holdSound hnewSound hlevel
    rfl rfl rfl rfl haveTellingKeys_sizes
  constructor
  · rw [hjudged.1]
    exact ⟨.float twoAndAHalf, by simp, by decide +kernel⟩
  · rw [hjudged.2]
    decide +kernel

/-- A value that comes is found backward and not forward, though every old value is there still; a
number that comes for its own text is not found, and one that is written anew is found twice. -/
theorem enumerations_judged_otherwise :
    let found (mode : Mode) (old new : List Json) : List String :=
      (violations mode (countSchema [("enum", .arr old)])
        (countSchema [("enum", .arr new)])).map (·.message)
    let one : Json := .float (.finite false (2 ^ 52) (-52))
    found .backward [.str "x"] [.str "x", .str "y"] = ["Property 'count' added enum values: y"] ∧
    (∀ a ∈ [Json.str "x"], ∃ b ∈ [Json.str "x", .str "y"], Json.sameData a b = true) ∧
    found .forward [.str "x"] [.str "x", .str "y"] = [] ∧
    (∃ b ∈ [Json.str "x", .str "y"], ∀ a ∈ [Json.str "x"], Json.sameData a b = false) ∧
    found .backward [.str "1"] [.int 1] = [] ∧ found .forward [.str "1"] [.int 1] = [] ∧
    Json.sameData (.str "1") (.int 1) = false ∧
    found .backward [.int 1] [one] = ["Property 'count' added enum values: 1.0"] ∧
    found .forward [.int 1] [one] = ["Property 'count' removed enum values: 1"] ∧
    Json.sameData (.int 1) one = true := by
  decide +kernel

end TypeRegistry
