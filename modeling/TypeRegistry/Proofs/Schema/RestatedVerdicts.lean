import TypeRegistry.Proofs.Schema.Comparison
import TypeRegistry.Proofs.Schema.Enumerations
import TypeRegistry.Proofs.Schema.Restating

/-!
# Verdicts on schemas that are written down otherwise

The comparison of two schemas does not see how they are written down.  It looks members up by name,
it reads required names and the values of an enumeration as sets, and it sorts the names and texts
that it lists.  So the violations are the same, in the same order, and the same schemas have bounds
that cannot be compared.

Main results:

- Theorem `onObjects_restated`: verdicts on restated values are the same if those on objects are.
- Theorem `propertyViolations_restated`: the verdict on a property itself is the same.
- Theorem `violations_restated`: the verdicts on restated schemas are the same.
-/

namespace TypeRegistry

open Dictionary

/-! ## Verdicts on what is restated -/

/-- Values that are the same in order are compared under one text. -/
theorem Json.valueKey_congr {a b : Json} (h : a.ordered = b.ordered) : valueKey a = valueKey b := by
  by_cases hstr : ∃ s, a = .str s
  · obtain ⟨s, rfl⟩ := hstr
    rw [ordered_eq_str_iff.1 h.symm]
  · have ha : ∀ s, a ≠ .str s := fun s hs => hstr ⟨s, hs⟩
    have hb : ∀ s, b ≠ .str s := fun s hs => ha s (ordered_eq_str_iff.1 (by rw [h, hs]; rfl))
    rw [valueKey_of_ne_str ha, valueKey_of_ne_str hb, write_spaced_eq, write_spaced_eq, h]

/-- The same entries are compared under the same texts. -/
theorem Json.SameEntries.valueKeys {items others : List Json} (h : Json.SameEntries items others)
    (key : String) : key ∈ items.map valueKey ↔ key ∈ others.map valueKey := by
  have hsubset {items others : List Json} (h : SameEntries items others)
      (hkey : key ∈ items.map valueKey) : key ∈ others.map valueKey := by
    obtain ⟨item, hitem, rfl⟩ := List.mem_map.1 hkey
    obtain ⟨other, hother, hordered⟩ := List.mem_map.1 ((h _).1 (List.mem_map_of_mem hitem))
    exact List.mem_map.2 ⟨other, hother, valueKey_congr hordered⟩
  exact ⟨hsubset h, hsubset h.symm⟩

/-- Which strings came depends on the two sets of strings only. -/
theorem newcomers_congr {now past now' past' : List String} (hnow : ∀ s, s ∈ now ↔ s ∈ now')
    (hpast : ∀ s, s ∈ past ↔ s ∈ past') : newcomers now past = newcomers now' past' := by
  refine Text.sortedDistinct_congr fun s => ?_
  simp only [List.mem_filter, List.contains_iff_mem, Bool.not_eq_true', Bool.eq_false_iff, ne_eq,
    hnow, hpast]

/-- The verdict on restated values is the same if it is wherever both are objects. -/
theorem onObjects_restated {α : Type} {default : α} {judge : Json.Members → Json.Members → α}
    {name : String} {old old' new new' : Json.Members}
    (hold : Json.RestatesUnder name (find? name old) (find? name old'))
    (hnew : Json.RestatesUnder name (find? name new) (find? name new'))
    (h : ∀ inOld inOld' inNew inNew', find? name old = some (.obj inOld) →
      Json.Restates (.obj inOld) (.obj inOld') → Json.Restates (.obj inNew) (.obj inNew') →
        judge inOld inNew = judge inOld' inNew') :
    onObjects default judge name old new = onObjects default judge name old' new' := by
  by_cases hobjects : ∃ inOld inNew, find? name old = some (.obj inOld) ∧
      find? name new = some (.obj inNew)
  · obtain ⟨inOld, inNew, hinOld, hinNew⟩ := hobjects
    rw [hinOld] at hold
    rw [hinNew] at hnew
    obtain ⟨inOld', hinOld', hrestated⟩ := hold.of_left
    obtain ⟨inNew', hinNew', hrestated'⟩ := hnew.of_left
    rw [onObjects_of_objects hinOld hinNew, onObjects_of_objects hinOld' hinNew',
      h _ _ _ _ hinOld hrestated hrestated']
  · have hother : ∀ inOld' inNew', find? name old' = some (.obj inOld') →
        find? name new' ≠ some (.obj inNew') := by
      intro inOld' inNew' hinOld' hinNew'
      rw [hinOld'] at hold
      rw [hinNew'] at hnew
      obtain ⟨inOld, hinOld, -⟩ := hold.of_right
      obtain ⟨inNew, hinNew, -⟩ := hnew.of_right
      exact hobjects ⟨inOld, inNew, hinOld, hinNew⟩
    rw [onObjects_of_other hother, onObjects_of_other fun inOld inNew hinOld hinNew =>
      hobjects ⟨inOld, inNew, hinOld, hinNew⟩]

section Level

variable {mode : Mode} {old old' new new' : FlatSchema} (hold : old.Restates old')
  (hnew : new.Restates new')
include hold hnew

/-- The verdict on required names is the same. -/
theorem requiredViolations_restated :
    requiredViolations mode old new = requiredViolations mode old' new' := by
  simp only [requiredViolations, newcomers_congr hnew.required hold.required,
    newcomers_congr hold.required hnew.required]

/-- The common names are the same, in the same order. -/
theorem commonNames_restated : commonNames old new = commonNames old' new' := by
  refine Text.sortedDistinct_congr fun name => ?_
  have hinOld : has name old.properties = has name old'.properties :=
    (hold.properties name).isSome_eq
  have hinNew : has name new.properties = has name new'.properties :=
    (hnew.properties name).isSome_eq
  simp only [List.mem_filter, ← has_iff_mem_keys, hinOld, hinNew]

end Level

section Property

variable {mode : Mode} {property : String} {old old' new new' : Json.Members}
  (hold : Json.Restates (.obj old) (.obj old')) (hnew : Json.Restates (.obj new) (.obj new'))

section Old

include hold

/-- The declared type is the same. -/
theorem declaredType_restated : declaredType old = declaredType old' := by
  have hfound := hold.lookUp "type"
  unfold declaredType Json.getString?
  generalize find? "type" old = value, find? "type" old' = other at hfound
  obtain rfl | ⟨_, _, rfl, rfl⟩ | ⟨_, _, rfl, rfl⟩ := hfound.eq_or <;> rfl

/-- Every bound is the same. -/
theorem bound?_restated (keyword : String) : bound? old keyword = bound? old' keyword := by
  have hfound := hold.lookUp keyword
  unfold bound?
  generalize find? keyword old = value, find? keyword old' = other at hfound
  obtain rfl | ⟨_, _, rfl, rfl⟩ | ⟨_, _, rfl, rfl⟩ := hfound.eq_or <;> rfl

/-- The same bounds have doubles. -/
theorem isRepresentable_restated (keyword : String) :
    isRepresentable old keyword = isRepresentable old' keyword := by
  have hfound := hold.lookUp keyword
  unfold isRepresentable
  generalize find? keyword old = value, find? keyword old' = other at hfound
  obtain rfl | ⟨_, _, rfl, rfl⟩ | ⟨_, _, rfl, rfl⟩ := hfound.eq_or <;> rfl

/-- Enumerations are declared together, and their values are compared under the same texts. -/
theorem enumeration?_restated :
    Option.Rel (fun values others => ∀ key, key ∈ values.map valueKey ↔ key ∈ others.map valueKey)
      (enumeration? old) (enumeration? old') := by
  have hfound := hold.lookUp "enum"
  unfold enumeration?
  generalize find? "enum" old = value, find? "enum" old' = other at hfound
  cases hfound with
  | nothing => exact .none
  | @entries _ items others _ hentries =>
    cases items with
    | nil =>
      obtain rfl := hentries.eq_nil_iff.1 rfl
      exact .none
    | cons item items =>
      cases others with
      | nil => cases hentries.eq_nil_iff.2 rfl
      | cons other others => exact .some hentries.valueKeys
  | @value _ value _ hlist h =>
    cases h with
    | leaf _ harr _ =>
      cases value with
      | arr items => exact absurd rfl (harr items)
      | _ => exact .none
    | arr _ => exact absurd rfl (hlist (by decide) _)
    | obj _ _ _ => exact .none

end Old

include hold hnew

/-- The verdict on an enumeration is the same. -/
theorem enumViolations_restated :
    enumViolations mode property old new = enumViolations mode property old' new' := by
  have holdValues := enumeration?_restated hold
  have hnewValues := enumeration?_restated hnew
  unfold enumViolations
  generalize enumeration? old = values, enumeration? old' = values' at holdValues
  generalize enumeration? new = others, enumeration? new' = others' at hnewValues
  cases holdValues with
  | none => rfl
  | some hkeys =>
    cases hnewValues with
    | none => rfl
    | some hkeys' => simp only [newcomers_congr hkeys hkeys', newcomers_congr hkeys' hkeys]

/-- The verdict on a bound is the same. -/
theorem boundViolations_restated (rangeEnd : RangeEnd) :
    boundViolations mode property old new rangeEnd =
      boundViolations mode property old' new' rangeEnd := by
  simp only [boundViolations, declaredType_restated hold, bound?_restated hold,
    bound?_restated hnew]

/-- The verdict on a property itself is the same. -/
theorem propertyViolations_restated :
    propertyViolations mode property old new = propertyViolations mode property old' new' := by
  simp only [propertyViolations, typeViolations, declaredType_restated hold,
    declaredType_restated hnew, enumViolations_restated hold hnew,
    boundViolations_restated hold hnew]

/-- The same bounds at a property can be compared. -/
theorem propertyBoundsAreRepresentable_restated :
    propertyBoundsAreRepresentable old new = propertyBoundsAreRepresentable old' new' := by
  simp only [propertyBoundsAreRepresentable, declaredType_restated hold,
    isRepresentable_restated hold, isRepresentable_restated hnew]

/-- The verdict on the items of arrays is the same if it is on smaller objects. -/
theorem onItems_restated {α : Type} {default : α} {judge : Json.Members → Json.Members → α}
    (h : ∀ inOld inOld' inNew inNew', sizeOf inOld < sizeOf old →
      Json.Restates (.obj inOld) (.obj inOld') → Json.Restates (.obj inNew) (.obj inNew') →
        judge inOld inNew = judge inOld' inNew') :
    onObjects default judge "items" old new = onObjects default judge "items" old' new' := by
  refine onObjects_restated (hold.lookUp "items") (hnew.lookUp "items") ?_
  intro inOld inOld' inNew inNew' hfound
  have hless := Json.sizeOf_lt_of_find? hfound
  rw [Json.obj.sizeOf_spec] at hless
  exact h _ _ _ _ (by omega)

/-- The verdict on a property and below it is the same if the verdicts on schemas below are. -/
theorem violationsAt_restated
    (hbelow : ∀ inOld inOld' inNew inNew', sizeOf inOld ≤ sizeOf old →
      Json.Restates (.obj inOld) (.obj inOld') → Json.Restates (.obj inNew) (.obj inNew') →
        violations mode (.obj inOld) (.obj inNew) = violations mode (.obj inOld') (.obj inNew')) :
    violationsAt mode property old new = violationsAt mode property old' new' := by
  unfold violationsAt
  rw [propertyViolations_restated hold hnew, declaredType_restated hold,
    declaredType_restated hnew, hbelow _ _ _ _ (Nat.le_refl _) hold hnew,
    onItems_restated hold hnew]
  intro inOld inOld' inNew inNew' hless hinOld hinNew
  rw [hbelow _ _ _ _ (Nat.le_of_lt hless) hinOld hinNew]

/-- The same bounds at a property and below it can be compared if that is so for schemas below. -/
theorem boundsAt_restated
    (hbelow : ∀ inOld inOld' inNew inNew', sizeOf inOld ≤ sizeOf old →
      Json.Restates (.obj inOld) (.obj inOld') → Json.Restates (.obj inNew) (.obj inNew') →
        boundsAreRepresentable (.obj inOld) (.obj inNew) =
          boundsAreRepresentable (.obj inOld') (.obj inNew')) :
    boundsAt old new = boundsAt old' new' := by
  unfold boundsAt
  rw [propertyBoundsAreRepresentable_restated hold hnew, declaredType_restated hold,
    declaredType_restated hnew, hbelow _ _ _ _ (Nat.le_refl _) hold hnew,
    onItems_restated hold hnew]
  exact fun inOld inOld' inNew inNew' hless => hbelow _ _ _ _ (Nat.le_of_lt hless)

end Property

/-- The verdict on the common properties of restated schemas is the same if it is on smaller
objects. -/
theorem onProperties_restated {α : Type} {default : α}
    {judge : Json.Members → Json.Members → α} {name : String} {old old' new new' : Json}
    (hold : old.Restates old') (hnew : new.Restates new')
    (h : ∀ inOld inOld' inNew inNew', sizeOf (Json.obj inOld) < sizeOf old →
      Json.Restates (.obj inOld) (.obj inOld') → Json.Restates (.obj inNew) (.obj inNew') →
        judge inOld inNew = judge inOld' inNew') :
    onObjects default judge name old.flatten.properties new.flatten.properties =
      onObjects default judge name old'.flatten.properties new'.flatten.properties := by
  refine onObjects_restated ((flatten_restates hold).properties name)
    ((flatten_restates hnew).properties name) ?_
  exact fun inOld inOld' inNew inNew' hfound =>
    h _ _ _ _ (Json.sizeOf_lt_of_find?_flatten hfound)

/-- The verdicts on restated schemas are the same in both modes, and so is the verdict on whether
their bounds can be compared: the comparison does not see how a schema is written down. -/
theorem violations_restated {old old' new new' : Json} (hold : old.Restates old')
    (hnew : new.Restates new') :
    boundsAreRepresentable old new = boundsAreRepresentable old' new' ∧
      ∀ mode, violations mode old new = violations mode old' new' := by
  induction hsize : sizeOf old using Nat.strongRecOn generalizing old old' new new' with
  | ind size ih =>
    subst hsize
    have hcommon := commonNames_restated (flatten_restates hold) (flatten_restates hnew)
    -- schemas that are compared below stand under a property, or under the items of one
    have hless {inOld below : Json.Members} (h : sizeOf (Json.obj inOld) < sizeOf old)
        (hle : sizeOf below ≤ sizeOf inOld) : sizeOf (Json.obj below) < sizeOf old := by
      rw [Json.obj.sizeOf_spec] at h ⊢
      omega
    constructor
    · rw [boundsAreRepresentable_eq, boundsAreRepresentable_eq, hcommon]
      congr 1
      funext name
      refine onProperties_restated hold hnew fun inOld inOld' inNew inNew' h hinOld hinNew => ?_
      exact boundsAt_restated hinOld hinNew fun below _ _ _ hle hbelow hbelow' =>
        (ih _ (hless h hle) hbelow hbelow' rfl).1
    · intro mode
      rw [violations_eq, violations_eq, hcommon,
        requiredViolations_restated (flatten_restates hold) (flatten_restates hnew)]
      congr 2
      funext name
      refine onProperties_restated hold hnew fun inOld inOld' inNew inNew' h hinOld hinNew => ?_
      exact violationsAt_restated hinOld hinNew fun below _ _ _ hle hbelow hbelow' =>
        (ih _ (hless h hle) hbelow hbelow' rfl).2 mode

/-- A ware with a size and a note. -/
def wareSchema (required sizes : List Json) : Json :=
  .obj [("required", .arr required),
    ("properties", .obj [("size", .obj [("enum", .arr sizes)]), ("note", .obj [])])]

/-- The schema of a ware with its members the other way round. -/
def turnedWareSchema (required sizes : List Json) : Json :=
  .obj [("properties", .obj [("note", .obj []), ("size", .obj [("enum", .arr sizes)])]),
    ("required", .arr required)]

/-- The schema of a ware is restated the other way round, with the same names and sizes. -/
theorem wareSchema_restates {required required' sizes sizes' : List Json}
    (hrequired : Json.SameEntries required required') (hsizes : Json.SameEntries sizes sizes') :
    (wareSchema required sizes).Restates (turnedWareSchema required' sizes') := by
  have hsize : Json.Restates (.obj [("enum", .arr sizes)]) (.obj [("enum", .arr sizes')]) :=
    .of_perm [("enum", .arr sizes')] (by simp [keys])
      (.cons ⟨rfl, .entries (by simp [Json.setKeywords]) hsizes⟩ .nil) (.refl _)
  have hnote : Json.Restates (.obj []) (.obj []) :=
    .refl (by simp [Json.WellFormed, Json.WellFormedMembers, keys])
  have hproperties : Json.Restates
      (.obj [("size", .obj [("enum", .arr sizes)]), ("note", .obj [])])
      (.obj [("note", .obj []), ("size", .obj [("enum", .arr sizes')])]) :=
    .of_perm [("size", .obj [("enum", .arr sizes')]), ("note", .obj [])] (by simp [keys])
      (.cons ⟨rfl, .of_obj hsize⟩ (.cons ⟨rfl, .of_obj hnote⟩ .nil)) (.swap ..)
  refine .of_perm [("required", .arr required'), ("properties", .obj [("note", .obj []),
    ("size", .obj [("enum", .arr sizes')])])] (by simp [keys]) ?_ (.swap ..)
  exact .cons ⟨rfl, .entries (by simp [Json.setKeywords]) hrequired⟩
    (.cons ⟨rfl, .of_obj hproperties⟩ .nil)

/-- Wares that are written down the other way round, with names and sizes in another order and some
of them twice, are judged as they were. -/
theorem violations_restated_wares :
    let old := turnedWareSchema [.str "id", .str "id"]
      [.obj [("wide", .int 2), ("long", .int 1)], .str "s"]
    let new := turnedWareSchema [.str "name", .str "id"] [.str "s", .str "m", .str "s"]
    boundsAreRepresentable old new = true ∧
    (violations .backward old new).map (·.message) =
      ["Added required properties: name", "Property 'size' added enum values: m"] ∧
    (violations .forward old new).map (·.message) =
      ["Property 'size' removed enum values: \x7b\"long\": 1, \"wide\": 2\x7d"] := by
  intro old new
  have hold : (wareSchema [.str "id"]
      [.str "s", .obj [("long", .int 1), ("wide", .int 2)]]).Restates old := by
    refine wareSchema_restates (fun entry => ?_) fun entry => ?_
    · simp
    · have hordered : Json.ordered (.obj [("wide", .int 2), ("long", .int 1)]) =
          Json.ordered (.obj [("long", .int 1), ("wide", .int 2)]) := rfl
      simp [hordered, or_comm]
  have hnew : (wareSchema [.str "id", .str "name"] [.str "m", .str "s"]).Restates new := by
    refine wareSchema_restates (fun entry => ?_) fun entry => ?_
    · simp [or_comm]
    · simp
      tauto
  obtain ⟨hbounds, hverdicts⟩ := violations_restated hold hnew
  rw [← hbounds, ← hverdicts, ← hverdicts]
  decide +kernel

end TypeRegistry
