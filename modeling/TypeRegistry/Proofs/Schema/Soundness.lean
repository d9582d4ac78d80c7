import TypeRegistry.Proofs.Schema.Comparison
import TypeRegistry.Proofs.Schema.Flattening
import TypeRegistry.Proofs.Schema.Widening

/-!
# What the comparison of two schemas promises

Two plain schemas of one type that declare the same properties, down to the items of their arrays,
are comparable: the comparison looks at everything that they say.  If it finds no violation in a
mode, the version that data is read by in that mode is wider than the one that data is written for,
so every instance that is valid under the one is valid under the other.

Main results:

- Definition `Comparable`: the comparison of two schemas looks at everything that they say.
- Theorem `boundViolations_eq_nil`: bounds that violate nothing get no tighter.
- Theorem `Comparable.widens`: without a violation the version that is read by is wider.
- Theorem `violations_sound`: without a violation valid instances stay valid.
-/

namespace TypeRegistry

open Dictionary

/-! ## Comparable schemas -/

/-- Two plain schemas of one type declare the same properties, with comparable schemas, and both or
neither say what the items of an array are, in comparable schemas. -/
inductive Comparable : Json.Members → Json.Members → Prop
  | intro {typeName : String} {old new : Json.Members}
    (hold : IsPlain typeName old) (hnew : IsPlain typeName new)
    (hnames : ∀ name, has name (propertiesOf old) = has name (propertiesOf new))
    (hproperties : ∀ name inOld inNew, find? name (propertiesOf old) = some (.obj inOld) →
      find? name (propertiesOf new) = some (.obj inNew) → Comparable inOld inNew)
    (hhasItems : has "items" old = has "items" new)
    (hitems : ∀ inOld inNew, find? "items" old = some (.obj inOld) →
      find? "items" new = some (.obj inNew) → Comparable inOld inNew) :
    Comparable old new

/-- Of two versions the one that data is written for. -/
def Mode.writer {α : Type} (old new : α) : Mode → α
  | .backward => old
  | .forward => new

/-- Of two versions the one that data is read by. -/
def Mode.reader {α : Type} (old new : α) : Mode → α
  | .backward => new
  | .forward => old

/-! ## What it means that there is no violation -/

theorem newcomers_eq_nil_iff (now past : List String) : newcomers now past = [] ↔ now ⊆ past := by
  rw [newcomers, List.eq_nil_iff_forall_not_mem]
  simp only [Text.mem_sortedDistinct, List.mem_filter, Bool.not_eq_true', not_and,
    Bool.not_eq_false, List.contains_iff_mem]
  exact Iff.rfl

/-- Required names violate nothing if the reader requires only what the writer requires. -/
theorem requiredViolations_eq_nil_iff (mode : Mode) (old new : FlatSchema) :
    requiredViolations mode old new = [] ↔
      (mode.reader old new).requiredNames ⊆ (mode.writer old new).requiredNames := by
  cases mode <;> rw [← newcomers_eq_nil_iff] <;>
    simp [requiredViolations, Mode.reader, Mode.writer]

/-- Bounds that violate nothing are no tighter for the reader than for the writer. -/
theorem boundViolations_eq_nil {mode : Mode} {property keyword : String} {old new : Json.Members}
    {rangeEnd : RangeEnd} (hkeyword : boundKeyword? (declaredType old) rangeEnd = some keyword)
    (h : boundViolations mode property old new rangeEnd = []) {bound : Double}
    (hbound : bound? (mode.reader old new) keyword = some bound) :
    ∃ other, bound? (mode.writer old new) keyword = some other ∧
      tightens rangeEnd other bound = false := by
  rw [boundViolations, hkeyword] at h
  cases mode with
  | backward =>
    rw [Mode.reader] at hbound
    rw [Mode.writer]
    cases hother : bound? old keyword with
    | none => simp [hbound, hother] at h
    | some other => simpa [hbound, hother] using h
  | forward =>
    rw [Mode.reader] at hbound
    rw [Mode.writer]
    cases hother : bound? new keyword with
    | none => simp [hbound, hother] at h
    | some other => simpa [hbound, hother] using h

/-- Nothing is violated at two versions of a property, nor below it. -/
structure Agree (mode : Mode) (property : String) (old new : Json.Members) : Prop where
  itself : propertyViolations mode property old new = []
  inObject : declaredType old = "object" → declaredType new = "object" →
    violations mode (.obj old) (.obj new) = []
  inItems : declaredType old = "array" → declaredType new = "array" → ∀ inOld inNew,
    find? "items" old = some (.obj inOld) → find? "items" new = some (.obj inNew) →
      violations mode (.obj inOld) (.obj inNew) = []

/-- Without a violation the required names violate nothing, and the versions of every property that
both declare agree. -/
theorem violations_eq_nil {mode : Mode} {old new : Json} (h : violations mode old new = []) :
    requiredViolations mode old.flatten new.flatten = [] ∧
      ∀ name inOld inNew, find? name old.flatten.properties = some (.obj inOld) →
        find? name new.flatten.properties = some (.obj inNew) → Agree mode name inOld inNew := by
  obtain ⟨hrequired, hproperties⟩ := violations_eq_nil_iff_level.1 h
  refine ⟨hrequired, fun name inOld inNew hold hnew => ?_⟩
  obtain ⟨hitself, hbelow⟩ := hproperties name inOld inNew hold hnew
  exact ⟨hitself, fun holdType hnewType => hbelow _ _ (.object holdType hnewType),
    fun holdType hnewType _ _ holdItems hnewItems =>
      hbelow _ _ (.items holdType hnewType holdItems hnewItems)⟩

/-! ## The comparison of plain schemas -/

namespace IsPlain

variable {typeName : String} {members : Json.Members}

theorem declaredType_eq (h : IsPlain typeName members) : declaredType members = typeName := by
  rw [declaredType, Json.getString?, h.declared]
  rfl

/-- A plain schema is flat as it is. -/
theorem flatten_eq (h : IsPlain typeName members) (hproper : IsProper members) :
    (Json.obj members).flatten = FlatSchema.own members := by
  have hparts : find? "allOf" members = none := by
    apply h.absent
    decide
  apply Json.flatten_of_no_parts hparts
  cases hproperties : find? "properties" members with
  | some value => exact (hproper.properties hproperties).2.1
  | none => simp [FlatSchema.own, hproperties, keys]

/-- Schemas that are not for objects require nothing. -/
theorem requiredOf_eq_nil (h : IsPlain typeName members) (htype : typeName ≠ "object") :
    requiredOf members = [] := by
  cases hrequired : find? "required" members with
  | some value =>
    exact absurd (h.eq_object_of_has (.inr rfl) (by simp [has, hrequired])) htype
  | none => simp [requiredOf, FlatSchema.own, FlatSchema.requiredNames, hrequired]

/-- A schema that declares a property is one for objects. -/
theorem eq_object_of_property (h : IsPlain typeName members) {name : String} {schema : Json}
    (hfound : find? name (propertiesOf members) = some schema) : typeName = "object" := by
  cases hproperties : find? "properties" members with
  | some value => exact h.eq_object_of_has (.inl rfl) (by simp [has, hproperties])
  | none => simp [propertiesOf, FlatSchema.own, hproperties, find?] at hfound

/-- A bound of a plain schema is the double of the integer that is written. -/
theorem bound?_eq (h : IsPlain typeName members) {rangeEnd : RangeEnd} {keyword : String}
    (hkeyword : boundKeyword? typeName rangeEnd = some keyword) {n : Int}
    (hfound : find? keyword members = some (.int n)) :
    ∃ x, bound? members keyword = some x ∧ x.value? = some (n : ℚ) := by
  obtain ⟨m, hm, hsmall⟩ := h.bounds rangeEnd keyword _ hkeyword hfound
  obtain rfl := Json.int.inj hm
  obtain ⟨x, hx, hvalue⟩ := Double.exists_ofInt? hsmall
  exact ⟨x, by simp [bound?, hfound, hx], hvalue⟩

/-- Where a plain schema has a bound, an integer is written. -/
theorem exists_int_of_bound? (h : IsPlain typeName members) {rangeEnd : RangeEnd} {keyword : String}
    (hkeyword : boundKeyword? typeName rangeEnd = some keyword) {x : Double}
    (hbound : bound? members keyword = some x) :
    ∃ n : Int, find? keyword members = some (.int n) ∧ x.value? = some (n : ℚ) := by
  cases hfound : find? keyword members with
  | none => simp [bound?, hfound] at hbound
  | some value =>
    obtain ⟨n, rfl, -⟩ := h.bounds rangeEnd keyword value hkeyword hfound
    obtain ⟨y, hy, hvalue⟩ := h.bound?_eq hkeyword hfound
    obtain rfl := Option.some.inj (hbound.symm.trans hy)
    exact ⟨n, rfl, hvalue⟩

end IsPlain

/-- A bound that is no tighter than another is wider. -/
theorem isWider_of_tightens {rangeEnd : RangeEnd} {past now : Double} {m n : Int}
    (hpast : past.value? = some (m : ℚ)) (hnow : now.value? = some (n : ℚ))
    (h : tightens rangeEnd past now = false) : rangeEnd.IsWider n m := by
  cases rangeEnd with
  | lower =>
    rw [tightens, Double.less, Double.lt_ofDouble hpast hnow, decide_eq_false_iff_not, not_lt] at h
    exact Int.cast_le.1 h
  | upper =>
    rw [tightens, Double.less, Double.lt_ofDouble hnow hpast, decide_eq_false_iff_not, not_lt] at h
    exact Int.cast_le.1 h

/-- Versions of a schema for objects agree if the comparison of the schemas finds no violation. -/
theorem agree_of_objects {mode : Mode} {old new : Json.Members} (hold : IsPlain "object" old)
    (hnew : IsPlain "object" new) (h : violations mode (.obj old) (.obj new) = []) :
    Agree mode "" old new where
  itself := by
    have hbounds : ∀ rangeEnd, boundViolations mode "" old new rangeEnd = [] := by
      intro rangeEnd
      rw [boundViolations, hold.declaredType_eq]
      rfl
    have habsent : find? "enum" old = none := by
      apply hold.absent
      decide
    have henum : enumViolations mode "" old new = [] := by
      simp [enumViolations, enumeration?, habsent]
    rw [propertyViolations, henum, hbounds, hbounds]
    simp [typeViolations, hold.declaredType_eq, hnew.declaredType_eq]
  inObject := fun _ _ => h
  inItems := by
    intro harray
    rw [hold.declaredType_eq] at harray
    simp at harray

/-- Where versions of a property agree, the bounds of the reader are wider. -/
theorem Agree.bounds {mode : Mode} {property typeName : String} {old new : Json.Members}
    (h : Agree mode property old new) (hold : IsPlain typeName old) (hnew : IsPlain typeName new)
    {rangeEnd : RangeEnd} {keyword : String} {n : Int}
    (hkeyword : boundKeyword? typeName rangeEnd = some keyword)
    (hfound : find? keyword (mode.reader old new) = some (.int n)) :
    ∃ m, find? keyword (mode.writer old new) = some (.int m) ∧ rangeEnd.IsWider n m := by
  have hreader : IsPlain typeName (mode.reader old new) := by cases mode <;> assumption
  have hwriter : IsPlain typeName (mode.writer old new) := by cases mode <;> assumption
  have hnone : boundViolations mode property old new rangeEnd = [] := by
    have hitself := h.itself
    rw [propertyViolations, List.append_eq_nil_iff, List.append_eq_nil_iff] at hitself
    cases rangeEnd with
    | lower => exact hitself.1.2
    | upper => exact hitself.2
  obtain ⟨now, hnow, hnowValue⟩ := hreader.bound?_eq hkeyword hfound
  rw [← hold.declaredType_eq] at hkeyword
  obtain ⟨past, hpast, htightens⟩ := boundViolations_eq_nil hkeyword hnone hnow
  rw [hold.declaredType_eq] at hkeyword
  obtain ⟨m, hm, hpastValue⟩ := hwriter.exists_int_of_bound? hkeyword hpast
  exact ⟨m, hm, isWider_of_tightens hpastValue hnowValue htightens⟩

/-- Where versions of a property agree, the reader requires only what the writer requires. -/
theorem Agree.required {mode : Mode} {property typeName : String} {old new : Json.Members}
    (h : Agree mode property old new) (holdPlain : IsPlain typeName old)
    (hnewPlain : IsPlain typeName new) (hold : IsProper old) (hnew : IsProper new) :
    requiredOf (mode.reader old new) ⊆ requiredOf (mode.writer old new) := by
  by_cases htype : typeName = "object"
  · subst htype
    have hnone := h.inObject holdPlain.declaredType_eq hnewPlain.declaredType_eq
    have hrequired := (violations_eq_nil hnone).1
    rw [holdPlain.flatten_eq hold, hnewPlain.flatten_eq hnew, requiredViolations_eq_nil_iff]
      at hrequired
    cases mode <;> exact hrequired
  · have hnothing : requiredOf (mode.reader old new) = [] := by
      cases mode with
      | backward => exact hnewPlain.requiredOf_eq_nil htype
      | forward => exact holdPlain.requiredOf_eq_nil htype
    rw [hnothing]
    exact List.nil_subset _

/-- Where versions of a property agree, so do the versions of every property inside it. -/
theorem Agree.property {mode : Mode} {property typeName name : String}
    {old new inOld inNew : Json.Members} (h : Agree mode property old new)
    (holdPlain : IsPlain typeName old) (hnewPlain : IsPlain typeName new) (hold : IsProper old)
    (hnew : IsProper new) (hinOld : find? name (propertiesOf old) = some (.obj inOld))
    (hinNew : find? name (propertiesOf new) = some (.obj inNew)) : Agree mode name inOld inNew := by
  obtain rfl := holdPlain.eq_object_of_property hinOld
  have hnone := h.inObject holdPlain.declaredType_eq hnewPlain.declaredType_eq
  have hagree := (violations_eq_nil hnone).2 name inOld inNew
  rw [holdPlain.flatten_eq hold, hnewPlain.flatten_eq hnew] at hagree
  exact hagree hinOld hinNew

/-- Comparable schemas are plain schemas of one type. -/
theorem Comparable.exists_plain {old new : Json.Members} (h : Comparable old new) :
    ∃ typeName, IsPlain typeName old ∧ IsPlain typeName new := by
  cases h with
  | intro hold hnew => exact ⟨_, hold, hnew⟩

/-- Comparable schemas one of which is for objects are both for objects. -/
theorem Comparable.plain_object {old new : Json.Members} (h : Comparable old new)
    (hobject : find? "type" old = some (.str "object")) :
    IsPlain "object" old ∧ IsPlain "object" new := by
  obtain ⟨typeName, hold, hnew⟩ := h.exists_plain
  obtain rfl : typeName = "object" := by
    simpa [hold.declared] using hobject
  exact ⟨hold, hnew⟩

/-- Where versions of a property agree, so do the comparable schemas of its items. -/
theorem Agree.items {mode : Mode} {property typeName : String} {old new inOld inNew : Json.Members}
    (h : Agree mode property old new) (holdPlain : IsPlain typeName old)
    (hnewPlain : IsPlain typeName new) (hcomparable : Comparable inOld inNew)
    (hinOld : find? "items" old = some (.obj inOld))
    (hinNew : find? "items" new = some (.obj inNew)) : Agree mode "" inOld inNew := by
  obtain rfl := holdPlain.eq_array_of_has (by simp [has, hinOld])
  obtain ⟨_, hitem, hobject⟩ := holdPlain.items _ hinOld
  obtain rfl := Json.obj.inj hitem
  obtain ⟨hinOldPlain, hinNewPlain⟩ := hcomparable.plain_object hobject
  exact agree_of_objects hinOldPlain hinNewPlain
    (h.inItems holdPlain.declaredType_eq hnewPlain.declaredType_eq inOld inNew hinOld hinNew)

/-- Of comparable versions that agree, the one that data is read by is wider. -/
theorem Comparable.widens {mode : Mode} {property : String} {old new : Json.Members}
    (h : Comparable old new) (hold : IsProper old) (hnew : IsProper new)
    (hagree : Agree mode property old new) :
    Widens (mode.reader old new) (mode.writer old new) := by
  induction h generalizing property with
  | @intro typeName old new holdPlain hnewPlain hnames hproperties hhasItems hitems ihProperties
      ihItems =>
    have hrequired := hagree.required holdPlain hnewPlain hold hnew
    have hbounds : ∀ rangeEnd keyword bound, boundKeyword? typeName rangeEnd = some keyword →
        find? keyword (mode.reader old new) = some (.int bound) →
          ∃ other, find? keyword (mode.writer old new) = some (.int other) ∧
            rangeEnd.IsWider bound other :=
      fun _ _ _ => hagree.bounds holdPlain hnewPlain
    have hinside : ∀ name inOld inNew, find? name (propertiesOf old) = some (.obj inOld) →
        find? name (propertiesOf new) = some (.obj inNew) →
          Widens (mode.reader inOld inNew) (mode.writer inOld inNew) := by
      intro name inOld inNew hinOld hinNew
      exact ihProperties name inOld inNew hinOld hinNew (hold.property hinOld)
        (hnew.property hinNew)
        (hagree.property holdPlain hnewPlain hold hnew hinOld hinNew)
    have hinItems : ∀ inOld inNew, find? "items" old = some (.obj inOld) →
        find? "items" new = some (.obj inNew) →
          Widens (mode.reader inOld inNew) (mode.writer inOld inNew) := by
      intro inOld inNew hinOld hinNew
      exact ihItems inOld inNew hinOld hinNew (hold.item hinOld) (hnew.item hinNew)
        (hagree.items holdPlain hnewPlain (hitems inOld inNew hinOld hinNew) hinOld hinNew)
    -- The two modes differ only in which of the versions is the wider one.
    cases mode with
    | backward =>
      refine .intro hnewPlain holdPlain hrequired hbounds ?_ ?_ ?_ ?_
      · exact fun name hhas => (hnames name).trans hhas
      · exact fun name inNew inOld hinNew hinOld => hinside name inOld inNew hinOld hinNew
      · exact fun hhas => hhasItems.trans hhas
      · exact fun inNew inOld hinNew hinOld => hinItems inOld inNew hinOld hinNew
    | forward =>
      refine .intro holdPlain hnewPlain hrequired hbounds ?_ hinside ?_ hinItems
      · exact fun name hhas => (hnames name).symm.trans hhas
      · exact fun hhas => hhasItems.symm.trans hhas

/-! ## Soundness -/

/-- The comparison of two comparable schemas for objects that both have the form of their dialect is
sound: without a backward violation every instance that is valid under the old schema is valid under
the new one, and without a forward violation every instance that is valid under the new schema is
valid under the old one. -/
theorem violations_sound (store : Store) {old new : Json.Members} (hcomparable : Comparable old new)
    (hobject : find? "type" old = some (.str "object"))
    (holdKeys : (Json.obj old).WellFormed) (hnewKeys : (Json.obj new).WellFormed)
    (holdForm : formOf (.obj old) = Verdict.valid) (hnewForm : formOf (.obj new) = Verdict.valid) :
    (violations .backward (.obj old) (.obj new) = [] → ∀ subject,
      (validate store (.obj old) subject).value = Verdict.valid →
        (validate store (.obj new) subject).value = Verdict.valid) ∧
    (violations .forward (.obj old) (.obj new) = [] → ∀ subject,
      (validate store (.obj new) subject).value = Verdict.valid →
        (validate store (.obj old) subject).value = Verdict.valid) := by
  obtain ⟨holdPlain, hnewPlain⟩ := hcomparable.plain_object hobject
  rw [formOf_eq_valid_iff holdPlain.no_dialect] at holdForm
  rw [formOf_eq_valid_iff hnewPlain.no_dialect] at hnewForm
  have hold : IsProper old := ⟨holdKeys, holdForm⟩
  have hnew : IsProper new := ⟨hnewKeys, hnewForm⟩
  constructor
  · intro hnone subject hvalid
    have hagree := agree_of_objects holdPlain hnewPlain hnone
    exact (hcomparable.widens hold hnew hagree).valid hnew hold store subject hvalid
  · intro hnone subject hvalid
    have hagree := agree_of_objects holdPlain hnewPlain hnone
    exact (hcomparable.widens hold hnew hagree).valid hold hnew store subject hvalid

/-- A schema for persons of a least age, who must have some properties. -/
def personSchema (age : Int) (required : List Json) : Json.Members :=
  [("type", .str "object"),
    ("properties", .obj [("age", .obj [("type", .str "integer"), ("minimum", .int age)])]),
    ("required", .arr required)]

theorem isPlain_age {age : Int} (h : age.natAbs ≤ 2 ^ 53) :
    IsPlain "integer" [("type", .str "integer"), ("minimum", .int age)] where
  declared := rfl
  keywords := by
    intro keyword hhas
    have hmem : keyword ∈ ["type", "minimum"] := has_iff_mem_keys.1 hhas
    clear hhas
    revert keyword
    decide
  bounds := by
    intro rangeEnd keyword value hbound hfound
    cases rangeEnd with
    | lower =>
      cases hbound
      cases hfound
      exact ⟨age, rfl, h⟩
    | upper =>
      cases hbound
      cases hfound
  properties := fun name schema hfound => by cases hfound
  items := fun schema hfound => by cases hfound

theorem isPlain_personSchema (age : Int) (required : List Json) :
    IsPlain "object" (personSchema age required) where
  declared := rfl
  keywords := by
    intro keyword hhas
    have hmem : keyword ∈ ["type", "properties", "required"] := has_iff_mem_keys.1 hhas
    clear hhas
    revert keyword
    decide
  bounds := by
    intro rangeEnd keyword value hbound
    cases hbound
  properties := by
    intro name schema hfound
    have hmem := mem_of_find? hfound
    exact ⟨_, (Prod.mk.inj (List.mem_singleton.1 hmem)).2⟩
  items := fun schema hfound => by cases hfound

theorem comparable_personSchema {age age' : Int} (h : age.natAbs ≤ 2 ^ 53)
    (h' : age'.natAbs ≤ 2 ^ 53) (required required' : List Json) :
    Comparable (personSchema age required) (personSchema age' required') := by
  have hage : Comparable [("type", .str "integer"), ("minimum", .int age)]
      [("type", .str "integer"), ("minimum", .int age')] := by
    refine .intro (isPlain_age h) (isPlain_age h') (fun _ => rfl) ?_ rfl ?_
    · intro name inOld inNew hinOld
      cases hinOld
    · intro inOld inNew hinOld
      cases hinOld
  refine .intro (isPlain_personSchema _ _) (isPlain_personSchema _ _) ?_ ?_ rfl ?_
  · intro name
    rw [Bool.eq_iff_iff, has_iff_mem_keys, has_iff_mem_keys]
    exact Iff.rfl
  · intro name inOld inNew hinOld hinNew
    have hold := List.mem_singleton.1 (mem_of_find? hinOld)
    have hnew := List.mem_singleton.1 (mem_of_find? hinNew)
    obtain rfl := Json.obj.inj (Prod.mk.inj hold).2
    obtain rfl := Json.obj.inj (Prod.mk.inj hnew).2
    exact hage
  · intro inOld inNew hinOld
    cases hinOld

/-- Lowering the least age and requiring less violates nothing backward. -/
theorem violations_sound_personSchema :
    violations .backward (.obj (personSchema 18 [.str "age"])) (.obj (personSchema 16 [])) = [] ∧
      ∀ subject,
        (validate {} (.obj (personSchema 18 [.str "age"])) subject).value = Verdict.valid →
          (validate {} (.obj (personSchema 16 [])) subject).value = Verdict.valid := by
  have hnone : violations .backward (.obj (personSchema 18 [.str "age"]))
      (.obj (personSchema 16 [])) = [] := by
    have hold : (Json.obj (personSchema 18 [.str "age"])).flatten =
        FlatSchema.own (personSchema 18 [.str "age"]) := rfl
    have hnew : (Json.obj (personSchema 16 [])).flatten = FlatSchema.own (personSchema 16 []) := rfl
    rw [violations, hold, hnew]
    decide
  refine ⟨hnone, (violations_sound {} (comparable_personSchema (by decide) (by decide) _ _) rfl
    ?_ ?_ ?_ ?_).1 hnone⟩
  · simp [personSchema, Json.WellFormed, Json.WellFormedMembers, Json.WellFormedItems, keys]
  · simp [personSchema, Json.WellFormed, Json.WellFormedMembers, Json.WellFormedItems, keys]
  · rw [formOf_eq_valid_iff rfl]
    cbv
  · rw [formOf_eq_valid_iff rfl]
    cbv

end TypeRegistry
