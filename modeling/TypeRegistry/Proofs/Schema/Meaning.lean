import TypeRegistry.Proofs.Number.Exactness
import TypeRegistry.Proofs.Schema.Clean
import TypeRegistry.Proofs.Schema.Formed
import TypeRegistry.Schema.Compatibility

/-!
# What a plain schema means

A schema is plain if it uses nothing but what the comparison of schemas looks at: a type by its
name, the properties and required names of an object, the schema of the items of an array, and the
two bounds of its type.  For a plain schema of draft 2020-12 it can be said outright when it accepts
an instance.

Main results:

- Definition `IsPlain`: a schema uses only what is compared.
- Definition `Satisfies`: what a plain schema asks of an instance.
- Theorem `assertionSteps_bound_iff`: what a bound asks of an instance.
- Theorem `isClean_evaluate_plain_iff`: a plain schema accepts what it is satisfied by.
-/

namespace TypeRegistry

open Dictionary

/-! ## Plain schemas -/

/-- The keywords that a schema of a type may use besides its type so as to be compared in full. -/
def comparedKeywords (typeName : String) : List String :=
  (if typeName = "object" then ["properties", "required"]
    else if typeName = "array" then ["items"]
    else []) ++ [RangeEnd.lower, RangeEnd.upper].filterMap (boundKeyword? typeName)

/-- The properties that a schema declares itself. -/
def propertiesOf (members : Json.Members) : Json.Members :=
  (FlatSchema.own members).properties

/-- The names that a schema requires itself. -/
def requiredOf (members : Json.Members) : List String :=
  (FlatSchema.own members).requiredNames

/-- A schema of a type uses only what is compared: bounds are integers that have doubles of their
own, the schemas of properties are objects, and the schema of items is one for objects. -/
structure IsPlain (typeName : String) (members : Json.Members) : Prop where
  declared : find? "type" members = some (.str typeName)
  keywords : ∀ keyword, has keyword members = true →
    keyword = "type" ∨ keyword ∈ comparedKeywords typeName
  bounds : ∀ rangeEnd keyword value, boundKeyword? typeName rangeEnd = some keyword →
    find? keyword members = some value → ∃ n : Int, value = .int n ∧ n.natAbs ≤ 2 ^ 53
  properties : ∀ name schema, find? name (propertiesOf members) = some schema →
    ∃ inner, schema = .obj inner
  items : ∀ schema, find? "items" members = some schema →
    ∃ inner, schema = .obj inner ∧ find? "type" inner = some (.str "object")

/-- A schema without repeated keywords that has the form of draft 2020-12. -/
structure IsProper (members : Json.Members) : Prop where
  wellFormed : (Json.obj members).WellFormed
  form : HasForm members

/-- All keywords of which plain schemas use some. -/
def plainKeywords : List String :=
  ["type", "properties", "required", "items", "minimum", "maximum", "minLength", "maxLength",
    "minItems", "maxItems"]

/-- The one of two things that belongs to an end of a range. -/
def RangeEnd.pick {α : Type} (lower upper : α) : RangeEnd → α
  | .lower => lower
  | .upper => upper

/-- A bound of a type goes with the keyword of one of the three pairs. -/
theorem boundKeyword?_cases {typeName keyword : String} {rangeEnd : RangeEnd}
    (h : boundKeyword? typeName rangeEnd = some keyword) :
    ((typeName = "number" ∨ typeName = "integer") ∧
        keyword = rangeEnd.pick "minimum" "maximum") ∨
      (typeName = "string" ∧ keyword = rangeEnd.pick "minLength" "maxLength") ∨
      (typeName = "array" ∧ keyword = rangeEnd.pick "minItems" "maxItems") := by
  rw [boundKeyword?] at h
  split at h
  next htype =>
    left
    cases rangeEnd <;> cases h <;> exact ⟨htype, rfl⟩
  · split at h
    next htype =>
      right; left
      cases rangeEnd <;> cases h <;> exact ⟨htype, rfl⟩
    · split at h
      next htype =>
        right; right
        cases rangeEnd <;> cases h <;> exact ⟨htype, rfl⟩
      · cases h

/-- What a keyword that is compared can be. -/
theorem mem_comparedKeywords {typeName keyword : String}
    (h : keyword ∈ comparedKeywords typeName) :
    (typeName = "object" ∧ (keyword = "properties" ∨ keyword = "required")) ∨
      (typeName = "array" ∧ keyword = "items") ∨
      ∃ rangeEnd, boundKeyword? typeName rangeEnd = some keyword := by
  rcases List.mem_append.1 h with h | h
  · split at h
    next htype => exact .inl ⟨htype, by simpa using h⟩
    · split at h
      next htype => exact .inr (.inl ⟨htype, by simpa using h⟩)
      · simp at h
  · obtain ⟨rangeEnd, -, hbound⟩ := List.mem_filterMap.1 h
    exact .inr (.inr ⟨rangeEnd, hbound⟩)

theorem comparedKeywords_subset (typeName : String) :
    comparedKeywords typeName ⊆ plainKeywords := by
  intro keyword h
  rcases mem_comparedKeywords h with ⟨-, rfl | rfl⟩ | ⟨-, rfl⟩ | ⟨rangeEnd, hbound⟩
  · decide
  · decide
  · decide
  · rcases boundKeyword?_cases hbound with ⟨-, rfl⟩ | ⟨-, rfl⟩ | ⟨-, rfl⟩ <;>
      cases rangeEnd <;> decide

namespace IsPlain

variable {typeName : String} {members : Json.Members}

/-- A plain schema has no keywords but those of plain schemas. -/
theorem absent (h : IsPlain typeName members) {keyword : String}
    (hother : keyword ∉ plainKeywords) : find? keyword members = none := by
  cases hfound : find? keyword members with
  | none => rfl
  | some value =>
    rcases h.keywords keyword (by simp [has, hfound]) with rfl | hcompared
    · exact absurd (by decide) hother
    · exact absurd (comparedKeywords_subset typeName hcompared) hother

theorem no_dialect (h : IsPlain typeName members) : find? "$schema" members = none := by
  apply h.absent
  decide

theorem no_id (h : IsPlain typeName members) : find? "$id" members = none := by
  apply h.absent
  decide

theorem no_tuple (h : IsPlain typeName members) : find? "prefixItems" members = none := by
  apply h.absent
  decide

/-- Only a schema for objects has properties and required names. -/
theorem eq_object_of_has (h : IsPlain typeName members) {keyword : String}
    (hkeyword : keyword = "properties" ∨ keyword = "required")
    (hhas : has keyword members = true) : typeName = "object" := by
  rcases h.keywords keyword hhas with rfl | hcompared
  · simp at hkeyword
  · rcases mem_comparedKeywords hcompared with ⟨htype, -⟩ | ⟨-, rfl⟩ | ⟨rangeEnd, hbound⟩
    · exact htype
    · simp at hkeyword
    · rcases boundKeyword?_cases hbound with ⟨-, rfl⟩ | ⟨-, rfl⟩ | ⟨-, rfl⟩ <;>
        cases rangeEnd <;> simp [RangeEnd.pick] at hkeyword

/-- Only a schema for arrays has a schema of its items. -/
theorem eq_array_of_has (h : IsPlain typeName members) (hhas : has "items" members = true) :
    typeName = "array" := by
  rcases h.keywords "items" hhas with hitems | hcompared
  · simp at hitems
  · rcases mem_comparedKeywords hcompared with ⟨-, hitems⟩ | ⟨htype, -⟩ | ⟨rangeEnd, hbound⟩
    · simp at hitems
    · exact htype
    · rcases boundKeyword?_cases hbound with ⟨-, hitems⟩ | ⟨-, hitems⟩ | ⟨-, hitems⟩ <;>
        cases rangeEnd <;> simp [RangeEnd.pick] at hitems

end IsPlain

/-- What stands under a name in well formed members is well formed. -/
theorem wellFormed_of_find? {name : String} {value : Json} {members : Json.Members}
    (h : Json.WellFormedMembers members) (hfound : find? name members = some value) :
    value.WellFormed := by
  induction members with
  | nil => cases hfound
  | cons member rest ih =>
    obtain ⟨key, old⟩ := member
    rw [Json.WellFormedMembers] at h
    rw [find?] at hfound
    split at hfound
    · obtain rfl := Option.some.inj hfound
      exact h.1
    · exact ih h.2 hfound

theorem propertiesOf_eq {members schemas : Json.Members}
    (h : find? "properties" members = some (.obj schemas)) : propertiesOf members = schemas := by
  simp only [propertiesOf, FlatSchema.own, h]

namespace IsProper

variable {members : Json.Members}

/-- No keyword occurs twice. -/
theorem nodup (h : IsProper members) : (keys members).Nodup := by
  have := h.wellFormed
  rw [Json.WellFormed] at this
  exact this.1

/-- The values of keywords are well formed. -/
theorem wellFormed_value (h : IsProper members) {keyword : String} {value : Json}
    (hfound : find? keyword members = some value) : value.WellFormed := by
  have := h.wellFormed
  rw [Json.WellFormed] at this
  exact wellFormed_of_find? this.2 hfound

/-- What a schema has under `properties` is an object of properties, no name of which occurs twice,
and the schemas among them are proper. -/
theorem properties (h : IsProper members) {value : Json}
    (hfound : find? "properties" members = some value) :
    value = .obj (propertiesOf members) ∧ (keys (propertiesOf members)).Nodup ∧
      ∀ name inner, find? name (propertiesOf members) = some (.obj inner) → IsProper inner := by
  obtain ⟨schemas, rfl, hforms⟩ := h.form.properties hfound
  have hwell := h.wellFormed_value hfound
  rw [Json.WellFormed] at hwell
  rw [propertiesOf_eq hfound]
  refine ⟨rfl, hwell.1, ?_⟩
  intro name inner hinner
  exact ⟨wellFormed_of_find? hwell.2 hinner, hforms _ (mem_of_find? hinner) inner rfl⟩

/-- The schema of a property is proper. -/
theorem property (h : IsProper members) {name : String} {inner : Json.Members}
    (hfound : find? name (propertiesOf members) = some (.obj inner)) : IsProper inner := by
  cases hproperties : find? "properties" members with
  | some value => exact (h.properties hproperties).2.2 name inner hfound
  | none => simp [propertiesOf, FlatSchema.own, hproperties, find?] at hfound

/-- The schema of the items is proper. -/
theorem item (h : IsProper members) {inner : Json.Members}
    (hfound : find? "items" members = some (.obj inner)) : IsProper inner :=
  ⟨h.wellFormed_value hfound, h.form.items hfound⟩

end IsProper

/-! ## Bounds -/

/-- What a bound of a type measures in an instance that the type's bounds speak about. -/
def measure? (typeName : String) (subject : Json) : Option Exact :=
  if typeName = "number" ∨ typeName = "integer" then Json.number? subject
  else if typeName = "string" then
    match subject with
    | .str s => some (.ofInt s.length)
    | _ => none
  else if typeName = "array" then
    match subject with
    | .arr items => some (.ofInt items.length)
    | _ => none
  else none

/-- Whether a bound at an end of a range admits a measure. -/
def RangeEnd.admits (bound : Int) (measure : Exact) : RangeEnd → Bool
  | .lower => !measure.lt (.ofInt bound)
  | .upper => !(Exact.ofInt bound).lt measure

/-- Whether a bound at an end of a range is at least as wide as another. -/
def RangeEnd.IsWider (wide narrow : Int) : RangeEnd → Prop
  | .lower => wide ≤ narrow
  | .upper => narrow ≤ wide

/-- A wider bound admits what a narrower one does. -/
theorem RangeEnd.IsWider.admits {rangeEnd : RangeEnd} {wide narrow : Int} {measure : Exact}
    (h : rangeEnd.IsWider wide narrow) (hnarrow : rangeEnd.admits narrow measure = true) :
    rangeEnd.admits wide measure = true := by
  cases rangeEnd with
  | lower =>
    rw [RangeEnd.admits, Bool.not_eq_true', ← Bool.not_eq_true] at hnarrow ⊢
    exact fun hless => hnarrow (Exact.lt_ofInt_of_le hless h)
  | upper =>
    rw [RangeEnd.admits, Bool.not_eq_true', ← Bool.not_eq_true] at hnarrow ⊢
    exact fun hless => hnarrow (Exact.ofInt_lt_of_le hless h)

@[simp]
theorem findIf_eq_nil (condition : Bool) (cause : FindingCause) :
    findIf condition cause = [] ↔ condition = false := by
  cases condition <;> simp [findIf]

/-- A bound on numbers finds nothing if its order is not the wrong one. -/
theorem numberSteps_int_eq_nil (subject : Json) (n : Int) (isWrong : Exact → Exact → Bool)
    (cause : FindingCause) :
    numberSteps subject (.int n) isWrong cause = [] ↔
      ∀ x, Json.number? subject = some x → isWrong x (.ofInt n) = false := by
  rw [numberSteps]
  cases Json.number? subject with
  | none => simp
  | some x =>
    show findIf (isWrong x (.ofInt n)) cause = [] ↔ _
    rw [findIf_eq_nil]
    simp

/-- A lower limit on a count finds nothing if it admits the count. -/
theorem atLeastSteps_int_eq_nil (subject : Json) (n : Int) (count : Nat) (cause : FindingCause) :
    atLeastSteps subject (.int n) count cause = [] ↔
      RangeEnd.lower.admits n (.ofInt count) = true := by
  show findIf _ _ = [] ↔ _
  rw [findIf_eq_nil, RangeEnd.admits, Bool.not_eq_true']

/-- An upper limit on a count finds nothing if it admits the count. -/
theorem atMostSteps_int_eq_nil (subject : Json) (n : Int) (count : Nat) (cause : FindingCause) :
    atMostSteps subject (.int n) count cause = [] ↔
      RangeEnd.upper.admits n (.ofInt count) = true := by
  show findIf _ _ = [] ↔ _
  rw [findIf_eq_nil, RangeEnd.admits, Bool.not_eq_true']

/-- A bound of a type asks that the measure of an instance is admitted. -/
theorem assertionSteps_bound_iff {typeName keyword : String} {rangeEnd : RangeEnd}
    (hbound : boundKeyword? typeName rangeEnd = some keyword) (members : Json.Members) (n : Int)
    (subject : Json) :
    assertionSteps .draft202012 members keyword (.int n) subject = [] ↔
      ∀ measure, measure? typeName subject = some measure → rangeEnd.admits n measure = true := by
  rcases boundKeyword?_cases hbound with ⟨htype, rfl⟩ | ⟨rfl, rfl⟩ | ⟨rfl, rfl⟩
  · have hmeasure : measure? typeName subject = Json.number? subject := by
      unfold measure?
      exact if_pos htype
    rw [hmeasure]
    cases rangeEnd with
    | lower =>
      show numberSteps subject (.int n) Exact.lt _ = [] ↔ _
      rw [numberSteps_int_eq_nil]
      simp only [RangeEnd.admits, Bool.not_eq_true']
    | upper =>
      show numberSteps subject (.int n) (fun x bound => bound.lt x) _ = [] ↔ _
      rw [numberSteps_int_eq_nil]
      simp only [RangeEnd.admits, Bool.not_eq_true']
  · cases subject with
    | str s =>
      have hmeasure : measure? "string" (.str s) = some (.ofInt s.length) := rfl
      simp only [hmeasure, Option.some.injEq, forall_eq']
      cases rangeEnd with
      | lower => exact atLeastSteps_int_eq_nil _ _ _ _
      | upper => exact atMostSteps_int_eq_nil _ _ _ _
    | _ =>
      constructor
      · intro _ measure hmeasure
        cases hmeasure
      · intro _
        cases rangeEnd <;> rfl
  · cases subject with
    | arr items =>
      have hmeasure : measure? "array" (.arr items) = some (.ofInt items.length) := rfl
      simp only [hmeasure, Option.some.injEq, forall_eq']
      cases rangeEnd with
      | lower => exact atLeastSteps_int_eq_nil _ _ _ _
      | upper => exact atMostSteps_int_eq_nil _ _ _ _
    | _ =>
      constructor
      · intro _ measure hmeasure
        cases hmeasure
      · intro _
        cases rangeEnd <;> rfl

/-! ## What a plain schema asks -/

/-- What a plain schema asks of an instance, given what the schemas inside it accept. -/
structure Satisfies (typeName : String) (members : Json.Members) (accepts : Json → Json → Prop)
    (subject : Json) : Prop where
  kind : hasType .draft202012 typeName subject = true
  required : ∀ values, subject = .obj values → ∀ name ∈ requiredOf members, has name values = true
  properties : ∀ values, subject = .obj values → ∀ name schema value,
    find? name (propertiesOf members) = some schema → find? name values = some value →
      accepts schema value
  items : ∀ items, subject = .arr items → ∀ schema, find? "items" members = some schema →
    ∀ item ∈ items, accepts schema item
  bounds : ∀ rangeEnd keyword n, boundKeyword? typeName rangeEnd = some keyword →
    find? keyword members = some (.int n) →
      ∀ measure, measure? typeName subject = some measure → rangeEnd.admits n measure = true

/-- A declared type asks that the instance is of the type. -/
theorem assertionSteps_type_iff {typeName : String} (hknown : simpleTypes.contains typeName = true)
    (members : Json.Members) (subject : Json) :
    assertionSteps .draft202012 members "type" (.str typeName) subject = [] ↔
      hasType .draft202012 typeName subject = true := by
  have hknows : Dialect.draft202012.knowsType typeName = true := by
    simp only [Dialect.knowsType, hknown, Bool.true_or]
  have hsome : isOfSomeType .draft202012 .unknownType subject [.str typeName] =
      .ok (hasType .draft202012 typeName subject) := by
    rw [isOfSomeType, isOfType, if_pos hknows]
    cases hasType .draft202012 typeName subject <;> rfl
  have hsteps : assertionSteps .draft202012 members "type" (.str typeName) subject =
      findIf (!hasType .draft202012 typeName subject)
        (.wrongType subject [.str typeName]) := by
    show stepsOf (do
      return findIf (!(← isOfSomeType .draft202012 .unknownType subject [.str typeName])) _) = _
    rw [hsome]
    rfl
  rw [hsteps, findIf_eq_nil, Bool.not_eq_false']

/-- Required names ask that the instance has them if it is an object. -/
theorem assertionSteps_required_iff {names : List Json}
    (htexts : ∀ name ∈ names, ∃ text, name = .str text) (members : Json.Members) (subject : Json) :
    assertionSteps .draft202012 members "required" (.arr names) subject = [] ↔
      ∀ values, subject = .obj values → ∀ text, .str text ∈ names → has text values = true := by
  cases subject with
  | obj values =>
    show (names.flatMap fun name => findWhere _ _) = [] ↔ _
    rw [List.flatMap_eq_nil_iff]
    constructor
    · intro h _ hvalues text htext
      cases hvalues
      have hstep := h (.str text) htext
      simpa [namesMember, findWhere, Except.map, stepsOf] using hstep
    · intro h name hname
      obtain ⟨text, rfl⟩ := htexts name hname
      simp [namesMember, findWhere, Except.map, stepsOf, h values rfl text hname]
  | _ =>
    constructor
    · intro _ values hvalues
      cases hvalues
    · intro _
      rfl

/-- The keyword of a bound is one of an assertion. -/
theorem mem_assertionKeywords_of_bound {typeName keyword : String} {rangeEnd : RangeEnd}
    (hbound : boundKeyword? typeName rangeEnd = some keyword) : keyword ∈ assertionKeywords := by
  rcases boundKeyword?_cases hbound with ⟨-, rfl⟩ | ⟨-, rfl⟩ | ⟨-, rfl⟩ <;>
    cases rangeEnd <;> decide

/-- A text is among the required names of a schema if it is in their list. -/
theorem mem_requiredOf_iff {members : Json.Members} {names : List Json}
    (hfound : find? "required" members = some (.arr names)) {text : String} :
    text ∈ requiredOf members ↔ .str text ∈ names := by
  rw [requiredOf, FlatSchema.requiredNames, List.mem_filterMap]
  simp only [FlatSchema.own, hfound]
  constructor
  · rintro ⟨name, hname, htext⟩
    cases name <;> simp at htext
    exact htext ▸ hname
  · intro htext
    exact ⟨.str text, htext, rfl⟩

section Acceptance

variable {refs : Follow} {scope : Scope} {typeName : String} {members : Json.Members}

/-- An instance satisfies what a plain schema asks if every keyword finds it right. -/
theorem Satisfies.of_keywords (hscope : scope.dialect = .draft202012)
    (hplain : IsPlain typeName members) (hproper : IsProper members) {subject : Json}
    (h : ∀ keyword value, find? keyword members = some value → scope.dialect.knows keyword = true →
      (keywordTrace (frameOf refs scope members) (partOf refs scope keyword value)
        subject).IsClean) :
    Satisfies typeName members
      (fun schema part => ((branchOf refs scope schema).enter part).IsClean) subject where
  kind := by
    have hclean := h "type" _ hplain.declared (by rw [hscope]; rfl)
    rw [isClean_assertion_iff hscope (by decide),
      assertionSteps_type_iff (hproper.form.knowsType hplain.declared)] at hclean
    exact hclean
  required := by
    intro values hvalues name hname
    cases hrequired : find? "required" members with
    | none => simp [requiredOf, FlatSchema.own, FlatSchema.requiredNames, hrequired] at hname
    | some value =>
      obtain ⟨names, rfl, htexts⟩ := hproper.form.required hrequired
      have hclean := h "required" _ hrequired (by rw [hscope]; rfl)
      rw [isClean_assertion_iff hscope (by decide), assertionSteps_required_iff htexts] at hclean
      exact hclean values hvalues name ((mem_requiredOf_iff hrequired).1 hname)
  properties := by
    intro values hvalues name schema value hschema hvalue
    cases hproperties : find? "properties" members with
    | none => simp [propertiesOf, FlatSchema.own, hproperties, find?] at hschema
    | some schemas =>
      obtain ⟨rfl, -, -⟩ := hproper.properties hproperties
      have hclean := h "properties" _ hproperties (by rw [hscope]; rfl)
      rw [isClean_properties_iff hscope] at hclean
      exact hclean values hvalues (name, schema) (mem_of_find? hschema) value hvalue
  items := by
    intro items hitems schema hschema item hitem
    obtain ⟨inner, rfl, -⟩ := hplain.items schema hschema
    have hclean := h "items" _ hschema (by rw [hscope]; rfl)
    rw [isClean_items_iff fun _ => hplain.no_tuple] at hclean
    exact hclean items hitems item hitem
  bounds := by
    intro rangeEnd keyword n hbound hfound
    have hknown : scope.dialect.knows keyword = true := by
      rw [hscope]
      rcases boundKeyword?_cases hbound with ⟨-, rfl⟩ | ⟨-, rfl⟩ | ⟨-, rfl⟩ <;>
        cases rangeEnd <;> rfl
    have hclean := h keyword _ hfound hknown
    rw [isClean_assertion_iff hscope (mem_assertionKeywords_of_bound hbound),
      assertionSteps_bound_iff hbound] at hclean
    exact hclean

/-- Every keyword of a plain schema finds an instance right that satisfies what the schema asks. -/
theorem Satisfies.isClean_keyword (hscope : scope.dialect = .draft202012)
    (hplain : IsPlain typeName members) (hproper : IsProper members) {subject : Json}
    (h : Satisfies typeName members
      (fun schema part => ((branchOf refs scope schema).enter part).IsClean) subject)
    {keyword : String} {value : Json} (hfound : find? keyword members = some value) :
    (keywordTrace (frameOf refs scope members) (partOf refs scope keyword value)
      subject).IsClean := by
  rcases hplain.keywords keyword (by simp [has, hfound]) with rfl | hcompared
  · obtain rfl := Option.some.inj (hplain.declared.symm.trans hfound)
    rw [isClean_assertion_iff hscope (by decide),
      assertionSteps_type_iff (hproper.form.knowsType hplain.declared)]
    exact h.kind
  · rcases mem_comparedKeywords hcompared with ⟨-, rfl | rfl⟩ | ⟨-, rfl⟩ | ⟨rangeEnd, hbound⟩
    · obtain ⟨rfl, hnodup, -⟩ := hproper.properties hfound
      rw [isClean_properties_iff hscope]
      intro values hvalues entry hentry part hpart
      exact h.properties values hvalues entry.1 entry.2 part
        ((find?_eq_some_iff_mem hnodup).2 hentry) hpart
    · obtain ⟨names, rfl, htexts⟩ := hproper.form.required hfound
      rw [isClean_assertion_iff hscope (by decide), assertionSteps_required_iff htexts]
      intro values hvalues text htext
      exact h.required values hvalues text ((mem_requiredOf_iff hfound).2 htext)
    · obtain ⟨inner, rfl, -⟩ := hplain.items value hfound
      rw [isClean_items_iff fun _ => hplain.no_tuple]
      intro items hitems item hitem
      exact h.items items hitems _ hfound item hitem
    · obtain ⟨n, rfl, -⟩ := hplain.bounds rangeEnd keyword value hbound hfound
      rw [isClean_assertion_iff hscope (mem_assertionKeywords_of_bound hbound),
        assertionSteps_bound_iff hbound]
      exact h.bounds rangeEnd keyword n hbound hfound

/-- A plain schema accepts an instance exactly if the instance satisfies what the schema asks. -/
theorem isClean_evaluate_plain_iff {ruling? : Option Dialect}
    (hscope : scope.dialect = .draft202012)
    (hruling : ruling?.getD .draft202012 = .draft202012) (hplain : IsPlain typeName members)
    (hproper : IsProper members) (subject : Json) :
    (evaluate refs ruling? scope (.obj members) subject).IsClean ↔
      Satisfies typeName members
        (fun schema part => ((branchOf refs scope schema).enter part).IsClean) subject := by
  rw [isClean_evaluate_iff hscope hruling hplain.no_dialect]
  constructor
  · intro h
    refine .of_keywords hscope hplain hproper ?_
    intro keyword value hfound hknown
    exact h (keyword, value) (mem_of_find? hfound) hknown
  · intro h entry hentry _
    exact h.isClean_keyword hscope hplain hproper
      ((find?_eq_some_iff_mem hproper.nodup).2 hentry)

end Acceptance

end TypeRegistry
