import TypeRegistry.Proofs.Schema.Constraints

/-!
# The reach of constraints

The constraints on an instance are looked for along its values.  The search goes on below an object
only where the schema itself writes that it is of the type `object`, and below an array only where
it writes `array`: the type is read of the schema as it stands, the properties are those of the
flattened schema.  A schema that leaves its type out, that offers several, or that is typed only in
its parts has properties like any other, but the search ends there, and constraints below it are
passed over without an issue.

What the search reaches is checked in full: that there is no issue means that every string that was
reached is an identifier, begins as its constraint wants and, if there is a registry, is known.

Main results:

- Definition `Constrains`: the constraints that the search reaches.
- Definition `IsMet`: what a constraint wants of a string.
- Theorem `constrainedValueIssues_eq_nil_iff`: there is no issue exactly if every constraint that is
  reached is met.
- Theorem `constrainedValueIssues_reach`: under the type `object` the constraints on the properties
  of the flattened schema are met, and under no other type there is any issue with an object.
-/

namespace TypeRegistry

open Dictionary

/-! ## Constraints that are reached -/

/-- A constraint on a string that the search reaches: it stands in the schema of the string, to
which properties of flattened schemas of objects and items of arrays lead. -/
inductive Constrains : Json.Members → Json → (ref : Json) → (value : String) → Prop
  /-- The string is constrained by its schema. -/
  | here {members : Json.Members} {ref : Json} {value : String} :
    find? constraintKeyword members = some ref → Constrains members (.str value) ref value
  /-- The string is below a member of an object. -/
  | member {members inner values : Json.Members} {name : String} {below ref : Json}
    {value : String} :
    Json.getString? "type" members = some "object" →
      (name, .obj inner) ∈ (Json.obj members).flatten.properties →
      find? name values = some below → Constrains inner below ref value →
      Constrains members (.obj values) ref value
  /-- The string is below an item of an array. -/
  | item {members inner : Json.Members} {items : List Json} {item ref : Json} {value : String} :
    Json.getString? "type" members = some "array" →
      find? "items" members = some (.obj inner) → item ∈ items →
      Constrains inner item ref value → Constrains members (.arr items) ref value

/-- A string that is found stands under a constraint that is reached. -/
theorem constrains_of_mem {members : Json.Members} {path : String} {subject : Json}
    {found : ConstrainedString} (h : found ∈ constrainedStrings (.obj members) path subject) :
    Constrains members subject found.ref found.value := by
  induction hsize : sizeOf members using Nat.strongRecOn generalizing members path subject with
  | ind size ih =>
    subst hsize
    rcases mem_constrainedStrings_iff.1 h with hhere |
      ⟨htype, values, name, inner, value, rfl, hproperty, hvalue, hmem⟩ |
      ⟨htype, items, inner, item, place, rfl, hitems, hplace, hmem⟩
    · unfold constrainedHere at hhere
      split at hhere
      next ref text href =>
        obtain rfl := List.mem_singleton.1 hhere
        exact .here href
      next => cases hhere
    · have hsmaller := Json.sizeOf_flatten_lt (.obj members) hproperty
      simp only [Json.obj.sizeOf_spec] at hsmaller
      exact .member htype hproperty hvalue (ih _ (by omega) hmem rfl)
    · have hsmaller := Json.sizeOf_lt_of_find? hitems
      simp only [Json.obj.sizeOf_spec] at hsmaller
      exact .item htype hitems (List.fst_mem_of_mem_zipIdx hplace) (ih _ (by omega) hmem rfl)

/-- A string under a constraint that is reached is found, at some path. -/
theorem Constrains.exists_mem {members : Json.Members} {subject ref : Json} {value : String}
    (h : Constrains members subject ref value) (path : String) :
    ∃ place, ⟨place, value, ref⟩ ∈ constrainedStrings (.obj members) path subject := by
  induction h generalizing path with
  | @here members ref value href =>
    refine ⟨path, mem_constrainedStrings_iff.2 (.inl ?_)⟩
    simp [constrainedHere, href]
  | @member _ _ _ name _ _ _ htype hproperty hvalue _ ih =>
    obtain ⟨place, hmem⟩ := ih (memberPath path name)
    exact ⟨place, mem_constrainedStrings_iff.2
      (.inr (.inl ⟨htype, _, _, _, _, rfl, hproperty, hvalue, hmem⟩))⟩
  | item htype hitems hitem _ ih =>
    obtain ⟨index, hindex⟩ := List.mem_iff_getElem?.1 hitem
    obtain ⟨place, hmem⟩ := ih (itemPath path index)
    exact ⟨place, mem_constrainedStrings_iff.2 (.inr (.inr ⟨htype, _, _, _, index, rfl, hitems,
      List.mk_mem_zipIdx_iff_getElem?.2 hindex, hmem⟩))⟩

/-! ## Constraints that are met -/

/-- A string is as a constraint wants it: the constraint is a text that stands for a pattern, the
string is an identifier that begins like the pattern, and it is known if there is a registry. -/
def IsMet (lookup : Option Lookup) (root ref : Json) (value : String) : Prop :=
  ∃ text pattern, ref = .str text ∧ constraintPattern root text = .ok pattern ∧
    Identifier.isValid value = true ∧ Text.startsWith (patternStart pattern) value = true ∧
    ∀ known, lookup = some known → (known value).isSome = true

/-- The text that a pattern wants at the front of a value is the pattern without a star at its
end. -/
theorem patternStart_append (pattern : String) :
    ∃ behind, pattern.toList = (patternStart pattern).toList ++ behind ∧
      (behind = [] ∨ behind = ['*']) := by
  unfold patternStart
  split
  next hstar =>
    rw [Text.endsWith, List.isSuffixOf_iff_suffix] at hstar
    obtain ⟨start, hstart⟩ := hstar
    refine ⟨['*'], ?_, .inr rfl⟩
    rw [Text.dropLast, String.toList_ofList, ← hstart]
    simp
  next => exact ⟨[], by simp, .inl rfl⟩

/-- An identifier begins with the lead of identifiers. -/
theorem startsWith_lead_of_isValid {value : String} (h : Identifier.isValid value = true) :
    Text.startsWith Identifier.lead value = true := by
  rw [Identifier.isValid, Identifier.parse?] at h
  split at h
  next hlead => exact hlead
  next => cases h

/-- Nothing is wrong with a value against a pattern exactly if it is an identifier that begins like
the pattern and is known.  The pattern for all identifiers is no exception, for they all begin like
it. -/
theorem valueCause?_eq_none_iff {lookup : Option Lookup} {pattern value : String} :
    (valueCause? lookup pattern value).value = none ↔
      Identifier.isValid value = true ∧ Text.startsWith (patternStart pattern) value = true ∧
        ∀ known, lookup = some known → (known value).isSome = true := by
  have hall : pattern = "gts.*" → Identifier.isValid value = true →
      Text.startsWith (patternStart pattern) value = true := by
    rintro rfl hvalid
    exact startsWith_lead_of_isValid hvalid
  unfold valueCause?
  split
  next hvalid =>
    have hinvalid : ¬ Identifier.isValid value = true := by simpa using hvalid
    exact iff_of_false (by simp [Consulted.pure]) fun h => hinvalid h.1
  next hvalid =>
    have hvalid : Identifier.isValid value = true := by simpa using hvalid
    split
    next hstart =>
      refine iff_of_false (by simp [Consulted.pure]) fun h => ?_
      simp [h.2.1] at hstart
    next hstart =>
      have hstart : Text.startsWith (patternStart pattern) value = true := by
        by_cases hpattern : pattern = "gts.*"
        · exact hall hpattern hvalid
        · simpa [hpattern] using hstart
      cases lookup with
      | none => simp [Consulted.pure, hvalid, hstart]
      | some known => cases hknown : known value <;> simp [hvalid, hstart, hknown]

/-- There is no issue with a constrained string exactly if its constraint is met. -/
theorem constrainedValueIssue?_eq_none_iff {lookup : Option Lookup} {root : Json}
    {found : ConstrainedString} :
    (constrainedValueIssue? lookup root found).value = none ↔
      IsMet lookup root found.ref found.value := by
  obtain ⟨path, value, ref⟩ := found
  unfold constrainedValueIssue? IsMet
  cases ref with
  | str text =>
    cases hpattern : constraintPattern root text with
    | error cause => simp [hpattern, Consulted.pure]
    | ok pattern =>
      simp only [hpattern, Consulted.mapValue, Option.map_eq_none_iff, valueCause?_eq_none_iff]
      simp [hpattern]
  | null | bool _ | int _ | float _ | arr _ | obj _ => simp [Consulted.pure]

/-- There is no issue with an instance exactly if every constraint that is reached is met. -/
theorem constrainedValueIssues_eq_nil_iff (lookup : Option Lookup) (members : Json.Members)
    (path : String) (subject : Json) :
    (constrainedValueIssues lookup (.obj members) path subject).value = [] ↔
      ∀ ref value, Constrains members subject ref value →
        IsMet lookup (.obj members) ref value := by
  have hissues : (constrainedValueIssues lookup (.obj members) path subject).value = [] ↔
      ∀ found ∈ constrainedStrings (.obj members) path subject,
        IsMet lookup (.obj members) found.ref found.value := by
    simp only [constrainedValueIssues, List.filterMap_eq_nil_iff, List.forall_mem_map,
      constrainedValueIssue?_eq_none_iff]
  rw [hissues]
  constructor
  · intro h ref value hreached
    obtain ⟨place, hmem⟩ := hreached.exists_mem path
    exact h _ hmem
  · intro h found hmem
    exact h _ _ (constrains_of_mem hmem)

/-! ## The main statement -/

/-- A constraint that begins like an identifier stands for itself. -/
theorem constraintPattern_of_lead {root : Json} {text : String}
    (h : Text.startsWith Identifier.lead text = true) : constraintPattern root text = .ok text := by
  rw [constraintPattern, not_startsWith_slash h]
  rfl

/-- An object shows an issue only under a schema that writes the type `object`.  Under such a schema
there is none exactly if every constraint that is reached is met; and then every property of the
flattened schema with an identifier or a pattern as its constraint has, if it has a string, an
identifier that begins like the pattern. -/
theorem constrainedValueIssues_reach (lookup : Option Lookup) (members values : Json.Members)
    (path : String) :
    (Json.getString? "type" members ≠ some "object" →
      (constrainedValueIssues lookup (.obj members) path (.obj values)).value = []) ∧
    ((constrainedValueIssues lookup (.obj members) path (.obj values)).value = [] ↔
      ∀ ref value, Constrains members (.obj values) ref value →
        IsMet lookup (.obj members) ref value) ∧
    (Json.getString? "type" members = some "object" →
      (constrainedValueIssues lookup (.obj members) path (.obj values)).value = [] →
      ∀ name property pattern value,
        find? name (Json.obj members).flatten.properties = some (.obj property) →
        find? constraintKeyword property = some (.str pattern) →
        Text.startsWith Identifier.lead pattern = true →
        find? name values = some (.str value) →
        Identifier.isValid value = true ∧
          Text.startsWith (patternStart pattern) value = true ∧
          ∀ known, lookup = some known → (known value).isSome = true) := by
  have hissues := constrainedValueIssues_eq_nil_iff lookup members path (.obj values)
  refine ⟨?_, hissues, ?_⟩
  · intro htype
    refine hissues.2 fun ref value hreached => ?_
    cases hreached with
    | member hobject => exact absurd hobject htype
  · intro htype hnone name property pattern value hproperty href hlead hvalue
    have hreached : Constrains members (.obj values) (.str pattern) value :=
      .member htype (mem_of_find? hproperty) hvalue (.here href)
    obtain ⟨text, stands, htext, hstands, hmet⟩ := hissues.1 hnone _ _ hreached
    obtain rfl := Json.str.inj htext
    rw [constraintPattern_of_lead hlead] at hstands
    obtain rfl := Except.ok.inj hstands
    exact hmet

/-- The schema of a kind, which is an identifier in a package. -/
def kindProperty : Json.Members :=
  [("type", .str "string"), ("x-gts-ref", .str "gts.acme.shop.kinds.*")]

/-- A schema that is an object with a kind. -/
def kindPart : Json.Members :=
  [("type", .str "object"), ("properties", .obj [("kind", .obj kindProperty)])]

/-- An instance with a kind that is no identifier. -/
def nonsenseItem : Json.Members :=
  [("kind", .str "nonsense")]

/-- A schema with a type shows the issue. -/
example : (constrainedValueIssues none (.obj kindPart) "" (.obj nonsenseItem)).value.map
    (fun issue => (issue.path, issue.cause)) = [("kind", .invalidValue "nonsense")] := by
  decide +kernel

/-- A schema that is composed of this object and writes no type itself. -/
def composedOfKind : Json.Members :=
  [("allOf", .arr [.obj kindPart])]

/-- The composed schema has the same constraint on the same property, and shows nothing. -/
theorem constrainedValueIssues_composedOfKind :
    (constrainedValueIssues none (.obj composedOfKind) "" (.obj nonsenseItem)).value = [] ∧
      find? "kind" (Json.obj composedOfKind).flatten.properties = some (.obj kindProperty) ∧
      find? constraintKeyword kindProperty = some (.str "gts.acme.shop.kinds.*") ∧
      Text.startsWith Identifier.lead "gts.acme.shop.kinds.*" = true ∧
      find? "kind" nonsenseItem = some (.str "nonsense") ∧
      Identifier.isValid "nonsense" = false := by
  refine ⟨?_, rfl, rfl, by decide, rfl, by decide⟩
  rw [List.eq_nil_iff_length_eq_zero]
  decide +kernel

end TypeRegistry
