import TypeRegistry.Proofs.Relaxation.Document
import TypeRegistry.Proofs.Relaxation.Following

/-!
# Keywords on schemas that follow others

Two schemas are compared that have the same keywords, the schemas in the values of the second
following those of the first.  Under most keywords more passes if the schemas inside let more pass,
so that it is enough for these that nothing is found where nothing was found.  Where a keyword counts
what is found, such as `not` and `oneOf`, the schemas inside have to agree in what they refuse as
well.  A schema that asks what its other keywords evaluate counts what schemas refuse under these.

Main results:

- Definition `Tone.under`: how the outcome of the schemas under a keyword counts.
- Definitions `Branch.Follows`, `Part.Follows`, `Frame.Follows`: schemas, keywords with the schemas
  in their values, and whole schemas that follow others.
- Theorem `Frame.Follows.keywordTrace`: the trace of a keyword follows.
- Theorem `Frame.Follows.evaluatedNames`, `Frame.Follows.evaluatedPlaces`: what is evaluated is the
  same where both sides count.
-/

namespace TypeRegistry

open Dictionary

/-! ## Keywords -/

/-- The keywords whose value can be a schema. -/
def wholeKeywords : List String :=
  ["additionalProperties", "propertyNames", "unevaluatedProperties", "items", "additionalItems",
    "contains", "unevaluatedItems", "not", "if", "then", "else", "extends", "type", "disallow"]

/-- The keywords whose value can be a list of schemas. -/
def listKeywords : List String :=
  ["items", "prefixItems", "allOf", "anyOf", "oneOf", "extends", "type", "disallow"]

/-- The keywords whose value holds schemas under names. -/
def mapKeywords : List String :=
  ["properties", "patternProperties", "dependencies", "dependentSchemas"]

/-- Schemas stand under names under no keyword whose value is a schema or a list of them. -/
theorem not_mem_of_mem_mapKeywords {keyword : String} (h : keyword ∈ mapKeywords) :
    keyword ∉ wholeKeywords ∧ keyword ∉ listKeywords := by
  revert keyword
  decide

/-- The keywords under which what schemas refuse counts as well. -/
def countingKeywords : List String :=
  ["contains", "oneOf", "not", "if", "unevaluatedProperties", "unevaluatedItems", "type", "disallow"]

/-- The keywords whose schemas are asked what they evaluate. -/
def askedKeywords : List String :=
  ["$ref", "$dynamicRef", "$recursiveRef", "additionalProperties", "dependentSchemas", "allOf",
    "anyOf", "then", "else"]

/-- Whether a schema asks what its other keywords evaluate. -/
def asksForRest (members : Json.Members) : Bool :=
  has "unevaluatedProperties" members || has "unevaluatedItems" members

/-- How the outcome of the schemas under a keyword counts. -/
def Tone.under (tone : Tone) (members : Json.Members) (keyword : String) : Tone :=
  if keyword ∈ countingKeywords ∨ asksForRest members = true ∧ keyword ∈ askedKeywords then .level
  else tone

@[simp]
theorem Tone.under_level (members : Json.Members) (keyword : String) :
    Tone.level.under members keyword = .level := by
  rw [under, ite_self]

theorem Tone.under_counting {tone : Tone} {members : Json.Members} {keyword : String}
    (h : keyword ∈ countingKeywords) : tone.under members keyword = .level :=
  if_pos (.inl h)

theorem Tone.under_asked {tone : Tone} {members : Json.Members} {keyword : String}
    (hrest : asksForRest members = true) (h : keyword ∈ askedKeywords) :
    tone.under members keyword = .level :=
  if_pos (.inr ⟨hrest, h⟩)

/-- A trace that follows under a keyword follows in the schema. -/
theorem Trace.Follows.of_under {tone : Tone} {members : Json.Members} {keyword : String}
    {first second : Trace} (h : Follows (tone.under members keyword) first second) :
    Follows tone first second := by
  rw [Tone.under] at h
  split at h
  · exact h.of_level
  · exact h

/-! ## Values -/

/-- A value that is the same, or relaxed where only one side counts. -/
def Json.Alike (tone : Tone) (value value' : Json) : Prop :=
  value' = value ∨ tone = .rising ∧ value.IsRelaxable ∧ value' = value.relax

namespace Json.Alike

variable {tone : Tone} {value value' : Json}

theorem eq_of_level (h : Json.Alike .level value value') : value' = value :=
  h.resolve_right fun ⟨htone, _⟩ => by cases htone

theorem isObject_eq (h : Json.Alike tone value value') : value'.isObject = value.isObject := by
  rcases h with rfl | ⟨-, -, rfl⟩
  · rfl
  · exact isObject_relax value

theorem isInhabited_eq (h : Json.Alike tone value value') :
    value'.isInhabited = value.isInhabited := by
  rcases h with rfl | ⟨-, -, rfl⟩
  · rfl
  · exact isInhabited_relax value

theorem bound?_eq (h : Json.Alike tone value value') : value'.bound? = value.bound? := by
  rcases h with rfl | ⟨-, -, rfl⟩
  · rfl
  · cases value <;> simp [bound?, numberOrTruth?, number?]

/-- A value that is no object and no array is the same. -/
theorem eq_of_scalar (h : Json.Alike tone value value') (hobj : ∀ members, value ≠ .obj members)
    (harr : ∀ items, value ≠ .arr items) : value' = value := by
  rcases h with rfl | ⟨-, -, rfl⟩
  · rfl
  · cases value with
    | obj members => exact absurd rfl (hobj members)
    | arr items => exact absurd rfl (harr items)
    | _ => simp

end Json.Alike

/-- A value whose schemas can be relaxed under a keyword: one schema, a list, or schemas under names
none of which pins an identifier. -/
def Json.HoldsSchemas (keyword : String) (value : Json) : Prop :=
  keyword ∈ wholeKeywords ∨ (keyword ∈ listKeywords ∧ ∃ items, value = .arr items) ∨
    (keyword ∈ mapKeywords ∧ ∃ members, value = .obj members ∧ ¬ Pins members)

/-! ## Schemas and keywords that follow -/

/-- A schema that does on every instance what follows what another one does. -/
structure Branch.Follows (tone : Tone) (branch branch' : Branch) : Prop where
  schema : Json.Alike tone branch.schema branch'.schema
  enter : ∀ subject, Trace.Follows tone (branch.enter subject) (branch'.enter subject)
  test : tone = .level → ∀ subject, Trace.Follows .level (branch.test subject) (branch'.test subject)
  names : tone = .level → ∀ rules subject,
    Trial.Follows Eq (branch.names rules subject) (branch'.names rules subject)
  places : tone = .level → ∀ rules subject,
    Trial.Follows Eq (branch.places rules subject) (branch'.places rules subject)

/-- The value of a keyword is used as a list of schemas, or is the same. -/
def Part.HasBranches (tone : Tone) (part : Part) : Prop :=
  part.keyword ∈ listKeywords ∧
    (part.keyword ∉ wholeKeywords ∨ tone = .level ∨ part.whole.schema.isObject = false)

/-- A keyword the schemas in whose value follow those of another one. -/
structure Part.Follows (tone : Tone) (part part' : Part) : Prop where
  keyword : part'.keyword = part.keyword
  schema : Json.Alike tone part.whole.schema part'.whole.schema
  holds : part'.whole.schema = part.whole.schema ∨
    Json.HoldsSchemas part.keyword part.whole.schema
  whole : part.keyword ∈ wholeKeywords → Branch.Follows tone part.whole part'.whole
  branches : part.HasBranches tone →
    TypeRegistry.Follows (List.Forall₂ (Branch.Follows tone)) part.branches part'.branches
  named : part.keyword ∈ mapKeywords →
    TypeRegistry.Follows
      (List.Forall₂ fun named named' => named'.1 = named.1 ∧ Branch.Follows tone named.2 named'.2)
      part.namedBranches part'.namedBranches

/-- A schema whose keywords follow those of another one. -/
structure Frame.Follows (tone : Tone) (frame frame' : Frame) : Prop where
  dialect : frame'.dialect = frame.dialect
  beside : ∀ name, name ≠ "const" → name ≠ "type" →
    Option.Rel (Json.Alike tone) (find? name frame.members) (find? name frame'.members)
  schema_part? : ∀ keyword, (frame.part? keyword).map (·.whole.schema) = find? keyword frame.members
  schema_part?' : ∀ keyword,
    (frame'.part? keyword).map (·.whole.schema) = find? keyword frame'.members
  part? : ∀ keyword, keyword ∈ wholeKeywords ++ listKeywords ++ mapKeywords ++ leadingKeywords →
    keyword ≠ "type" →
    Option.Rel (Part.Follows (tone.under frame.members keyword)) (frame.part? keyword)
      (frame'.part? keyword)
  reference : ∀ part ∈ frame.parts, part.keyword = "$ref" ∨ part.keyword = "$dynamicRef" →
    ∀ ref, part.whole.schema = .str ref →
      Trial.Follows (Branch.Follows (tone.under frame.members part.keyword))
        (frame.follow (.to ref)) (frame'.follow (.to ref))
  recursion : ∀ part ∈ frame.parts, part.keyword = "$recursiveRef" →
    Trial.Follows (Branch.Follows (tone.under frame.members part.keyword))
      (frame.follow .around) (frame'.follow .around)

namespace Branch.Follows

variable {tone : Tone} {branch branch' : Branch}

theorem enterAt (h : Branch.Follows tone branch branch') (step : PathStep) (part : Json) :
    Trace.Follows tone (branch.enterAt step part) (branch'.enterAt step part) := by
  have hcases : ∀ branch : Branch, branch.enterAt step part =
      if branch.schema.isTruth then branch.enter part else (branch.enter part).under step := by
    intro branch
    rw [Branch.enterAt]
    cases branch.schema <;> rfl
  have htruth : branch'.schema.isTruth = branch.schema.isTruth := by
    rcases h.schema with heq | ⟨-, -, heq⟩
    · rw [heq]
    · rw [heq, Json.isTruth_relax]
  rw [hcases, hcases, htruth]
  split
  · exact h.enter part
  · exact (h.enter part).under step step

end Branch.Follows

section Keywords

variable {tone tone' : Tone} {frame frame' : Frame} {part part' : Part} {whole whole' : Branch}

/-! ## A schema's own steps -/

/-- Steps that find something wherever others do. -/
def StepsAlike : List Step → List Step → Prop :=
  List.Forall₂ (Follows fun _ _ => True)

theorem StepsAlike.refl (steps : List Step) : StepsAlike steps steps :=
  List.forall₂_same.2 fun _ _ => fun cause h => ⟨cause, h, trivial⟩

/-- What a schema finds itself follows what another one finds itself. -/
theorem Frame.own_follows {steps steps' : List Step} (h : StepsAlike steps steps')
    (frame frame' : Frame) (subject : Json) :
    Trace.Follows tone (frame.own subject steps) (frame'.own subject steps') := by
  refine .inTurn (h.imp fun step step' hstep => .ofExcept hstep fun cause cause' _ => ?_)
  exact .ofFindings (by simp)

theorem stepsAlike_findIf (condition : Bool) (cause cause' : FindingCause) :
    StepsAlike (findIf condition cause) (findIf condition cause') := by
  cases condition
  · exact .nil
  · exact .cons (.ok trivial) .nil

theorem stepsAlike_stepsOf {α : Type} (outcome : Except Breakdown α) {steps steps' : α → List Step}
    (h : ∀ a, StepsAlike (steps a) (steps' a)) :
    StepsAlike (stepsOf (outcome.map steps)) (stepsOf (outcome.map steps')) := by
  cases outcome with
  | error cause => exact .refl _
  | ok a => exact h a

theorem stepsAlike_findWhere (condition : Except Breakdown Bool) (cause cause' : FindingCause) :
    StepsAlike (findWhere condition cause) (findWhere condition cause') :=
  stepsAlike_stepsOf condition fun holds => stepsAlike_findIf holds cause cause'

/-- Names that are missing are missing if they are relaxed. -/
theorem stepsAlike_missingSteps (values : Json.Members) (cause : Json → FindingCause)
    (names : List Json) :
    StepsAlike (missingSteps values cause (.ok names))
      (missingSteps values cause (.ok (names.map Json.relax))) := by
  have hmember : ∀ name : Json, namesMember values name.relax = namesMember values name := by
    intro name
    cases name <;> simp [namesMember]
  show StepsAlike (names.flatMap _) ((names.map Json.relax).flatMap _)
  induction names with
  | nil => exact .nil
  | cons name rest ih =>
    rw [List.map_cons, List.flatMap_cons, List.flatMap_cons, hmember]
    exact List.rel_append (stepsAlike_findWhere _ _ _) ih

/-! ## References -/

theorem referenceTrace_follows {value : Json} (subject : Json)
    (hlead : ∀ ref, value = .str ref →
      Trial.Follows (Branch.Follows tone) (frame.follow (.to ref)) (frame'.follow (.to ref))) :
    Trace.Follows tone (referenceTrace frame value subject) (referenceTrace frame' value subject) := by
  cases value with
  | str ref => exact .ofTrial (hlead ref rfl) fun _ _ hbranch => hbranch.enter subject
  | _ => exact .of_breakdown _ _

theorem recursionTrace_follows (subject : Json)
    (hlead : Trial.Follows (Branch.Follows tone) (frame.follow .around) (frame'.follow .around)) :
    Trace.Follows tone (recursionTrace frame subject) (recursionTrace frame' subject) :=
  .ofTrial hlead.withoutName fun _ _ hbranch => hbranch.enter subject

/-! ## Members -/

/-- Traces of the schemas under names follow if they do name by name. -/
theorem Part.Follows.inTurn_named (h : Part.Follows tone part part')
    (hkeyword : part.keyword ∈ mapKeywords) {each each' : String × Branch → Trace}
    (heach : ∀ name branch branch', Branch.Follows tone branch branch' →
      Trace.Follows tone (each (name, branch)) (each' (name, branch'))) :
    Trace.Follows tone (.ofExcept part.namedBranches (inTurn each))
      (.ofExcept part'.namedBranches (inTurn each')) := by
  refine .ofExcept (h.named hkeyword) fun named named' hnamed => .inTurn (hnamed.imp ?_)
  rintro ⟨name, branch⟩ ⟨_, branch'⟩ ⟨rfl, hbranch⟩
  exact heach _ branch branch' hbranch

theorem propertiesTrace_follows (h : Part.Follows tone part part')
    (hkeyword : part.keyword ∈ mapKeywords) (subject : Json) :
    Trace.Follows tone (propertiesTrace part subject) (propertiesTrace part' subject) := by
  cases subject with
  | obj values =>
    refine h.inTurn_named hkeyword fun name branch branch' hbranch => ?_
    dsimp only
    split
    · exact hbranch.enterAt _ _
    · exact .refl tone _
  | _ => exact .refl tone _

theorem requiredTrace_follows {schema schema' : Json} (h : Json.Alike tone schema schema')
    (name : String) (subject : Json) :
    Trace.Follows tone (requiredTrace frame name schema subject)
      (requiredTrace frame' name schema' subject) := by
  let isRequired (members : Json.Members) : Bool :=
    ((find? "required" members).map Json.isInhabited).getD false
  have hnamed : Follows (fun members members' => isRequired members' = isRequired members)
      schema.named? schema'.named? := by
    rcases h with rfl | ⟨-, hrelaxable, rfl⟩
    · exact (Follows.of_eq rfl).mono fun members _ hsame => hsame ▸ rfl
    · cases schema with
      | obj members =>
        rw [Json.relax_obj]
        refine .ok ?_
        dsimp only [isRequired]
        rw [Json.find?_relaxedMembers hrelaxable.keys_nodup (by decide) (by decide), Option.map_map]
        congr 2
        funext value
        exact Json.isInhabited_relax value
      | _ => exact .error _ _
  refine .ofExcept hnamed fun members members' hsame => ?_
  show Trace.Follows tone (if isRequired members then _ else _) (if isRequired members' then _ else _)
  rw [hsame]
  split
  · exact (Trace.Follows.ofFindings (by simp)).under _ _
  · exact .refl tone _

theorem requiringPropertiesTrace_follows (h : Part.Follows tone part part')
    (hkeyword : part.keyword ∈ mapKeywords) (subject : Json) :
    Trace.Follows tone (requiringPropertiesTrace frame part subject)
      (requiringPropertiesTrace frame' part' subject) := by
  cases subject with
  | obj values =>
    refine h.inTurn_named hkeyword fun name branch branch' hbranch => ?_
    dsimp only
    split
    · exact hbranch.enterAt _ _
    · exact requiredTrace_follows hbranch.schema _ _
  | _ => exact .refl tone _

theorem patternPropertiesTrace_follows (h : Part.Follows tone part part')
    (hkeyword : part.keyword ∈ mapKeywords) (subject : Json) :
    Trace.Follows tone (patternPropertiesTrace part subject)
      (patternPropertiesTrace part' subject) := by
  cases subject with
  | obj values =>
    refine h.inTurn_named hkeyword fun pattern branch branch' hbranch => ?_
    refine .inTurn_self fun entry _ => ?_
    obtain ⟨name, value⟩ := entry
    refine .ofExcept (.of_eq rfl) fun occurs _ hsame => hsame ▸ ?_
    split
    · exact hbranch.enterAt _ _
    · exact .refl tone _
  | _ => exact .refl tone _

/-- Schemas under names are the same, or relaxed one by one. -/
theorem Part.Follows.map_cases (h : Part.Follows tone part part')
    (hkeyword : part.keyword ∈ mapKeywords) :
    part'.whole.schema = part.whole.schema ∨ ∃ members, part.whole.schema = .obj members ∧
      part'.whole.schema = .obj (members.map fun member => (member.1, member.2.relax)) := by
  obtain ⟨hwhole, hlist⟩ := not_mem_of_mem_mapKeywords hkeyword
  rcases h.schema with heq | ⟨-, hrelaxable, heq⟩
  · exact .inl heq
  · rcases h.holds with heq | hwhole' | ⟨hlist', -⟩ | ⟨-, members, hmembers, hpins⟩
    · exact .inl heq
    · exact absurd hwhole' hwhole
    · exact absurd hlist' hlist
    · rw [hmembers] at hrelaxable
      rw [hmembers, Json.relax_obj_of_unpinned hrelaxable.keys_nodup hpins] at heq
      exact .inr ⟨members, hmembers, heq⟩

/-- The names that schemas stand under are the same. -/
theorem Part.Follows.listed?_eq (h : Part.Follows tone part part')
    (hkeyword : part.keyword ∈ mapKeywords) :
    part'.whole.schema.listed? = part.whole.schema.listed? := by
  rcases h.map_cases hkeyword with heq | ⟨members, hmembers, heq⟩
  · rw [heq]
  · rw [hmembers, heq, Json.listed?, Json.listed?, keys, keys]
    simp [Function.comp_def]

/-- The names that schemas stand under are the same. -/
theorem Part.Follows.holds?_eq (h : Part.Follows tone part part')
    (hkeyword : part.keyword ∈ mapKeywords) (name : String) :
    part'.whole.schema.holds? name = part.whole.schema.holds? name := by
  rcases h.map_cases hkeyword with heq | ⟨members, hmembers, heq⟩
  · rw [heq]
  · rw [hmembers, heq, Json.holds?_obj, Json.holds?_obj, has, has,
      find?_mapValues (fun _ value => Json.relax value), Option.isSome_map]

/-- The number of schemas in a list is the same. -/
theorem Part.Follows.count?_eq (h : Part.Follows tone part part')
    (hkeyword : part.keyword = "prefixItems") :
    part'.whole.schema.count? = part.whole.schema.count? := by
  rcases h.schema with heq | ⟨-, -, heq⟩
  · rw [heq]
  · rcases h.holds with heq | hwhole | ⟨-, items, hitems⟩ | ⟨hmap, -⟩
    · rw [heq]
    · exact absurd hwhole (by rw [hkeyword]; decide)
    · rw [heq, hitems, Json.relax_arr, Json.count?, Json.count?, Json.listed?_arr, Json.listed?_arr,
        Except.map, Except.map, List.length_map]
    · exact absurd hmap (by rw [hkeyword]; decide)

/-- A keyword of a schema is one of its keywords and has that name. -/
theorem Frame.mem_of_part? {keyword : String} (h : frame.part? keyword = some part) :
    part ∈ frame.parts ∧ part.keyword = keyword :=
  ⟨List.mem_of_find?_eq_some h, by simpa using List.find?_some h⟩

/-- What stands under a keyword with schemas under names or in a list, as far as names and numbers
go. -/
theorem Frame.Follows.map_find?_eq {α : Type} (h : Frame.Follows tone frame frame') (keyword : String)
    (hkeyword : keyword ∈ wholeKeywords ++ listKeywords ++ mapKeywords ++ leadingKeywords)
    (htype : keyword ≠ "type") (look : Json → α)
    (hlook : ∀ {part part'}, Part.Follows (tone.under frame.members keyword) part part' →
      part.keyword = keyword → look part'.whole.schema = look part.whole.schema) :
    (find? keyword frame'.members).map look = (find? keyword frame.members).map look := by
  have hpart := h.part? keyword hkeyword htype
  rw [← h.schema_part?, ← h.schema_part?', Option.map_map, Option.map_map]
  cases hfound : frame.part? keyword with
  | none =>
    rw [hfound] at hpart
    cases hfound' : frame'.part? keyword with
    | none => rfl
    | some part' =>
      rw [hfound'] at hpart
      cases hpart
  | some part =>
    rw [hfound] at hpart
    cases hfound' : frame'.part? keyword with
    | none =>
      rw [hfound'] at hpart
      cases hpart
    | some part' =>
      rw [hfound'] at hpart
      cases hpart with
      | some hpart => exact congrArg some (hlook hpart (frame.mem_of_part? hfound).2)

/-- The patterns of a schema are the same. -/
theorem Frame.Follows.patternsOf_eq (h : Frame.Follows tone frame frame') :
    patternsOf frame'.members = patternsOf frame.members := by
  have hlisted := h.map_find?_eq "patternProperties" (by decide) (by decide) Json.listed?
    fun hpart hkeyword => hpart.listed?_eq (by rw [hkeyword]; decide)
  rw [patternsOf, patternsOf]
  cases hfound : find? "patternProperties" frame.members with
  | none =>
    rw [hfound] at hlisted
    rw [Option.map_eq_none_iff.1 hlisted]
  | some value =>
    rw [hfound] at hlisted
    obtain ⟨value', hfound', hvalue⟩ := Option.map_eq_some_iff.1 hlisted
    rw [hfound']
    dsimp only
    rw [hvalue]

/-- The names that a schema does not declare are the same. -/
theorem Frame.Follows.undeclaredNames_eq (h : Frame.Follows tone frame frame')
    (values : Json.Members) :
    undeclaredNames frame'.members values = undeclaredNames frame.members values := by
  have hholds : ∀ name : String,
      ((find? "properties" frame'.members).getD (.obj [])).holds? name =
        ((find? "properties" frame.members).getD (.obj [])).holds? name := by
    intro name
    have hsame := h.map_find?_eq "properties" (by decide) (by decide)
      (fun value => value.holds? name)
      fun hpart hkeyword => hpart.holds?_eq (by rw [hkeyword]; decide) name
    rw [← Option.getD_map (fun value : Json => value.holds? name),
      ← Option.getD_map (fun value : Json => value.holds? name), hsame]
  rw [undeclaredNames, undeclaredNames, h.patternsOf_eq]
  dsimp only [isDeclared]
  simp only [hholds]

/-- The same names stand in a schema, but for the two. -/
theorem Frame.Follows.has_eq (h : Frame.Follows tone frame frame') (name : String)
    (hconst : name ≠ "const") (htype : name ≠ "type") :
    has name frame'.members = has name frame.members := by
  have hbeside := h.beside name hconst htype
  rw [has, has]
  generalize find? name frame.members = value at hbeside ⊢
  generalize find? name frame'.members = value' at hbeside ⊢
  cases hbeside <;> rfl

theorem additionalPropertiesTrace_follows (hframe : Frame.Follows tone' frame frame')
    (h : Branch.Follows tone whole whole') (subject : Json) :
    Trace.Follows tone (additionalPropertiesTrace frame whole subject)
      (additionalPropertiesTrace frame' whole' subject) := by
  cases subject with
  | obj values =>
    rw [additionalPropertiesTrace, additionalPropertiesTrace, hframe.undeclaredNames_eq,
      h.schema.isObject_eq, h.schema.isInhabited_eq]
    refine .ofExcept (.of_eq rfl) fun names _ hsame => hsame ▸ ?_
    split
    · refine .inTurn_self fun entry _ => ?_
      obtain ⟨name, value⟩ := entry
      dsimp only
      split
      · exact h.enterAt _ _
      · exact .refl tone _
    · split
      · exact .refl tone _
      · have hcause : undeclaredCause frame'.members names = undeclaredCause frame.members names := by
          rw [undeclaredCause, undeclaredCause, hframe.patternsOf_eq,
            hframe.has_eq _ (by decide) (by decide)]
        rw [hcause]
        exact Frame.own_follows (.refl _) _ _ _
  | _ => exact .refl tone _

theorem propertyNamesTrace_follows (h : Branch.Follows tone whole whole') (subject : Json) :
    Trace.Follows tone (propertyNamesTrace whole subject) (propertyNamesTrace whole' subject) :=
  .inTurn_self fun _ _ => h.enter _

theorem dependentSchemasTrace_follows (h : Part.Follows tone part part')
    (hkeyword : part.keyword ∈ mapKeywords) (subject : Json) :
    Trace.Follows tone (dependentSchemasTrace part subject) (dependentSchemasTrace part' subject) := by
  cases subject with
  | obj values =>
    refine h.inTurn_named hkeyword fun name branch branch' hbranch => ?_
    dsimp only
    split
    · exact hbranch.enter _
    · exact .refl tone _
  | _ => exact .refl tone _

/-- A value that is the same or relaxed is of the same kind. -/
theorem Json.Alike.cases {value value' : Json} (h : Json.Alike tone value value') :
    value' = value ∨ (∃ members members', value = .obj members ∧ value' = .obj members') ∨
      ∃ items, value = .arr items ∧ value' = .arr (items.map Json.relax) := by
  rcases h with heq | ⟨-, -, heq⟩
  · exact .inl heq
  · cases value with
    | obj members => exact .inr (.inl ⟨members, _, rfl, by rw [heq, Json.relax_obj]⟩)
    | arr items => exact .inr (.inr ⟨items, rfl, by rw [heq, Json.relax_arr]⟩)
    | _ => exact .inl (by simpa using heq)

theorem earlyDependencyTrace_follows (h : Branch.Follows tone whole whole') (values : Json.Members)
    (name : String) (subject : Json) :
    Trace.Follows tone (earlyDependencyTrace frame values name whole subject)
      (earlyDependencyTrace frame' values name whole' subject) := by
  rw [earlyDependencyTrace.eq_def, earlyDependencyTrace.eq_def]
  rcases h.schema.cases with heq | ⟨members, members', hobj, hobj'⟩ | ⟨items, harr, harr'⟩
  · rw [heq]
    split
    · exact h.enter subject
    · exact Frame.own_follows (.refl _) _ _ _
    · exact Frame.own_follows (.refl _) _ _ _
  · rw [hobj, hobj']
    exact h.enter subject
  · rw [harr, harr']
    exact Frame.own_follows (stepsAlike_missingSteps _ _ _) _ _ _

theorem dependencyTrace_follows (h : Branch.Follows tone whole whole') (values : Json.Members)
    (name : String) (subject : Json) :
    Trace.Follows tone (dependencyTrace frame values name whole subject)
      (dependencyTrace frame' values name whole' subject) := by
  rw [dependencyTrace.eq_def, dependencyTrace.eq_def]
  rcases h.schema.cases with heq | ⟨members, members', hobj, hobj'⟩ | ⟨items, harr, harr'⟩
  · rw [heq]
    split
    · exact Frame.own_follows (.refl _) _ _ _
    · exact h.enter subject
  · rw [hobj, hobj']
    exact h.enter subject
  · rw [harr, harr']
    exact Frame.own_follows (stepsAlike_missingSteps _ _ _) _ _ _

theorem dependenciesTrace_follows (hdialect : frame'.dialect = frame.dialect)
    (h : Part.Follows tone part part') (hkeyword : part.keyword ∈ mapKeywords) (subject : Json) :
    Trace.Follows tone (dependenciesTrace frame part subject)
      (dependenciesTrace frame' part' subject) := by
  cases subject with
  | obj values =>
    refine h.inTurn_named hkeyword fun name branch branch' hbranch => ?_
    dsimp only
    rw [hdialect]
    split
    · exact .refl tone _
    · split
      · exact earlyDependencyTrace_follows hbranch _ _ _
      · exact dependencyTrace_follows hbranch _ _ _
  | _ => exact .refl tone _

/-! ## Items -/

theorem tupleTrace_follows {branches branches' : List Branch}
    (h : List.Forall₂ (Branch.Follows tone) branches branches') (items : List Json) :
    Trace.Follows tone (tupleTrace branches items) (tupleTrace branches' items) := by
  rw [tupleTrace, tupleTrace]
  refine .inTurn ?_
  generalize items.zipIdx = places
  induction h generalizing places with
  | nil => exact .nil
  | cons hbranch _ ih =>
    cases places with
    | nil => exact .nil
    | cons place rest => exact .cons (hbranch.enterAt _ _) (ih rest)

theorem everyItemTrace_follows (h : Branch.Follows tone whole whole') (place : Nat)
    (items : List Json) :
    Trace.Follows tone (everyItemTrace place whole items) (everyItemTrace place whole' items) :=
  .inTurn_self fun _ _ => h.enterAt _ _

theorem Frame.Follows.tupleLength_eq (h : Frame.Follows tone frame frame') :
    tupleLength frame'.members "prefixItems" = tupleLength frame.members "prefixItems" := by
  have hsame := h.map_find?_eq "prefixItems" (by decide) (by decide) Json.count?
    fun hpart hkeyword => hpart.count?_eq hkeyword
  have hlength : ∀ members : Json.Members, tupleLength members "prefixItems" =
      ((find? "prefixItems" members).map Json.count?).getD (.ok 0) := by
    intro members
    rw [tupleLength]
    cases find? "prefixItems" members <;> rfl
  rw [hlength, hlength, hsame]

theorem remainingItemsTrace_follows (hframe : Frame.Follows tone' frame frame')
    (h : Branch.Follows tone whole whole') (items : List Json) (subject : Json) :
    Trace.Follows tone (remainingItemsTrace frame whole items subject)
      (remainingItemsTrace frame' whole' items subject) := by
  rw [remainingItemsTrace, remainingItemsTrace, hframe.tupleLength_eq]
  refine .ofExcept (.of_eq rfl) fun before _ hsame => hsame ▸ ?_
  dsimp only
  rcases h.schema.cases with heq | ⟨members, members', hobj, hobj'⟩ | ⟨items, harr, harr'⟩
  · rw [heq]
    split
    · exact Frame.own_follows (.refl _) _ _ _
    · exact everyItemTrace_follows h _ _
  · rw [hobj, hobj']
    exact everyItemTrace_follows h _ _
  · rw [harr, harr']
    exact everyItemTrace_follows h _ _

theorem itemsTrace_follows (hframe : Frame.Follows tone' frame frame')
    (h : Part.Follows tone part part') (hwhole : part.keyword ∈ wholeKeywords)
    (hlist : part.keyword ∈ listKeywords) (subject : Json) :
    Trace.Follows tone (itemsTrace frame part subject) (itemsTrace frame' part' subject) := by
  cases subject with
  | arr items =>
    have hevery : isForEveryItem frame.dialect part'.whole.schema =
        isForEveryItem frame.dialect part.whole.schema := by
      rcases h.schema.cases with heq | ⟨members, members', hobj, hobj'⟩ | ⟨items, harr, harr'⟩
      · rw [heq]
      · rw [hobj, hobj']
        rfl
      · rw [harr, harr']
        rfl
    rw [itemsTrace, itemsTrace, hframe.dialect, hevery]
    split
    · exact remainingItemsTrace_follows hframe (h.whole hwhole) _ _
    · split
      · exact everyItemTrace_follows (h.whole hwhole) _ _
      next hsingle =>
        have hobject : part.whole.schema.isObject = false := by
          cases hschema : part.whole.schema with
          | obj members => simp [hschema, isForEveryItem] at hsingle
          | _ => rfl
        exact .ofExcept (h.branches ⟨hlist, .inr (.inr hobject)⟩) fun _ _ hbranches =>
          tupleTrace_follows hbranches _
  | _ => exact .refl tone _

theorem additionalItemsTrace_follows (hframe : Frame.Follows tone' frame frame')
    (h : Branch.Follows tone whole whole') (subject : Json) :
    Trace.Follows tone (additionalItemsTrace frame whole subject)
      (additionalItemsTrace frame' whole' subject) := by
  have hbehind : ∀ items before, Trace.Follows tone
      (additionalItemsTrace.behind frame whole subject items before)
      (additionalItemsTrace.behind frame' whole' subject items before) := by
    intro items before
    rw [additionalItemsTrace.behind, additionalItemsTrace.behind, h.schema.isObject_eq,
      h.schema.isInhabited_eq]
    split
    · exact everyItemTrace_follows h _ _
    · split
      · exact .refl tone _
      · exact Frame.own_follows (.refl _) _ _ _
  cases subject with
  | arr items =>
    have hbeside := hframe.beside "items" (by decide) (by decide)
    rw [additionalItemsTrace.eq_def, additionalItemsTrace.eq_def]
    generalize find? "items" frame.members = value at hbeside ⊢
    generalize find? "items" frame'.members = value' at hbeside ⊢
    cases hbeside with
    | none => exact .refl tone _
    | @some value value' hvalue =>
      rcases hvalue.cases with rfl | ⟨members, members', rfl, rfl⟩ | ⟨schemas, rfl, rfl⟩
      · cases value' with
        | arr schemas => exact hbehind _ _
        | obj members => exact .refl tone _
        | _ => exact .ofExcept (.of_eq rfl) fun before _ hsame => hsame ▸ hbehind _ _
      · exact .refl tone _
      · show Trace.Follows tone (additionalItemsTrace.behind _ _ _ _ _)
          (additionalItemsTrace.behind _ _ _ _ (schemas.map Json.relax).length)
        rw [List.length_map]
        exact hbehind _ _
  | _ => exact .refl tone _

theorem prefixItemsTrace_follows (h : Part.Follows tone part part')
    (hlist : part.HasBranches tone) (subject : Json) :
    Trace.Follows tone (prefixItemsTrace part subject) (prefixItemsTrace part' subject) := by
  cases subject with
  | arr items =>
    exact .ofExcept (h.branches hlist) fun _ _ hbranches => tupleTrace_follows hbranches _
  | _ => exact .refl tone _

theorem someItemValid_follows (h : Branch.Follows .level whole whole') (items : List Json) :
    Trial.Follows Eq (someItemValid whole items) (someItemValid whole' items) := by
  induction items with
  | nil => exact .pure rfl
  | cons item rest ih =>
    refine .bind (h.test rfl item).verdict fun isValid _ hsame => hsame ▸ ?_
    split
    · exact .pure rfl
    · exact ih

theorem countValid_follows (h : Branch.Follows .level whole whole') {limit limit' : Option Json}
    (hlimit : Option.Rel (Json.Alike tone) limit limit') (sofar : Nat) (items : List Json) :
    Trial.Follows Eq (countValid whole limit sofar items) (countValid whole' limit' sofar items) := by
  have hexceeds : ∀ count, exceeds limit' count = exceeds limit count := by
    intro count
    cases hlimit with
    | none => rfl
    | some hlimit => rw [exceeds, exceeds, hlimit.bound?_eq]
  induction items generalizing sofar with
  | nil => exact .pure rfl
  | cons item rest ih =>
    refine .bind (h.test rfl item).verdict fun isValid _ hsame => hsame ▸ ?_
    split
    · exact ih _
    · rw [hexceeds]
      refine .bind (.ofExcept (.of_eq rfl)) fun isOver _ hsame => hsame ▸ ?_
      split
      · exact .pure rfl
      · exact ih _

theorem stepsAlike_containedSteps (hframe : Frame.Follows tone frame frame') (subject : Json)
    (count : Option Nat) :
    StepsAlike (containedSteps frame.members subject count)
      (containedSteps frame'.members subject count) := by
  cases count with
  | none => exact .cons (.ok trivial) .nil
  | some count =>
    have hbeside := hframe.beside "minContains" (by decide) (by decide)
    have hbound : ((find? "minContains" frame'.members).getD (.int 1)).bound? =
        ((find? "minContains" frame.members).getD (.int 1)).bound? := by
      generalize find? "minContains" frame.members = value at hbeside ⊢
      generalize find? "minContains" frame'.members = value' at hbeside ⊢
      cases hbeside with
      | none => rfl
      | some hvalue => exact hvalue.bound?_eq
    rw [containedSteps, containedSteps, hbound]
    exact stepsAlike_stepsOf _ fun bound => stepsAlike_findIf _ _ _

theorem containsTrace_follows (hframe : Frame.Follows tone frame frame')
    (h : Branch.Follows .level whole whole') (subject : Json) :
    Trace.Follows .level (containsTrace frame whole subject)
      (containsTrace frame' whole' subject) := by
  cases subject with
  | arr items =>
    rw [containsTrace, containsTrace, hframe.dialect, h.schema.eq_of_level]
    split
    · refine .ofExcept (.of_eq rfl) fun _ _ _ => ?_
      have hlimit := hframe.beside "maxContains" (by decide) (by decide)
      refine .ofTrial (countValid_follows h hlimit 0 items) fun count _ hsame => hsame ▸ ?_
      exact Frame.own_follows (stepsAlike_containedSteps hframe _ _) _ _ _
    · refine .ofTrial (someItemValid_follows h items) fun found _ hsame => hsame ▸ ?_
      exact Frame.own_follows (.refl _) _ _ _
  | _ => exact .refl .level _

/-! ## Combinations -/

theorem allTrace_follows (h : Part.Follows tone part part') (hlist : part.HasBranches tone)
    (subject : Json) : Trace.Follows tone (allTrace part subject) (allTrace part' subject) :=
  .ofExcept (h.branches hlist) fun _ _ hbranches => .inTurn (hbranches.imp fun _ _ hbranch =>
    hbranch.enter subject)

/-- A choice finds nothing as soon as one branch does, and something if every branch does. -/
theorem anyTrace_follows {branches branches' : List Branch}
    (h : List.Forall₂ (Branch.Follows tone) branches branches') (frame frame' : Frame)
    (subject : Json) (context context' : List Finding) :
    Trace.Follows tone (anyTrace frame subject context branches)
      (anyTrace frame' subject context' branches') := by
  induction h generalizing context context' with
  | nil => exact .ofFindings (by simp)
  | cons hbranch _ ih =>
    refine .ofTrial (hbranch.enter subject).allFindings fun found found' hfound => ?_
    by_cases hempty : found = []
    · rw [hempty, hfound.1 hempty]
      exact .refl tone _
    · rw [if_neg (by simpa using hempty)]
      split
      next hempty' =>
        -- The second has accepted where the first goes on, which cannot be where both sides count.
        cases tone with
        | rising => exact .nothing _
        | level => exact absurd (by simpa using hempty') (hfound.2 rfl hempty)
      next => exact ih _ _

theorem othersTrace_follows {branches branches' : List Branch}
    (h : List.Forall₂ (Branch.Follows .level) branches branches') (frame frame' : Frame)
    (subject first : Json) (accepting : List Json) :
    Trace.Follows .level (othersTrace frame subject first accepting branches)
      (othersTrace frame' subject first accepting branches') := by
  induction h generalizing accepting with
  | nil => exact Frame.own_follows (.refl _) _ _ _
  | cons hbranch _ ih =>
    refine .ofTrial (hbranch.test rfl subject).verdict fun isValid _ hsame => hsame ▸ ?_
    rw [hbranch.schema.eq_of_level]
    exact ih _

/-- Where both sides count, as many branches of a choice accept. -/
theorem oneTrace_follows {branches branches' : List Branch}
    (h : List.Forall₂ (Branch.Follows .level) branches branches') (frame frame' : Frame)
    (subject : Json) (context context' : List Finding) :
    Trace.Follows .level (oneTrace frame subject context branches)
      (oneTrace frame' subject context' branches') := by
  induction h generalizing context context' with
  | nil => exact .ofFindings (by simp)
  | cons hbranch hrest ih =>
    refine .ofTrial (hbranch.enter subject).allFindings fun found found' hfound => ?_
    by_cases hempty : found = []
    · rw [hempty, hfound.1 hempty, hbranch.schema.eq_of_level]
      exact othersTrace_follows hrest _ _ _ _ _
    · have hempty' := hfound.2 rfl hempty
      rw [if_neg (by simpa using hempty), if_neg (by simpa using hempty')]
      exact ih _ _

theorem notTrace_follows (h : Branch.Follows .level whole whole') (frame frame' : Frame)
    (subject : Json) :
    Trace.Follows .level (notTrace frame whole subject) (notTrace frame' whole' subject) := by
  refine .ofTrial (h.test rfl subject).verdict fun isValid _ hsame => hsame ▸ ?_
  exact Frame.own_follows (stepsAlike_findIf _ _ _) _ _ _

theorem besideTrace_follows (hframe : Frame.Follows tone frame frame') {keyword : String}
    (hwhole : keyword ∈ wholeKeywords) (htype : keyword ≠ "type") (subject : Json) :
    Trace.Follows tone (besideTrace frame keyword subject) (besideTrace frame' keyword subject) := by
  rw [besideTrace, besideTrace]
  obtain ⟨hnone, hnone'⟩ | ⟨part, part', hfound, hfound', hpart⟩ :=
    none_or_some_of_rel (hframe.part? keyword (by simp [hwhole]) htype)
  · rw [hnone, hnone']
    exact .refl tone _
  · rw [hfound, hfound']
    have hbranch := hpart.whole (by rwa [(frame.mem_of_part? hfound).2])
    exact (hbranch.enter subject).of_under

theorem conditionTrace_follows (hframe : Frame.Follows tone frame frame')
    (h : Branch.Follows .level whole whole') (subject : Json) :
    Trace.Follows tone (conditionTrace frame whole subject)
      (conditionTrace frame' whole' subject) := by
  refine .ofTrial (h.test rfl subject).verdict fun isValid _ hsame => hsame ▸ ?_
  cases isValid
  · exact besideTrace_follows hframe (by decide) (by decide) subject
  · exact besideTrace_follows hframe (by decide) (by decide) subject

theorem extendsTrace_follows (h : Part.Follows tone part part')
    (hwhole : part.keyword ∈ wholeKeywords) (hlist : part.keyword ∈ listKeywords) (subject : Json) :
    Trace.Follows tone (extendsTrace part subject) (extendsTrace part' subject) := by
  rw [extendsTrace, extendsTrace, h.schema.isObject_eq]
  split
  · exact (h.whole hwhole).enter subject
  next hobject =>
    exact allTrace_follows h ⟨hlist, .inr (.inr (by simpa using hobject))⟩ subject

/-! ## Types that may be schemas -/

theorem typeBranches_follows (h : Part.Follows .level part part')
    (hwhole : part.keyword ∈ wholeKeywords) (hlist : part.keyword ∈ listKeywords) :
    Follows (List.Forall₂ (Branch.Follows .level)) (typeBranches part) (typeBranches part') := by
  rw [typeBranches, typeBranches, h.schema.eq_of_level]
  split
  · exact .ok (.cons (h.whole hwhole) .nil)
  · exact h.branches ⟨hlist, .inr (.inl rfl)⟩

theorem typeFindings_follows (h : Branch.Follows .level whole whole') (dialect : Dialect)
    (subject : Json) :
    Trial.Follows (fun found found' => found'.isNone = found.isNone)
      (typeFindings dialect whole subject) (typeFindings dialect whole' subject) := by
  rw [typeFindings, typeFindings, h.schema.eq_of_level]
  split
  · refine .bind (h.enter subject).allFindings fun found found' hfound => .pure ?_
    by_cases hempty : found = []
    · rw [hempty, hfound.1 hempty]
    · have hempty' := hfound.2 rfl hempty
      rw [if_neg (by simpa using hempty'), if_neg (by simpa using hempty)]
      rfl
  · exact .bind (.ofExcept (.of_eq rfl)) fun holds _ hsame => hsame ▸ .pure rfl

theorem typeTrace_follows {branches branches' : List Branch}
    (h : List.Forall₂ (Branch.Follows .level) branches branches')
    (hdialect : frame'.dialect = frame.dialect) (names names' : List Json) (subject : Json)
    (context context' : List Finding) :
    Trace.Follows .level (typeTrace frame names subject context branches)
      (typeTrace frame' names' subject context' branches') := by
  induction h generalizing context context' with
  | nil => exact .ofFindings (by simp)
  | cons hbranch _ ih =>
    rw [typeTrace, typeTrace, hdialect]
    refine .ofTrial (typeFindings_follows hbranch _ subject) fun found found' hfound => ?_
    cases found <;> cases found' <;> cases hfound
    · exact .refl .level _
    · exact ih _ _

theorem earlyTypeTrace_follows (hframe : Frame.Follows tone frame frame')
    (h : Part.Follows .level part part') (hwhole : part.keyword ∈ wholeKeywords)
    (hlist : part.keyword ∈ listKeywords) (subject : Json) :
    Trace.Follows .level (earlyTypeTrace frame part subject)
      (earlyTypeTrace frame' part' subject) :=
  .ofExcept (typeBranches_follows h hwhole hlist) fun _ _ hbranches =>
    typeTrace_follows hbranches hframe.dialect _ _ subject _ _

theorem disallowTrace_follows (hframe : Frame.Follows tone frame frame')
    (h : Part.Follows .level part part') (hwhole : part.keyword ∈ wholeKeywords)
    (hlist : part.keyword ∈ listKeywords) (subject : Json) :
    Trace.Follows .level (disallowTrace frame part subject) (disallowTrace frame' part' subject) := by
  refine .ofExcept (typeBranches_follows h hwhole hlist) fun _ _ hbranches => ?_
  refine .inTurn (hbranches.imp fun branch branch' hbranch => ?_)
  rw [hframe.dialect]
  refine .ofTrial (typeFindings_follows hbranch _ subject) fun found found' hfound => ?_
  rw [hfound]
  exact Frame.own_follows (stepsAlike_findIf _ _ _) _ _ _

end Keywords

end TypeRegistry
