import TypeRegistry.Proofs.Relaxation.Keywords
import TypeRegistry.Schema.Evaluation

/-!
# What schemas that follow others evaluate

A schema that asks what its other keywords evaluate finds something wrong with what none of them
evaluates.  Where both sides count, schemas that follow others evaluate the same names and places; a
schema that asks for what is left counts both sides under every keyword that it asks.  So the traces
of all keywords follow.

Main results:

- Theorems `evaluatedNames_follows`, `evaluatedPlaces_follows`: what schemas evaluate.
- Theorem `keywordTrace_follows`: the trace of a keyword follows, whichever it is.
-/

namespace TypeRegistry

open Dictionary

section Evaluated

variable {tone tone' : Tone} {frame frame' : Frame} {part part' : Part} {whole whole' : Branch}

/-! ## Through other schemas -/

/-- What is evaluated is the same, asked of one branch or the other. -/
def EvaluatesAlike {α : Type} (evaluated : Branch → Trial (List α)) : Prop :=
  ∀ branch branch', Branch.Follows .level branch branch' →
    Trial.Follows Eq (evaluated branch) (evaluated branch')

theorem evaluatesAlike_names (rules : Dialect) (subject : Json) :
    EvaluatesAlike fun branch => branch.names rules subject :=
  fun _ _ hbranch => hbranch.names rfl rules subject

theorem evaluatesAlike_places (rules : Dialect) (subject : Json) :
    EvaluatesAlike fun branch => branch.places rules subject :=
  fun _ _ hbranch => hbranch.places rfl rules subject

section Asking

variable {α : Type} {evaluated : Branch → Trial (List α)} (hevaluated : EvaluatesAlike evaluated)
include hevaluated

theorem evaluatedThrough_follows {lead : Lead}
    (hlead : Trial.Follows (Branch.Follows .level) (frame.follow lead) (frame'.follow lead)) :
    Trial.Follows Eq (evaluatedThrough frame evaluated lead)
      (evaluatedThrough frame' evaluated lead) :=
  .bind hlead.withoutName hevaluated

theorem evaluatedByReference_follows {value : Json}
    (hlead : ∀ ref, value = .str ref →
      Trial.Follows (Branch.Follows .level) (frame.follow (.to ref)) (frame'.follow (.to ref))) :
    Trial.Follows Eq (evaluatedByReference frame evaluated value)
      (evaluatedByReference frame' evaluated value) := by
  cases value with
  | null => exact .pure rfl
  | str ref => exact evaluatedThrough_follows hevaluated (hlead ref rfl)
  | _ => exact .ofFault _ _

theorem evaluatedByAccepting_follows (h : Part.Follows .level part part')
    (hlist : part.keyword ∈ listKeywords) (subject : Json) :
    Trial.Follows Eq (evaluatedByAccepting evaluated subject part)
      (evaluatedByAccepting evaluated subject part') := by
  refine .bind (.ofExcept (h.branches ⟨hlist, .inr (.inl rfl)⟩)) fun branches branches' hbranches => ?_
  refine .flatMap (hbranches.imp fun branch branch' hbranch => ?_)
  refine .bind (hbranch.enter subject).verdict fun isValid _ hsame => hsame ▸ ?_
  split
  · exact hevaluated _ _ hbranch
  · exact .pure rfl

/-- What the schemas under the names that an instance has evaluate is the same. -/
theorem evaluatedByNamed_follows (h : Part.Follows .level part part')
    (hmap : part.keyword ∈ mapKeywords) (values : Json.Members) :
    Trial.Follows Eq
      ((Trial.ofExcept part.namedBranches).bind (Trial.flatMap fun named =>
        if has named.1 values then evaluated named.2 else .pure []))
      ((Trial.ofExcept part'.namedBranches).bind (Trial.flatMap fun named =>
        if has named.1 values then evaluated named.2 else .pure [])) := by
  refine .bind (.ofExcept (h.named hmap)) fun branches branches' hbranches => ?_
  refine .flatMap (hbranches.imp ?_)
  rintro ⟨name, branch⟩ ⟨_, branch'⟩ ⟨rfl, hbranch⟩
  dsimp only
  split
  · exact hevaluated _ _ hbranch
  · exact .pure rfl

theorem evaluatedBy_whole_follows {keyword : String} (hkeyword : keyword ∈ wholeKeywords)
    (hpart : Option.Rel (Part.Follows .level) (frame.part? keyword) (frame'.part? keyword)) :
    Trial.Follows Eq (evaluatedBy frame (fun part => evaluated part.whole) keyword)
      (evaluatedBy frame' (fun part => evaluated part.whole) keyword) := by
  rw [evaluatedBy, evaluatedBy]
  obtain ⟨hnone, hnone'⟩ | ⟨part, part', hfound, hfound', hpart⟩ := none_or_some_of_rel hpart
  · rw [hnone, hnone']
    exact .pure rfl
  · rw [hfound, hfound']
    exact hevaluated _ _ (hpart.whole (by rwa [(frame.mem_of_part? hfound).2]))

theorem evaluatedByCondition_follows (h : Branch.Follows .level whole whole')
    (hthen : Option.Rel (Part.Follows .level) (frame.part? "then") (frame'.part? "then"))
    (helse : Option.Rel (Part.Follows .level) (frame.part? "else") (frame'.part? "else"))
    (subject : Json) :
    Trial.Follows Eq (evaluatedByCondition frame evaluated whole subject)
      (evaluatedByCondition frame' evaluated whole' subject) := by
  refine .bind (h.test rfl subject).verdict fun isValid _ hsame => hsame ▸ ?_
  split
  · refine .bind (hevaluated _ _ h) fun first _ hsame => hsame ▸ ?_
    refine .bind (evaluatedBy_whole_follows hevaluated (by decide) hthen) ?_
    exact fun others _ hsame => hsame ▸ .pure rfl
  · exact evaluatedBy_whole_follows hevaluated (by decide) helse

end Asking

theorem accepted_follows {α β : Type} {test test' : α → Trace} {candidates : List α}
    (h : ∀ candidate ∈ candidates, Trace.Follows .level (test candidate) (test' candidate))
    (keep : α → β) :
    Trial.Follows Eq (accepted test keep candidates) (accepted test' keep candidates) :=
  .flatMap_self fun candidate hcandidate =>
    .bind (h candidate hcandidate).verdict fun _ _ hsame => hsame ▸ .pure rfl

/-! ## Names -/

/-- A schema counts both sides under the keywords that it asks. -/
def CountsAsked (tone : Tone) (members : Json.Members) : Prop :=
  tone = .level ∨ asksForRest members = true

theorem CountsAsked.under_eq {members : Json.Members} (h : CountsAsked tone members)
    {keyword : String} (hkeyword : keyword ∈ askedKeywords ++ countingKeywords) :
    tone.under members keyword = .level := by
  rcases h with rfl | hrest
  · exact Tone.under_level members keyword
  · rcases List.mem_append.1 hkeyword with hasked | hcounting
    · exact Tone.under_asked hrest hasked
    · exact Tone.under_counting hcounting

theorem coveredNames_eq (h : Part.Follows tone part part') (hkeyword : part.keyword ∈ mapKeywords)
    (values : Json.Members) :
    declaredNames part'.whole.schema values = declaredNames part.whole.schema values ∧
      coveredNames part'.whole.schema values = coveredNames part.whole.schema values := by
  rcases h.map_cases hkeyword with heq | ⟨members, hmembers, heq⟩
  · rw [heq]
    exact ⟨rfl, rfl⟩
  · have hdeclared : declaredNames part'.whole.schema values =
        declaredNames part.whole.schema values := by
      rw [heq, hmembers, declaredNames, declaredNames, Json.members, Json.members, keys, keys,
        List.map_map]
      rfl
    refine ⟨hdeclared, ?_⟩
    rw [heq, hmembers] at hdeclared ⊢
    exact hdeclared

theorem otherNames_follows (h : Branch.Follows .level whole whole') (rules : Dialect)
    (values : Json.Members) :
    Trial.Follows Eq (otherNames rules whole values) (otherNames rules whole' values) := by
  rw [otherNames.eq_def, otherNames.eq_def, h.schema.eq_of_level]
  split
  · exact .pure rfl
  · exact accepted_follows (fun value _ => h.enter value.2) _
  · exact .pure rfl

/-- The names that a keyword evaluates are the same. -/
theorem namesOfPart_follows (hframe : Frame.Follows tone frame frame')
    (hasked : CountsAsked tone frame.members) (hmem : part ∈ frame.parts)
    (h : Part.Follows (tone.under frame.members part.keyword) part part') (rules : Dialect)
    (subject : Json) :
    Trial.Follows Eq (namesOfPart rules frame subject part)
      (namesOfPart rules frame' subject part') := by
  have hnames := evaluatesAlike_names rules subject
  have hreference := hframe.reference part hmem
  have hrecursion := hframe.recursion part hmem
  obtain ⟨keyword, whole, items, named⟩ := part
  obtain ⟨keyword', whole', items', named'⟩ := part'
  obtain rfl : keyword' = keyword := h.keyword
  dsimp only at h hreference hrecursion
  rw [namesOfPart.eq_def, namesOfPart.eq_def]
  dsimp only
  split
  · rw [hasked.under_eq (by decide)] at h hreference
    rw [h.schema.eq_of_level]
    exact evaluatedByReference_follows hnames (hreference (.inl rfl))
  · rw [hasked.under_eq (by decide)] at h hreference
    split
    · rw [h.schema.eq_of_level]
      exact evaluatedByReference_follows hnames (hreference (.inr rfl))
    · exact .pure rfl
  · rw [hasked.under_eq (by decide)] at hrecursion
    split
    · exact evaluatedThrough_follows hnames (hrecursion rfl)
    · exact .pure rfl
  · refine .pure ?_
    obtain ⟨hdeclared, hcovered⟩ := coveredNames_eq h (by dsimp only; decide) subject.members
    rw [propertyNamesIn, propertyNamesIn, hdeclared, hcovered]
  · rw [hasked.under_eq (by decide)] at h
    exact otherNames_follows (h.whole (by dsimp only; decide)) _ _
  · rw [hasked.under_eq (by decide)] at h
    exact otherNames_follows (h.whole (by dsimp only; decide)) _ _
  · refine .ofExcept (.of_eq ?_)
    rw [matchedNames, matchedNames, h.listed?_eq (by dsimp only; decide)]
  · rw [hasked.under_eq (by decide)] at h
    exact evaluatedByNamed_follows hnames h (by dsimp only; decide) _
  · rw [hasked.under_eq (by decide)] at h
    exact evaluatedByAccepting_follows hnames h (by dsimp only; decide) subject
  · rw [hasked.under_eq (by decide)] at h
    exact evaluatedByAccepting_follows hnames h (by dsimp only; decide) subject
  · rw [hasked.under_eq (by decide)] at h
    exact evaluatedByAccepting_follows hnames h (by dsimp only; decide) subject
  · have hthen := hframe.part? "then" (by decide) (by decide)
    have helse := hframe.part? "else" (by decide) (by decide)
    rw [hasked.under_eq (by decide)] at h hthen helse
    exact evaluatedByCondition_follows hnames (h.whole (by dsimp only; decide)) hthen helse subject
  · exact .pure rfl

/-- What a keyword evaluates is the same if it is the same for the keyword where it stands. -/
theorem evaluatedBy_follows {α : Type} {evaluated evaluated' : Part → Trial (List α)}
    (hframe : Frame.Follows tone frame frame')
    (hevaluated : ∀ part part', part ∈ frame.parts →
      Part.Follows (tone.under frame.members part.keyword) part part' →
        Trial.Follows Eq (evaluated part) (evaluated' part'))
    {keyword : String}
    (hkeyword : keyword ∈ wholeKeywords ++ listKeywords ++ mapKeywords ++ leadingKeywords)
    (htype : keyword ≠ "type") :
    Trial.Follows Eq (evaluatedBy frame evaluated keyword)
      (evaluatedBy frame' evaluated' keyword) := by
  rw [evaluatedBy, evaluatedBy]
  obtain ⟨hnone, hnone'⟩ | ⟨part, part', hfound, hfound', hpart⟩ :=
    none_or_some_of_rel (hframe.part? keyword hkeyword htype)
  · rw [hnone, hnone']
    exact .pure rfl
  · rw [hfound, hfound']
    obtain ⟨hmem, rfl⟩ := frame.mem_of_part? hfound
    exact hevaluated _ _ hmem hpart

/-- The names that a schema evaluates are the same. -/
theorem evaluatedNames_follows (hframe : Frame.Follows tone frame frame')
    (hasked : CountsAsked tone frame.members) (rules : Dialect) (subject : Json) :
    Trial.Follows Eq (evaluatedNames rules frame subject) (evaluatedNames rules frame' subject) := by
  have hkeywords : ∀ keyword ∈ nameKeywords,
      keyword ∈ wholeKeywords ++ listKeywords ++ mapKeywords ++ leadingKeywords ∧
        keyword ≠ "type" := by decide
  exact .flatMap_self fun keyword hkeyword =>
    evaluatedBy_follows hframe
      (fun _ _ hmem hpart => namesOfPart_follows hframe hasked hmem hpart rules subject)
      (hkeywords keyword hkeyword).1 (hkeywords keyword hkeyword).2

/-- The names of members that a schema finds something wrong with are the same. -/
theorem namesFoundWrong_follows (h : Branch.Follows .level whole whole') (values : Json.Members) :
    Trial.Follows (fun names names' => names' = [] ↔ names = []) (namesFoundWrong whole values)
      (namesFoundWrong whole' values) := by
  rw [namesFoundWrong, namesFoundWrong]
  induction values with
  | nil => exact .pure Iff.rfl
  | cons value rest ih =>
    have hvalue : Trial.Follows (fun names names' : List String => names' = [] ↔ names = [])
        ((whole.enter value.2).allFindings.bind fun findings =>
          .pure (findings.map fun _ => value.1))
        ((whole'.enter value.2).allFindings.bind fun findings =>
          .pure (findings.map fun _ => value.1)) := by
      refine .bind (h.enter value.2).allFindings fun found found' hfound => .pure ?_
      rw [List.map_eq_nil_iff, List.map_eq_nil_iff]
      exact ⟨fun hempty' => by_contra fun hempty => hfound.2 rfl hempty hempty', hfound.1⟩
    refine .bind hvalue fun names names' hnames => .bind ih fun others others' hothers => .pure ?_
    rw [List.append_eq_nil_iff, List.append_eq_nil_iff, hnames, hothers]

theorem unevaluatedPropertiesTrace_follows (hframe : Frame.Follows tone frame frame')
    (hasked : CountsAsked tone frame.members) (h : Branch.Follows .level whole whole')
    (subject : Json) :
    Trace.Follows .level (unevaluatedPropertiesTrace frame whole subject)
      (unevaluatedPropertiesTrace frame' whole' subject) := by
  cases subject with
  | obj values =>
    rw [unevaluatedPropertiesTrace, unevaluatedPropertiesTrace, hframe.dialect]
    refine .ofTrial (evaluatedNames_follows hframe hasked _ _) fun evaluated _ hsame => hsame ▸ ?_
    refine .ofTrial (namesFoundWrong_follows h _) fun wrong wrong' hwrong => ?_
    have hempty : wrong'.isEmpty = wrong.isEmpty := by
      rw [Bool.eq_iff_iff, List.isEmpty_iff, List.isEmpty_iff, hwrong]
    rw [hempty]
    exact Frame.own_follows (stepsAlike_findIf _ _ _) _ _ _
  | _ => exact .refl .level _

/-! ## Places -/

/-- The places that a keyword evaluates are the same. -/
theorem placesOfPart_follows (hframe : Frame.Follows tone frame frame')
    (hasked : CountsAsked tone frame.members) (hmem : part ∈ frame.parts)
    (h : Part.Follows (tone.under frame.members part.keyword) part part') (rules : Dialect)
    (items : List Json) (subject : Json) :
    Trial.Follows Eq (placesOfPart rules frame items subject part)
      (placesOfPart rules frame' items subject part') := by
  have hplaces := evaluatesAlike_places rules subject
  have hreference := hframe.reference part hmem
  have hrecursion := hframe.recursion part hmem
  obtain ⟨keyword, whole, branches, named⟩ := part
  obtain ⟨keyword', whole', branches', named'⟩ := part'
  obtain rfl : keyword' = keyword := h.keyword
  dsimp only at h hreference hrecursion
  rw [placesOfPart.eq_def, placesOfPart.eq_def]
  dsimp only
  split
  · rw [hasked.under_eq (by decide)] at h hreference
    rw [h.schema.eq_of_level]
    exact evaluatedByReference_follows hplaces (hreference (.inl rfl))
  · rw [hasked.under_eq (by decide)] at h hreference
    rw [h.schema.eq_of_level]
    exact evaluatedByReference_follows hplaces (hreference (.inr rfl))
  · rw [hasked.under_eq (by decide)] at hrecursion
    exact evaluatedThrough_follows hplaces (hrecursion rfl)
  · exact .ofExcept (.of_eq (by rw [h.count?_eq rfl]))
  · rw [hasked.under_eq (by decide)] at h
    exact accepted_follows (fun item _ => (h.whole (by dsimp only; decide)).test rfl item.1) _
  · rw [hasked.under_eq (by decide)] at h
    exact accepted_follows (fun item _ => (h.whole (by dsimp only; decide)).test rfl item.1) _
  · rw [hasked.under_eq (by decide)] at h
    exact evaluatedByAccepting_follows hplaces h (by dsimp only; decide) subject
  · rw [hasked.under_eq (by decide)] at h
    exact evaluatedByAccepting_follows hplaces h (by dsimp only; decide) subject
  · rw [hasked.under_eq (by decide)] at h
    exact evaluatedByAccepting_follows hplaces h (by dsimp only; decide) subject
  · have hthen := hframe.part? "then" (by decide) (by decide)
    have helse := hframe.part? "else" (by decide) (by decide)
    rw [hasked.under_eq (by decide)] at h hthen helse
    exact evaluatedByCondition_follows hplaces (h.whole (by dsimp only; decide)) hthen helse subject
  · exact .pure rfl

theorem placesOf_follows (hframe : Frame.Follows tone frame frame')
    (hasked : CountsAsked tone frame.members) (rules : Dialect) (items : List Json)
    (subject : Json) {keywords : List String}
    (hkeywords : ∀ keyword ∈ keywords,
      keyword ∈ wholeKeywords ++ listKeywords ++ mapKeywords ++ leadingKeywords ∧
        keyword ≠ "type") :
    Trial.Follows Eq (placesOf rules frame items subject keywords)
      (placesOf rules frame' items subject keywords) :=
  .flatMap_self fun keyword hkeyword =>
    evaluatedBy_follows hframe
      (fun _ _ hmem hpart => placesOfPart_follows hframe hasked hmem hpart rules items subject)
      (hkeywords keyword hkeyword).1 (hkeywords keyword hkeyword).2

/-- The places that a schema evaluates are the same. -/
theorem evaluatedPlaces_follows (hframe : Frame.Follows tone frame frame')
    (hasked : CountsAsked tone frame.members) (rules : Dialect) (items : List Json)
    (subject : Json) :
    Trial.Follows Eq (evaluatedPlaces rules frame items subject)
      (evaluatedPlaces rules frame' items subject) := by
  rw [evaluatedPlaces, evaluatedPlaces, hframe.has_eq "items" (by decide) (by decide),
    hframe.has_eq "additionalItems" (by decide) (by decide)]
  split
  · split
    · exact .pure rfl
    · exact placesOf_follows hframe hasked rules items subject (by decide)
  · refine .bind (placesOf_follows hframe hasked rules items subject (by decide)) ?_
    rintro first _ rfl
    have htesting : Trial.Follows Eq (placesOf rules frame items subject testingKeywords)
        (placesOf rules frame' items subject testingKeywords) :=
      placesOf_follows hframe hasked rules items subject (by decide)
    have hbeside := hframe.beside "items" (by decide) (by decide)
    generalize find? "items" frame.members = value at hbeside ⊢
    generalize find? "items" frame'.members = value' at hbeside ⊢
    cases hbeside with
    | none => exact .bind htesting fun others _ hsame => hsame ▸ .pure rfl
    | @some value value' hvalue =>
      dsimp only
      rw [hvalue.isObject_eq]
      split
      · exact .pure rfl
      next hobject =>
        have hcount : value'.count? = value.count? := by
          rcases hvalue.cases with rfl | ⟨members, members', rfl, rfl⟩ | ⟨schemas, rfl, rfl⟩
          · rfl
          · simp [Json.isObject] at hobject
          · rw [Json.count?, Json.count?, Json.listed?_arr, Json.listed?_arr, Except.map, Except.map,
              List.length_map]
        rw [hcount]
        refine .bind (.ofExcept (.of_eq rfl)) fun before _ hsame => hsame ▸ ?_
        exact .bind htesting fun others _ hsame => hsame ▸ .pure rfl

theorem unevaluatedItemsTrace_follows (hframe : Frame.Follows tone frame frame')
    (hasked : CountsAsked tone frame.members) (subject : Json) :
    Trace.Follows .level (unevaluatedItemsTrace frame subject)
      (unevaluatedItemsTrace frame' subject) := by
  cases subject with
  | arr items =>
    rw [unevaluatedItemsTrace, unevaluatedItemsTrace, hframe.dialect]
    refine .ofTrial (evaluatedPlaces_follows hframe hasked _ _ _) fun evaluated _ hsame => hsame ▸ ?_
    exact Frame.own_follows (.refl _) _ _ _
  | _ => exact .refl .level _

/-! ## All keywords -/

/-- A keyword that holds no schemas has the same value. -/
theorem Part.Follows.schema_eq (h : Part.Follows tone part part')
    (hkeyword : part.keyword ∉ wholeKeywords ++ listKeywords ++ mapKeywords) :
    part'.whole.schema = part.whole.schema := by
  simp only [List.mem_append, not_or] at hkeyword
  rcases h.holds with heq | hwhole | ⟨hlist, -⟩ | ⟨hmap, -⟩
  · exact heq
  · exact absurd hwhole hkeyword.1.1
  · exact absurd hlist hkeyword.1.2
  · exact absurd hmap hkeyword.2

/-- What an assertion finds, beside a schema that follows. -/
theorem assertionSteps_eq (hframe : Frame.Follows tone frame frame') (keyword : String)
    (value subject : Json) :
    assertionSteps frame.dialect frame'.members keyword value subject =
      assertionSteps frame.dialect frame.members keyword value subject := by
  have hexclusive : ∀ keyword, keyword ≠ "const" → keyword ≠ "type" →
      isExclusive frame.dialect frame'.members keyword =
        isExclusive frame.dialect frame.members keyword := by
    intro keyword hconst htype
    have hbeside := hframe.beside keyword hconst htype
    rw [isExclusive, isExclusive]
    generalize find? keyword frame.members = value at hbeside ⊢
    generalize find? keyword frame'.members = value' at hbeside ⊢
    cases hbeside with
    | none => rfl
    | some hvalue => rw [Option.map_some, Option.map_some, hvalue.isInhabited_eq]
  rw [assertionSteps.eq_def, assertionSteps.eq_def,
    hexclusive "exclusiveMinimum" (by decide) (by decide),
    hexclusive "exclusiveMaximum" (by decide) (by decide)]

/-- A schema that has a keyword that asks what the others evaluate counts what it asks. -/
theorem countsAsked_of_mem (hframe : Frame.Follows tone frame frame') (hmem : part ∈ frame.parts)
    (hkeyword : part.keyword = "unevaluatedProperties" ∨ part.keyword = "unevaluatedItems") :
    CountsAsked tone frame.members := by
  have hhas : has part.keyword frame.members = true := by
    rw [has, ← hframe.schema_part?, Option.isSome_map, Frame.part?, List.find?_isSome]
    exact ⟨part, hmem, by simp⟩
  right
  rw [asksForRest, Bool.or_eq_true]
  rcases hkeyword with hkeyword | hkeyword
  · exact .inl (hkeyword ▸ hhas)
  · exact .inr (hkeyword ▸ hhas)

/-- The trace of types follows: under draft-03, where schemas may stand among them, and later. -/
theorem keywordTrace_type_follows (hframe : Frame.Follows tone frame frame')
    (h : Part.Follows (tone.under frame.members part.keyword) part part')
    (hkeyword : part.keyword = "type") (subject : Json) :
    Trace.Follows tone (keywordTrace frame part subject) (keywordTrace frame' part' subject) := by
  have hkeyword' := h.keyword.trans hkeyword
  rw [hkeyword, Tone.under_counting (by decide)] at h
  have hunfolded : ∀ {frame : Frame} {part : Part}, part.keyword = "type" →
      keywordTrace frame part subject =
        if frame.dialect = .draft03 then earlyTypeTrace frame part subject
        else frame.own subject
          (assertionSteps frame.dialect frame.members "type" part.whole.schema subject) := by
    intro frame part hkeyword
    simp [keywordTrace.eq_def, hkeyword]
  rw [hunfolded hkeyword, hunfolded hkeyword', hframe.dialect, h.schema.eq_of_level]
  split
  · exact (earlyTypeTrace_follows hframe h (by rw [hkeyword]; decide) (by rw [hkeyword]; decide)
      subject).of_level
  · rw [assertionSteps_eq hframe]
    exact Frame.own_follows (.refl _) _ _ _

/-- The trace of a keyword that applies no schemas by itself follows. -/
theorem assertion_follows (hframe : Frame.Follows tone frame frame')
    (h : Part.Follows tone' part part')
    (hkeyword : part.keyword ∈ wholeKeywords ++ listKeywords ++ mapKeywords →
      part.keyword = "then" ∨ part.keyword = "else") (subject : Json) :
    Trace.Follows tone
      (frame.own subject
        (assertionSteps frame.dialect frame.members part.keyword part.whole.schema subject))
      (frame'.own subject
        (assertionSteps frame'.dialect frame'.members part.keyword part'.whole.schema subject)) := by
  rw [hframe.dialect, assertionSteps_eq hframe]
  by_cases hschemas : part.keyword ∈ wholeKeywords ++ listKeywords ++ mapKeywords
  · -- What follows a condition finds nothing by itself.
    have hnothing : ∀ value,
        assertionSteps frame.dialect frame.members part.keyword value subject = [] := by
      intro value
      rcases hkeyword hschemas with hbeside | hbeside <;> rw [hbeside] <;> simp [assertionSteps]
    rw [hnothing, hnothing]
    exact .refl tone _
  · rw [h.schema_eq hschemas]
    exact Frame.own_follows (.refl _) _ _ _

/-- The trace of a keyword follows that of the keyword of a schema that is followed. -/
theorem keywordTrace_follows (hframe : Frame.Follows tone frame frame')
    (hmem : part ∈ frame.parts)
    (h : Part.Follows (tone.under frame.members part.keyword) part part') (subject : Json) :
    Trace.Follows tone (keywordTrace frame part subject) (keywordTrace frame' part' subject) := by
  by_cases htype : part.keyword = "type"
  · exact keywordTrace_type_follows hframe h htype subject
  have hreference := hframe.reference part hmem
  have hrecursion := hframe.recursion part hmem
  have hasked := countsAsked_of_mem hframe hmem
  obtain ⟨keyword, whole, items, named⟩ := part
  obtain ⟨keyword', whole', items', named'⟩ := part'
  obtain rfl : keyword' = keyword := h.keyword
  dsimp only at h hreference hrecursion hasked htype
  rw [keywordTrace.eq_def, keywordTrace.eq_def]
  dsimp only
  split
  · rw [h.schema_eq (by dsimp only; decide)]
    exact (referenceTrace_follows subject (hreference (.inl rfl))).of_under
  · rw [h.schema_eq (by dsimp only; decide)]
    exact (referenceTrace_follows subject (hreference (.inr rfl))).of_under
  · exact (recursionTrace_follows subject (hrecursion rfl)).of_under
  · rw [hframe.dialect]
    split
    · exact (requiringPropertiesTrace_follows h (by dsimp only; decide) subject).of_under
    · exact (propertiesTrace_follows h (by dsimp only; decide) subject).of_under
  · exact (patternPropertiesTrace_follows h (by dsimp only; decide) subject).of_under
  · exact (additionalPropertiesTrace_follows hframe (h.whole (by dsimp only; decide)) subject).of_under
  · exact (propertyNamesTrace_follows (h.whole (by dsimp only; decide)) subject).of_under
  · exact (dependenciesTrace_follows hframe.dialect h (by dsimp only; decide) subject).of_under
  · exact (dependentSchemasTrace_follows h (by dsimp only; decide) subject).of_under
  · rw [Tone.under_counting (by decide)] at h
    exact (unevaluatedPropertiesTrace_follows hframe (hasked (.inl rfl))
      (h.whole (by dsimp only; decide)) subject).of_level
  · exact (itemsTrace_follows hframe h (by dsimp only; decide) (by dsimp only; decide)
      subject).of_under
  · exact (additionalItemsTrace_follows hframe (h.whole (by dsimp only; decide)) subject).of_under
  · exact (prefixItemsTrace_follows h ⟨by dsimp only; decide, .inl (by dsimp only; decide)⟩
      subject).of_under
  · rw [Tone.under_counting (by decide)] at h
    exact (containsTrace_follows hframe (h.whole (by dsimp only; decide)) subject).of_level
  · exact (unevaluatedItemsTrace_follows hframe (hasked (.inr rfl)) subject).of_level
  · exact (allTrace_follows h ⟨by dsimp only; decide, .inl (by dsimp only; decide)⟩
      subject).of_under
  · have hlist := h.branches ⟨by dsimp only; decide, .inl (by dsimp only; decide)⟩
    exact (Trace.Follows.ofExcept hlist fun _ _ hbranches =>
      anyTrace_follows hbranches _ _ subject _ _).of_under
  · rw [Tone.under_counting (by decide)] at h
    have hlist := h.branches ⟨by dsimp only; decide, .inl (by dsimp only; decide)⟩
    exact (Trace.Follows.ofExcept hlist fun _ _ hbranches =>
      oneTrace_follows hbranches _ _ subject _ _).of_level
  · rw [Tone.under_counting (by decide)] at h
    exact (notTrace_follows (h.whole (by dsimp only; decide)) _ _ subject).of_level
  · rw [Tone.under_counting (by decide)] at h
    exact conditionTrace_follows hframe (h.whole (by dsimp only; decide)) subject
  · exact (extendsTrace_follows h (by dsimp only; decide) (by dsimp only; decide) subject).of_under
  · rw [Tone.under_counting (by decide)] at h
    exact (disallowTrace_follows hframe h (by dsimp only; decide) (by dsimp only; decide)
      subject).of_level
  · rw [if_neg (by simp [htype]), if_neg (by simp [htype])]
    refine assertion_follows hframe h ?_ subject
    simp_all [wholeKeywords, listKeywords, mapKeywords]

end Evaluated

end TypeRegistry
