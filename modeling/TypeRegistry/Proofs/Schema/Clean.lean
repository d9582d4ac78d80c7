import TypeRegistry.Schema.Validator

/-!
# Traces in which nothing is wrong

An instance is valid under a schema exactly if the schema has the form of its dialect and the trace
of its evaluation is clean: there is no finding in it and no fault at its end.  A trace that is put
together is clean exactly if its parts are, so cleanness can be told keyword by keyword.

Main results:

- Definition `Trace.IsClean`: nothing is found and nothing goes wrong.
- Theorem `validate_eq_valid_iff`: validity by the form of the schema and a clean trace.
- Theorem `isClean_evaluate_iff`: the trace of a schema without references is clean if those of its
  keywords are.
-/

namespace TypeRegistry

open Dictionary

/-! ## Clean traces -/

namespace Trace

/-- Nothing is found and nothing goes wrong. -/
def IsClean (trace : Trace) : Prop :=
  trace.fault = none ∧ trace.findings = []

@[simp]
theorem isClean_empty : IsClean {} :=
  ⟨rfl, rfl⟩

@[simp]
theorem not_isClean_ofBreakdown (cause : Breakdown) : ¬ (ofBreakdown cause).IsClean := by
  rintro ⟨hfault, -⟩
  cases hfault

@[simp]
theorem findings_ofFindings (findings : List Finding) :
    (ofFindings findings).findings = findings := by
  induction findings with
  | nil => rfl
  | cons finding rest ih => exact congrArg (finding :: ·) ih

/-- A trace of findings is clean only without a finding. -/
@[simp]
theorem isClean_ofFindings (findings : List Finding) :
    (ofFindings findings).IsClean ↔ findings = [] := by
  constructor
  · rintro ⟨-, h⟩
    rwa [findings_ofFindings] at h
  · rintro rfl
    exact ⟨rfl, rfl⟩

/-- One trace after another is clean if both are. -/
@[simp]
theorem isClean_append (first second : Trace) :
    (first.append second).IsClean ↔ first.IsClean ∧ second.IsClean := by
  rw [append]
  split
  next fault hfault => simp [IsClean, hfault]
  next hfault =>
    simp only [IsClean, findings, List.filterMap_append, List.append_eq_nil_iff, hfault, true_and]
    exact and_left_comm

/-- Seen from further up, a trace is as clean as it is. -/
@[simp]
theorem isClean_under (step : PathStep) (trace : Trace) :
    (trace.under step).IsClean ↔ trace.IsClean := by
  have hfindings : (trace.under step).findings = trace.findings.map (·.under step) := by
    rw [under, findings, findings]
    induction trace.events with
    | nil => rfl
    | cons event rest ih => cases event <;> simp_all
  rw [IsClean, IsClean, hfindings, List.map_eq_nil_iff]
  exact Iff.rfl

/-- What is found can be ranked without anything going wrong only if it is nothing. -/
theorem ranked_eq_nil_iff (trace : Trace) : trace.ranked.value = .ok [] ↔ trace.IsClean := by
  have hevents : ∀ events asked, (rankedOf trace.fault asked events).value = .ok [] ↔
      trace.fault = none ∧ findings ⟨events, trace.fault⟩ = [] := by
    intro events
    induction events with
    | nil =>
      intro asked
      cases hfault : trace.fault <;> simp [rankedOf, findings]
    | cons event rest ih =>
      intro asked
      cases event with
      | asked id =>
        rw [rankedOf, ih]
        exact Iff.rfl
      | found finding =>
        have hfound : findings ⟨.found finding :: rest, trace.fault⟩ ≠ [] := List.cons_ne_nil _ _
        rw [rankedOf]
        cases hrank : finding.rank with
        | error cause => simp [hfound]
        | ok rank =>
          cases hothers : (rankedOf trace.fault asked rest).value <;>
            simp [Consulted.mapValue, Except.map, hothers, hfound]
  exact hevents trace.events []

end Trace

/-- Traces one after the other are clean if each of them is. -/
@[simp]
theorem isClean_inTurn {α : Type} (each : α → Trace) (items : List α) :
    (inTurn each items).IsClean ↔ ∀ item ∈ items, (each item).IsClean := by
  induction items with
  | nil => simp [inTurn]
  | cons item rest ih => rw [inTurn_cons, Trace.isClean_append, ih, List.forall_mem_cons]

/-! ## Validity -/

/-- Nothing is reported of a trace only if it is clean. -/
theorem Verdict.ofTrace_eq_valid_iff (trace : Trace) :
    (Verdict.ofTrace trace).value = Verdict.valid ↔ trace.IsClean := by
  rw [← trace.ranked_eq_nil_iff]
  show _ = Except.ok (Except.ok ()) ↔ _
  rw [Verdict.ofTrace, Consulted.mapValue]
  cases hranked : trace.ranked.value with
  | error fault => cases fault <;> simp [Verdict.invalid]
  | ok ranked =>
    rw [Except.ok.injEq, ← reported_eq_none_iff]
    show (reported ranked).map _ = _ ↔ _
    cases hreported : reported ranked with
    | error cause => simp [Except.map]
    | ok settled => cases settled <;> simp [Except.map]

/-- An instance is valid under a schema if the schema has the form of its dialect and its trace on
the instance is clean. -/
theorem validate_eq_valid_iff (store : Store) (schema subject : Json) :
    (validate store schema subject).value = Verdict.valid ↔
      formOf schema = Verdict.valid ∧ (schemaTrace store schema subject).IsClean := by
  rw [validate]
  split
  next hform =>
    rw [Verdict.ofTrace_eq_valid_iff]
    exact ⟨fun h => ⟨hform, h⟩, And.right⟩
  next hform =>
    constructor
    · intro h
      exact absurd h hform
    · rintro ⟨h, -⟩
      exact absurd h hform

/-! ## Keywords -/

/-- The steps that a schema takes itself are clean if there are none. -/
@[simp]
theorem Frame.isClean_own (frame : Frame) (subject : Json) (steps : List Step) :
    (frame.own subject steps).IsClean ↔ steps = [] := by
  rw [own, isClean_inTurn]
  cases steps with
  | nil => simp
  | cons step rest =>
    constructor
    · intro h
      have hstep := h step List.mem_cons_self
      cases step <;> simp [Trace.ofExcept, finding] at hstep
    · intro h
      cases h

/-- The place of a part of an instance does not matter for cleanness. -/
@[simp]
theorem Branch.isClean_enterAt (branch : Branch) (step : PathStep) (part : Json) :
    (branch.enterAt step part).IsClean ↔ (branch.enter part).IsClean := by
  rw [enterAt]
  split
  · exact Iff.rfl
  · exact Trace.isClean_under _ _

/-- A schema inside a schema, in the scope around it. -/
def branchOf (refs : Follow) (scope : Scope) (schema : Json) : Branch :=
  .ofSchema scope schema (fun ruling? scope => evaluate refs ruling? scope schema)
    (fun scope => namesIn refs scope schema) (fun scope => placesIn refs scope schema)

/-- A keyword of a schema with the schemas in its value. -/
def partOf (refs : Follow) (scope : Scope) (keyword : String) (value : Json) : Part where
  keyword := keyword
  whole := branchOf refs scope value
  items := match value with
    | .arr schemas => branchesOf refs scope schemas
    | other => ((other.listed?.toOption).getD []).map (.ofStray scope)
  named := match value with
    | .obj schemas => namedBranchesOf refs scope schemas
    | _ => []

/-- The keywords of a schema, one by one. -/
theorem partsOf_eq_map (refs : Follow) (scope : Scope) (members : Json.Members) :
    partsOf refs scope members = members.map fun entry => partOf refs scope entry.1 entry.2 := by
  induction members with
  | nil => rw [partsOf, List.map_nil]
  | cons entry rest ih =>
    obtain ⟨keyword, value⟩ := entry
    cases value <;> simp [partsOf, partOf, branchOf, ih]

/-- Schemas in a list, one by one. -/
theorem branchesOf_eq_map (refs : Follow) (scope : Scope) (schemas : List Json) :
    branchesOf refs scope schemas = schemas.map (branchOf refs scope) := by
  induction schemas with
  | nil => rw [branchesOf, List.map_nil]
  | cons schema rest ih =>
    rw [branchesOf, ih]
    rfl

/-- Schemas under names, one by one. -/
theorem namedBranchesOf_eq_map (refs : Follow) (scope : Scope) (schemas : Json.Members) :
    namedBranchesOf refs scope schemas =
      schemas.map fun entry => (entry.1, branchOf refs scope entry.2) := by
  induction schemas with
  | nil => rw [namedBranchesOf, List.map_nil]
  | cons entry rest ih =>
    obtain ⟨name, schema⟩ := entry
    rw [namedBranchesOf, ih]
    rfl

/-- The schema that a keyword stands in, in a scope. -/
def frameOf (refs : Follow) (scope : Scope) (members : Json.Members) : Frame :=
  ⟨scope.dialect, members, partsOf refs scope members, refs scope⟩

section Evaluation

variable {refs : Follow} {scope : Scope} {members : Json.Members}

/-- An object is evaluated keyword by keyword, unless a reference stands for all of it. -/
theorem evaluate_obj {inner : Scope} (hadopt : scope.adopt (.obj members) = .ok inner)
    (refs : Follow) (ruling? : Option Dialect) (subject : Json) :
    evaluate refs ruling? scope (.obj members) subject =
      ((soleReference? (ruling?.getD inner.dialect) members).map fun ref =>
        referenceTrace (frameOf refs inner members) ref subject).getD
          ((frameOf refs inner members).trace subject) := by
  rw [evaluate, hadopt]
  show Trace.ofExcept (.ok inner) _ = _
  dsimp only [Trace.ofExcept]
  cases soleReference? (ruling?.getD inner.dialect) members <;> rfl

/-- A schema inside a schema is entered under the dialect around it. -/
theorem Scope.dialect_of_into {inner : Scope} {schema : Json} (h : scope.into schema = .ok inner) :
    inner.dialect = scope.dialect := by
  rw [into] at h
  cases hid : scope.dialect.idOf schema with
  | error cause =>
    rw [hid] at h
    cases h
  | ok id =>
    rw [hid] at h
    change scope.named id = .ok inner at h
    rw [named] at h
    cases hbase : addressOf scope.base id with
    | error cause =>
      rw [hbase] at h
      cases h
    | ok base =>
      rw [hbase] at h
      obtain rfl := Except.ok.inj h
      rfl

/-- A schema that declares no dialect is read in the scope around it. -/
theorem Scope.adopt_eq (hdialect : find? "$schema" members = none) :
    scope.adopt (.obj members) = .ok scope := by
  rw [adopt, Dialect.adopt, hdialect]
  rfl

/-- A schema of draft 2020-12 calls itself something only by `$id`. -/
theorem idOf_eq_none (hid : find? "$id" members = none) :
    Dialect.draft202012.idOf (.obj members) = .ok none := by
  rw [Dialect.idOf]
  simp [Dialect.isSince, Dialect.rank, Dialect.idKeyword, Json.isTruth, Json.holds?, Json.listed?,
    Json.named?, hid, Except.map, bind, Except.bind, pure, Except.pure]

/-- A schema that does not call itself anything is entered in the scope around it. -/
theorem Scope.into_eq (hscope : scope.dialect = .draft202012) (hid : find? "$id" members = none) :
    scope.into (.obj members) = .ok scope := by
  rw [into, hscope, idOf_eq_none hid]
  rfl

/-- The trace of a schema for which no reference stands is clean if the traces of its keywords are. -/
theorem isClean_evaluate_obj_iff {inner : Scope} {ruling? : Option Dialect}
    (hadopt : scope.adopt (.obj members) = .ok inner)
    (hsole : soleReference? (ruling?.getD inner.dialect) members = none) (subject : Json) :
    (evaluate refs ruling? scope (.obj members) subject).IsClean ↔
      ∀ entry ∈ members, inner.dialect.knows entry.1 →
        (keywordTrace (frameOf refs inner members) (partOf refs inner entry.1 entry.2)
          subject).IsClean := by
  rw [evaluate_obj hadopt, hsole, Option.map_none, Option.getD_none, Frame.trace, isClean_inTurn]
  show (∀ part ∈ partsOf refs inner members, _) ↔ _
  rw [partsOf_eq_map, List.forall_mem_map]
  refine forall_congr' fun entry => forall_congr' fun hentry => ?_
  show (if inner.dialect.knows entry.1 = true then _ else _ : Trace).IsClean ↔ _
  split
  next hknown => exact ⟨fun h _ => h, fun h => h hknown⟩
  next hunknown => exact ⟨fun _ h => absurd h hunknown, fun _ => Trace.isClean_empty⟩

/-- The trace of a schema of draft 2020-12 is clean if the traces of its keywords are. -/
theorem isClean_evaluate_iff {ruling? : Option Dialect} (hscope : scope.dialect = .draft202012)
    (hruling : ruling?.getD .draft202012 = .draft202012)
    (hdialect : find? "$schema" members = none) (subject : Json) :
    (evaluate refs ruling? scope (.obj members) subject).IsClean ↔
      ∀ entry ∈ members, scope.dialect.knows entry.1 →
        (keywordTrace (frameOf refs scope members) (partOf refs scope entry.1 entry.2)
          subject).IsClean := by
  have hsole : soleReference? (ruling?.getD scope.dialect) members = none := by
    rw [hscope, hruling, soleReference?]
    rfl
  exact isClean_evaluate_obj_iff (Scope.adopt_eq hdialect) hsole subject

/-- The scope in which a schema of draft 2020-12 is evaluated that does not call itself anything. -/
def outermostScope (schema : Json) : Scope where
  dialect := .draft202012
  base := ""
  library := Library.standard.put "" ⟨schema, .draft202012⟩

/-- The trace of a schema that neither declares a dialect nor calls itself anything. -/
theorem schemaTrace_eq (hdialect : find? "$schema" members = none)
    (hid : find? "$id" members = none) (store : Store) (subject : Json) :
    schemaTrace store (.obj members) subject =
      evaluate (follow (fetchRegistered store.lookup?)
        (referenceDepth store (.obj members) subject)) none (outermostScope (.obj members))
        (.obj members) subject := by
  have hadopt : Dialect.draft202012.adopt (.obj members) = .ok .draft202012 := by
    rw [Dialect.adopt, hdialect]
  rw [schemaTrace, hadopt, Trace.ofExcept, idOf_eq_none hid]
  rfl

/-- A schema that neither declares a dialect nor calls itself anything does inside a schema what it
does in the scope around it. -/
theorem enter_branchOf (hscope : scope.dialect = .draft202012) (hid : find? "$id" members = none)
    (subject : Json) :
    (branchOf refs scope (.obj members)).enter subject =
      evaluate refs (some .draft202012) scope (.obj members) subject := by
  show Trace.ofExcept (scope.into (.obj members)) _ = _
  rw [Scope.into_eq hscope hid, hscope]
  rfl

/-- If `properties` is clean on an object, its schemas are clean on what the object has under their
names, also in draft-03, where they say themselves what is required. -/
theorem isClean_properties_enter {frame : Frame} {part : Part} {values : Json.Members}
    (hkeyword : part.keyword = "properties")
    (h : (keywordTrace frame part (.obj values)).IsClean) :
    ∃ branches, part.namedBranches = .ok branches ∧ ∀ branch ∈ branches, ∀ value,
      find? branch.1 values = some value → (branch.2.enter value).IsClean := by
  rw [keywordTrace, hkeyword] at h
  change Trace.IsClean (if frame.dialect = Dialect.draft03 then _ else _) at h
  cases hbranches : part.namedBranches with
  | error cause =>
    rw [requiringPropertiesTrace, propertiesTrace, hbranches] at h
    change Trace.IsClean (if _ then .ofBreakdown cause else .ofBreakdown cause) at h
    rw [ite_self] at h
    exact absurd h (Trace.not_isClean_ofBreakdown cause)
  | ok branches =>
    refine ⟨branches, rfl, ?_⟩
    intro branch hbranch value hvalue
    by_cases hearly : frame.dialect = .draft03
    · rw [if_pos hearly, requiringPropertiesTrace, hbranches] at h
      have hclean := (isClean_inTurn _ _).1 h branch hbranch
      simp only [hvalue, Branch.isClean_enterAt] at hclean
      exact hclean
    · rw [if_neg hearly, propertiesTrace, hbranches] at h
      have hclean := (isClean_inTurn _ _).1 h branch hbranch
      simp only [hvalue, Branch.isClean_enterAt] at hclean
      exact hclean

/-- In particular, the schema of a property is clean on what the object has under its name. -/
theorem isClean_property {schemas values : Json.Members}
    (h : (keywordTrace (frameOf refs scope members) (partOf refs scope "properties" (.obj schemas))
      (.obj values)).IsClean) {entry : String × Json} (hentry : entry ∈ schemas) {value : Json}
    (hvalue : find? entry.1 values = some value) :
    ((branchOf refs scope entry.2).enter value).IsClean := by
  obtain ⟨branches, hbranches, hall⟩ := isClean_properties_enter rfl h
  obtain rfl : namedBranchesOf refs scope schemas = branches := Except.ok.inj hbranches
  rw [namedBranchesOf_eq_map, List.forall_mem_map] at hall
  exact hall entry hentry value hvalue

/-- The trace of `properties` is clean if those of the schemas of all properties that an object has
are. -/
theorem isClean_properties_iff (hscope : scope.dialect = .draft202012) (schemas : Json.Members)
    (subject : Json) :
    (keywordTrace (frameOf refs scope members) (partOf refs scope "properties" (.obj schemas))
        subject).IsClean ↔
      ∀ values, subject = .obj values → ∀ entry ∈ schemas, ∀ value,
        find? entry.1 values = some value →
          ((branchOf refs scope entry.2).enter value).IsClean := by
  constructor
  · rintro h values rfl entry hentry value hvalue
    exact isClean_property h hentry hvalue
  · intro h
    have htrace : keywordTrace (frameOf refs scope members)
        (partOf refs scope "properties" (.obj schemas)) subject =
          propertiesTrace (partOf refs scope "properties" (.obj schemas)) subject := by
      simp [keywordTrace, partOf, frameOf, hscope]
    rw [htrace]
    cases subject with
    | obj values =>
      rw [propertiesTrace, Part.namedBranches]
      show (inTurn _ (namedBranchesOf refs scope schemas)).IsClean
      rw [isClean_inTurn, namedBranchesOf_eq_map, List.forall_mem_map]
      intro entry hentry
      cases hvalue : find? entry.1 values with
      | none => simp only [hvalue, Trace.isClean_empty]
      | some value =>
        simpa only [hvalue, Branch.isClean_enterAt] using h values rfl entry hentry value hvalue
    | _ => simp [propertiesTrace]

/-- The trace of `items` is clean if those of the schema on all items are, unless the schema speaks
about the last items only. -/
theorem isClean_items_iff
    (htuple : scope.dialect = .draft202012 → find? "prefixItems" members = none)
    (inner : Json.Members) (subject : Json) :
    (keywordTrace (frameOf refs scope members) (partOf refs scope "items" (.obj inner))
        subject).IsClean ↔
      ∀ items, subject = .arr items → ∀ item ∈ items,
        ((branchOf refs scope (.obj inner)).enter item).IsClean := by
  have htrace : keywordTrace (frameOf refs scope members)
      (partOf refs scope "items" (.obj inner)) subject =
        itemsTrace (frameOf refs scope members) (partOf refs scope "items" (.obj inner))
          subject := by
    simp [keywordTrace, partOf]
  rw [htrace]
  cases subject with
  | arr items =>
    have hevery : itemsTrace (frameOf refs scope members) (partOf refs scope "items" (.obj inner))
        (.arr items) = everyItemTrace 0 (branchOf refs scope (.obj inner)) items := by
      by_cases hlast : scope.dialect = .draft202012
      · simp [itemsTrace, remainingItemsTrace, frameOf, hlast, tupleLength, htuple hlast,
          Trace.ofExcept, partOf, branchOf, Branch.ofSchema]
      · simp [itemsTrace, frameOf, hlast, isForEveryItem, partOf, branchOf, Branch.ofSchema]
    rw [hevery, everyItemTrace, isClean_inTurn]
    simp only [Branch.isClean_enterAt]
    constructor
    · intro h _ hitems item hitem
      cases hitems
      obtain ⟨place, hplace⟩ := List.mem_iff_getElem?.1 hitem
      exact h (item, place) (List.mk_mem_zipIdx_iff_getElem?.2 hplace)
    · intro h entry hentry
      exact h items rfl entry.1 (List.fst_mem_of_mem_zipIdx hentry)
  | _ => simp [itemsTrace]

/-- The keywords of assertions that the comparison of schemas knows. -/
def assertionKeywords : List String :=
  ["type", "required", "minimum", "maximum", "minLength", "maxLength", "minItems", "maxItems"]

/-- The trace of an assertion is clean if it finds nothing. -/
theorem isClean_assertion_iff (hscope : scope.dialect = .draft202012) {keyword : String}
    (hkeyword : keyword ∈ assertionKeywords) (value subject : Json) :
    (keywordTrace (frameOf refs scope members) (partOf refs scope keyword value)
        subject).IsClean ↔
      assertionSteps .draft202012 members keyword value subject = [] := by
  have htrace : keywordTrace (frameOf refs scope members) (partOf refs scope keyword value)
      subject = (frameOf refs scope members).own subject
        (assertionSteps .draft202012 members keyword value subject) := by
    simp only [assertionKeywords, List.mem_cons, List.not_mem_nil, or_false] at hkeyword
    rcases hkeyword with rfl | rfl | rfl | rfl | rfl | rfl | rfl | rfl <;>
      simp [keywordTrace, partOf, branchOf, frameOf, hscope, Branch.ofSchema]
  rw [htrace, Frame.isClean_own]

end Evaluation

end TypeRegistry
