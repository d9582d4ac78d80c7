import TypeRegistry.Proofs.Relaxation.Evaluated
import TypeRegistry.Proofs.Relaxation.Resolution

/-!
# Evaluating relaxed schemas

An evaluation comes from a schema to the schemas under its keywords and to those that its references
lead to.  Where it comes to a part of the relaxed document and only what passes counts, the part may
pin identifiers: a text that is the pinned identifier is a string.  Where what is refused counts as
well, the part must be the same when it is relaxed.  Under these conditions the evaluation of the
relaxed schema follows that of the schema.

Main results:

- Definition `Reaches`: the schemas that an evaluation comes to, with how their outcome counts.
- Definition `RelaxesSafely`: nothing that counts both ways is changed where a document is relaxed.
- Theorem `evaluate_follows`: the evaluation of a relaxed schema follows that of the schema, given
  what references do.
- Theorem `follow_follows`: what references do follows.
-/

namespace TypeRegistry

open Dictionary

/-! ## What an evaluation comes to -/

/-- A scope in which the keywords of a schema are read: the one at hand, or that of its own dialect.
-/
def Scope.Reads (scope : Scope) (schema : Json) (inner : Scope) : Prop :=
  inner = scope ∨ scope.adopt schema = .ok inner

/-- A scope in which a schema inside another one is evaluated: the one around it, or its own. -/
def Scope.Enters (scope : Scope) (part : Json) (inner : Scope) : Prop :=
  inner = scope ∨ scope.into part = .ok inner

/-- A schema in the value of a keyword. -/
def Json.Applied (keyword : String) (value part : Json) : Prop :=
  (keyword ∈ wholeKeywords ∧ part = value) ∨
    (keyword ∈ listKeywords ∧ ∃ items, value = .arr items ∧ part ∈ items) ∨
      (keyword ∈ mapKeywords ∧ ∃ parts name, value = .obj parts ∧ (name, part) ∈ parts)

/-- Where a keyword with its value leads. -/
def Lead.Of (keyword : String) (value : Json) : Lead → Prop
  | .to ref => (keyword = "$ref" ∨ keyword = "$dynamicRef") ∧ value = .str ref
  | .around => keyword = "$recursiveRef"

/-- The schema that is led to from a scope. -/
def Scope.target? (fetch : String → Consulted (Option Resource)) (scope : Scope) :
    Lead → Trial (Json × Scope)
  | .to ref => scope.resolve fetch ref
  | .around => scope.recur fetch

/-- The schemas that the evaluation of a schema comes to, with the scopes in which it comes to them
and how their outcome counts. -/
inductive Reaches (fetch : String → Consulted (Option Resource)) (start : Scope) (root : Json) :
    Tone → Scope → Json → Prop
  | start : Reaches fetch start root .rising start root
  | applied {tone : Tone} {scope inner entered : Scope} {members : Json.Members} {keyword : String}
      {value part : Json} :
      Reaches fetch start root tone scope (.obj members) → scope.Reads (.obj members) inner →
      (keyword, value) ∈ members → Json.Applied keyword value part → inner.Enters part entered →
      Reaches fetch start root (tone.under members keyword) entered part
  | led {tone : Tone} {scope inner target : Scope} {members : Json.Members} {keyword : String}
      {value part : Json} {lead : Lead} :
      Reaches fetch start root tone scope (.obj members) → scope.Reads (.obj members) inner →
      (keyword, value) ∈ members → lead.Of keyword value →
      (inner.target? fetch lead).value = .ok (part, target) →
      Reaches fetch start root (tone.under members keyword) target part

/-- The addresses that are consulted for what a keyword leads to. -/
def Lead.consulted (scope : Scope) : Lead → List String
  | .to ref => [ref]
  | .around => "#" :: scope.outer

/-- The keywords of a schema can be relaxed: an identifier is pinned only where that has a meaning,
and every other keyword with a meaning stays what it is, but for the schemas in it where only what
passes counts. -/
structure Json.IsGentle (tone : Tone) (dialect : Dialect) (members : Members) : Prop where
  pins : Pins members → dialect.knows "const" = true
  values : ∀ {keyword value}, (keyword, value) ∈ members → pinsIdentifier keyword value = false →
    dialect.knows keyword = true ∨
      keyword ∈ wholeKeywords ++ listKeywords ++ mapKeywords ++ leadingKeywords →
    value.relax = value ∨ tone.under members keyword = .rising ∧ HoldsSchemas keyword value

/-- Nothing that counts both ways is changed where a document is relaxed, and references lead to what
can be a schema. -/
structure RelaxesSafely (fetch : String → Consulted (Option Resource)) (start : Scope)
    (root : Json) : Prop where
  level : ∀ {scope members}, Reaches fetch start root .level scope (.obj members) →
    Json.Inside (.obj members) root → (Json.obj members).relax = .obj members
  rising : ∀ {scope inner members}, Reaches fetch start root .rising scope (.obj members) →
    Json.Inside (.obj members) root → scope.adopt (.obj members) = .ok inner →
      Json.IsGentle .rising inner.dialect members
  leads : ∀ {tone scope inner members keyword value lead},
    Reaches fetch start root tone scope (.obj members) → scope.Reads (.obj members) inner →
      (keyword, value) ∈ members → Lead.Of keyword value lead →
        ∀ ref ∈ lead.consulted inner, inner.LeadsToSchema fetch ref

/-- A part of a document that is the same, or relaxed where only what passes counts. -/
def Json.EasedAt (root : Json) (tone : Tone) (part part' : Json) : Prop :=
  part' = part ∨ tone = .rising ∧ Inside part root ∧ part' = part.relax

namespace Json.EasedAt

variable {root part part' : Json} {tone : Tone}

theorem eases (h : Json.EasedAt root tone part part') : Json.Eases root part part' := by
  rcases h with rfl | ⟨-, hinside, rfl⟩
  · exact .same
  · exact .relaxed hinside

theorem alike (hroot : root.IsRelaxable) (h : Json.EasedAt root tone part part') :
    Json.Alike tone part part' := by
  rcases h with rfl | ⟨htone, hinside, rfl⟩
  · exact .inl rfl
  · exact .inr ⟨htone, hroot.inside hinside, rfl⟩

/-- The items of a list are each of them the same or relaxed. -/
theorem of_arr {items : List Json} (h : Json.EasedAt root tone (.arr items) part') :
    ∃ items', part' = .arr items' ∧ List.Forall₂ (Json.EasedAt root tone) items items' := by
  rcases h with rfl | ⟨htone, hinside, rfl⟩
  · exact ⟨items, rfl, List.forall₂_same.2 fun item _ => .inl rfl⟩
  · refine ⟨items.map relax, relax_arr items, List.forall₂_map_right_iff.2 ?_⟩
    exact List.forall₂_same.2 fun item hitem =>
      .inr ⟨htone, (Inside.of_item hitem).trans hinside, rfl⟩

/-- What stands under the names of an object that pins no identifier is the same or relaxed. -/
theorem of_obj {parts : Members} (hroot : root.IsRelaxable)
    (h : Json.EasedAt root tone (.obj parts) part') (hunpinned : part' = .obj parts ∨ ¬Pins parts) :
    ∃ parts', part' = .obj parts' ∧
      List.Forall₂ (fun named named' => named'.1 = named.1 ∧
        Json.EasedAt root tone named.2 named'.2) parts parts' := by
  have hsame : ∀ parts : Members, List.Forall₂ (fun named named' => named'.1 = named.1 ∧
      Json.EasedAt root tone named.2 named'.2) parts parts :=
    fun parts => List.forall₂_same.2 fun named _ => ⟨rfl, .inl rfl⟩
  rcases h with rfl | ⟨htone, hinside, rfl⟩
  · exact ⟨parts, rfl, hsame parts⟩
  · rcases hunpinned with heq | hpins
    · exact ⟨parts, heq, hsame parts⟩
    · refine ⟨_, relax_obj_of_unpinned (hroot.inside hinside).keys_nodup hpins,
        List.forall₂_map_right_iff.2 (List.forall₂_same.2 fun named hnamed => ⟨rfl, ?_⟩)⟩
      exact .inr ⟨htone, (Inside.of_member hnamed).trans hinside, rfl⟩

/-- An object that is the same or relaxed is an object. -/
theorem exists_eq_obj {members : Members} (h : Json.EasedAt root tone (.obj members) part') :
    ∃ members', part' = .obj members' := by
  rcases h with rfl | ⟨-, -, rfl⟩
  · exact ⟨members, rfl⟩
  · exact ⟨_, relax_obj members⟩

end Json.EasedAt

/-! ## Keywords and frames -/

section Frames

variable {refs refs' : Follow} {scope scope' : Scope} {tone : Tone}

theorem branches_partOf_arr (refs : Follow) (scope : Scope) (keyword : String) (items : List Json) :
    (partOf refs scope keyword (.arr items)).branches = .ok (items.map (branchOf refs scope)) := by
  rw [Part.branches, partOf, branchesOf_eq_map]
  rfl

theorem namedBranches_partOf_obj (refs : Follow) (scope : Scope) (keyword : String)
    (parts : Json.Members) :
    (partOf refs scope keyword (.obj parts)).namedBranches =
      .ok (parts.map fun part => (part.1, branchOf refs scope part.2)) := by
  rw [Part.namedBranches, partOf, namedBranchesOf_eq_map]
  rfl

/-- A keyword of a schema is what stands under it. -/
theorem part?_frameOf (refs : Follow) (scope : Scope) (members : Json.Members) (keyword : String) :
    (frameOf refs scope members).part? keyword =
      (find? keyword members).map (partOf refs scope keyword) := by
  rw [Frame.part?, frameOf, partsOf_eq_map]
  dsimp only
  induction members with
  | nil => rfl
  | cons member rest ih =>
    obtain ⟨name, value⟩ := member
    rw [List.map_cons, List.find?_cons, find?]
    have hkeyword : (partOf refs scope name value).keyword = name := rfl
    rw [hkeyword, ih]
    by_cases hname : name = keyword
    · subst hname
      simp
    · simp [hname]

theorem mem_parts_frameOf {members : Json.Members} {part : Part} :
    part ∈ (frameOf refs scope members).parts ↔
      ∃ entry ∈ members, partOf refs scope entry.1 entry.2 = part := by
  rw [frameOf, partsOf_eq_map]
  exact List.mem_map

/-- What a keyword of a schema says about a subject: nothing where it has no meaning. -/
def memberTrace (refs : Follow) (scope : Scope) (members : Json.Members) (subject : Json)
    (entry : String × Json) : Trace :=
  if scope.dialect.knows entry.1 then
    keywordTrace (frameOf refs scope members) (partOf refs scope entry.1 entry.2) subject
  else {}

/-- A schema says what its keywords say one after the other. -/
theorem trace_frameOf (refs : Follow) (scope : Scope) (members : Json.Members) (subject : Json) :
    (frameOf refs scope members).trace subject =
      inTurn (memberTrace refs scope members subject) members := by
  have hitems : ∀ items : Json.Members,
      inTurn (fun part => if scope.dialect.knows part.keyword then
        keywordTrace (frameOf refs scope members) part subject else {})
        (items.map fun entry => partOf refs scope entry.1 entry.2) =
      inTurn (memberTrace refs scope members subject) items := by
    intro items
    induction items with
    | nil => rfl
    | cons entry rest ih =>
      rw [List.map_cons, inTurn_cons, inTurn_cons, ih]
      rfl
  rw [← hitems, ← partsOf_eq_map]
  rfl

/-- A name or a part of a text that stands where a schema should breaks the evaluation down. -/
theorem ofStray_follows (scope scope' : Scope) (text : String) :
    Branch.Follows tone (.ofStray scope (.str text)) (.ofStray scope' (.str text)) where
  schema := .inl rfl
  enter subject := by
    have hbreaks : ∀ scope : Scope, ∃ cause,
        (Branch.ofStray scope (.str text)).enter subject = .ofBreakdown cause := by
      intro scope
      show ∃ cause, Trace.ofExcept (scope.into (.str text)) _ = _
      cases scope.into (.str text) with
      | error cause => exact ⟨cause, rfl⟩
      | ok inner => exact ⟨inner.breakdownOf (.str text), rfl⟩
    obtain ⟨cause, hcause⟩ := hbreaks scope
    rw [hcause]
    exact .of_breakdown _ _
  test _ subject := .of_breakdown _ _
  names _ rules subject := .ofFault _ _
  places _ rules subject := .of_eq rfl

/-- The stray schemas in a value that is no list are the same. -/
theorem branches_partOf_stray {keyword : String} {value : Json} (hvalue : ∀ items, value ≠ .arr items) :
    Follows (List.Forall₂ (Branch.Follows tone)) (partOf refs scope keyword value).branches
      (partOf refs' scope' keyword value).branches := by
  have hbranches : ∀ refs scope, (partOf refs scope keyword value).branches =
      value.listed?.map fun items => items.map (Branch.ofStray scope) := by
    intro refs scope
    cases value with
    | arr items => exact absurd rfl (hvalue items)
    | _ => rfl
  have htexts : ∀ {items}, value.listed? = .ok items → ∀ item ∈ items, ∃ text, item = .str text := by
    intro items hitems item hitem
    cases value with
    | arr items => exact absurd rfl (hvalue items)
    | str s =>
      obtain rfl := Except.ok.inj hitems
      obtain ⟨c, -, rfl⟩ := List.mem_map.1 hitem
      exact ⟨_, rfl⟩
    | obj members =>
      obtain rfl := Except.ok.inj hitems
      obtain ⟨name, -, rfl⟩ := List.mem_map.1 hitem
      exact ⟨name, rfl⟩
    | _ => cases hitems
  rw [hbranches, hbranches]
  cases hlisted : value.listed? with
  | error cause => exact .error _ _
  | ok items =>
    refine .ok (List.forall₂_map_left_iff.2 (List.forall₂_map_right_iff.2 ?_))
    refine List.forall₂_same.2 fun item hitem => ?_
    obtain ⟨text, rfl⟩ := htexts hlisted item hitem
    exact ofStray_follows _ _ _

/-- The type of strings follows the identifier that it takes the place of. -/
theorem string_follows_const {frame frame' : Frame} {part part' : Part} {text : String}
    (hdialect : frame'.dialect = frame.dialect) (hknown : frame.dialect.knows "const" = true)
    (hpart : part.keyword = "const" ∧ part.whole.schema = .str text)
    (hpart' : part'.keyword = "type" ∧ part'.whole.schema = .str "string") (subject : Json) :
    Trace.Follows .rising (keywordTrace frame part subject) (keywordTrace frame' part' subject) := by
  have hconst : keywordTrace frame part subject =
      frame.own subject (findIf (!Json.sameData subject (.str text)) (.notConst (.str text))) := by
    simp [keywordTrace, hpart.1, hpart.2, assertionSteps]
  have hdraft : frame.dialect ≠ .draft03 := by
    rintro heq
    rw [heq] at hknown
    exact absurd hknown (by decide)
  have htype : keywordTrace frame' part' subject =
      frame'.own subject
        (findIf (!hasType frame.dialect "string" subject) (.wrongType subject [.str "string"])) := by
    have hsteps : assertionSteps frame.dialect frame'.members "type" (.str "string") subject =
        findIf (!hasType frame.dialect "string" subject) (.wrongType subject [.str "string"]) := by
      have hholds : isOfSomeType frame.dialect .unknownType subject [.str "string"] =
          .ok (hasType frame.dialect "string" subject) := by
        have hknows : frame.dialect.knowsType "string" = true := by
          rw [Dialect.knowsType]
          rfl
        rw [isOfSomeType, isOfType, if_pos hknows]
        cases hasType frame.dialect "string" subject <;> rfl
      rw [assertionSteps, typesIn]
      simp only [bind, Except.bind, hholds]
      rfl
    rw [keywordTrace.eq_def, hpart'.1, hpart'.2, hdialect]
    simp [hdraft, hsteps]
  rw [hconst, htype]
  cases subject with
  | str s => exact .nothing _
  | _ =>
    simp only [Json.sameData, Json.equalBy, Json.sameScalarData, Json.number?, hasType, isOfKind,
      hdraft]
    exact Frame.own_follows (.cons (.ok trivial) .nil) _ _ _

/-- A reference stands for a schema if it does for the schema that it follows. -/
theorem soleReference?_alike {members members' : Json.Members}
    (h : Option.Rel (Json.Alike tone) (find? "$ref" members) (find? "$ref" members'))
    (ruling : Dialect) :
    Option.Rel (Json.Alike tone) (soleReference? ruling members) (soleReference? ruling members') := by
  rw [soleReference?.eq_def, soleReference?.eq_def]
  cases ruling.referenceStandsAlone with
  | false => exact .none
  | true =>
    generalize find? "$ref" members = value at h ⊢
    generalize find? "$ref" members' = value' at h ⊢
    cases h with
    | none => exact .none
    | @some value value' halike =>
      rcases halike.cases with rfl | ⟨inner, inner', rfl, rfl⟩ | ⟨items, rfl, rfl⟩
      · cases value' with
        | null => exact .none
        | _ => exact .some (.inl rfl)
      · exact .some halike
      · exact .some halike

theorem mem_of_soleReference? {ruling : Dialect} {members : Json.Members} {value : Json}
    (h : soleReference? ruling members = some value) : ("$ref", value) ∈ members := by
  rw [soleReference?.eq_def] at h
  split at h
  · cases h
  · cases h
  · exact mem_of_find? h

end Frames

/-! ## Relaxed schemas -/

section Relaxed

variable {fetch : String → Consulted (Option Resource)} {start : Scope} {root : Json}
  {refs refs' : Follow}

/-- A schema does in a scope what follows what it does in another one. -/
structure SchemaFollows (refs refs' : Follow) (root : Json) (tone : Tone) (scope scope' : Scope)
    (part part' : Json) : Prop where
  trace : ∀ ruling? subject, Trace.Follows tone (evaluate refs ruling? scope part subject)
    (evaluate refs' ruling? scope' part' subject)
  names : tone = .level → ∀ {inner inner'}, scope.Reads part inner → Scope.Eases root inner inner' →
    ∀ rules subject, Trial.Follows Eq (namesIn refs inner part rules subject)
      (namesIn refs' inner' part' rules subject)
  places : tone = .level → ∀ {inner inner'}, scope.Reads part inner → Scope.Eases root inner inner' →
    ∀ rules subject, Trial.Follows Eq (placesIn refs inner part rules subject)
      (placesIn refs' inner' part' rules subject)

/-- What is no schema breaks the evaluation down. -/
theorem unfit_follows {tone : Tone} {scope scope' : Scope} {part part' : Json}
    (hpart : Json.EasedAt root tone part part') (hobject : part.isObject = false)
    (htruth : part.isTruth = false) :
    SchemaFollows refs refs' root tone scope scope' part part' := by
  have hevaluate : ∀ (refs : Follow) (ruling? : Option Dialect) (scope : Scope) (subject : Json),
      evaluate refs ruling? scope part subject = .ofBreakdown (scope.breakdownOf part) := by
    intro refs ruling? scope subject
    cases part with
    | obj members => cases hobject
    | bool b => cases htruth
    | _ => rw [evaluate] <;> simp
  have hnames : ∀ (refs : Follow) (scope : Scope) (rules : Dialect) (subject : Json),
      namesIn refs scope part rules subject = .ofFault (.breakdown .noMembers) := by
    intro refs scope rules subject
    cases part with
    | obj members => cases hobject
    | bool b => cases htruth
    | _ => rw [namesIn] <;> simp
  have hplaces : ∀ (refs : Follow) (scope : Scope) (rules : Dialect) (subject : Json),
      placesIn refs scope part rules subject = strayPlaces rules part subject := by
    intro refs scope rules subject
    cases part with
    | obj members => cases hobject
    | bool b => cases htruth
    | _ => rw [placesIn] <;> simp
  constructor
  case trace =>
    intro ruling? subject
    rw [hevaluate]
    exact .of_breakdown _ _
  case names =>
    intro _ inner inner' _ _ rules subject
    rw [hnames]
    exact .ofFault _ _
  case places =>
    rintro rfl inner inner' - - rules subject
    obtain rfl := hpart.resolve_right fun h => by cases h.1
    rw [hplaces, hplaces]
    exact .of_eq rfl

/-- A truth value says the same in every scope. -/
theorem truth_follows (tone : Tone) (scope scope' : Scope) (b : Bool) :
    SchemaFollows refs refs' root tone scope scope' (.bool b) (.bool b) where
  trace ruling? subject := by
    cases b <;> rw [evaluate, evaluate] <;> exact .refl tone _
  names _ := by
    intro inner inner' _ _ rules subject
    rw [namesIn, namesIn]
    exact .pure rfl
  places _ := by
    intro inner inner' _ _ rules subject
    rw [placesIn, placesIn]
    exact .pure rfl

/-- An object says nothing about the places of an instance that is no array. -/
theorem placesIn_obj_follows {inner inner' : Scope} {rules : Dialect} {subject : Json}
    (members members' : Json.Members) (h : ∀ items, subject ≠ .arr items) :
    Trial.Follows Eq (placesIn refs inner (.obj members) rules subject)
      (placesIn refs' inner' (.obj members') rules subject) := by
  have hnone : ∀ (refs : Follow) (scope : Scope) (members : Json.Members),
      placesIn refs scope (.obj members) rules subject = .pure [] := by
    intro refs scope members
    cases subject with
    | arr items => exact absurd rfl (h items)
    | _ => rw [placesIn]; simp
  rw [hnone, hnone]
  exact .pure rfl

variable (hroot : root.IsRelaxable)
include hroot

/-- A schema under a keyword follows if it does in every scope in which it is entered. -/
theorem branchOf_follows {tone : Tone} {scope scope' : Scope} {part part' : Json}
    (hscope : Scope.Eases root scope scope') (hpart : Json.EasedAt root tone part part')
    (hentered : ∀ {entered entered'}, scope.Enters part entered →
      Scope.Eases root entered entered' →
        SchemaFollows refs refs' root tone entered entered' part part') :
    Branch.Follows tone (branchOf refs scope part) (branchOf refs' scope' part') where
  schema := hpart.alike hroot
  enter subject := by
    have henter : ∀ (refs : Follow) (scope : Scope) (part : Json),
        (branchOf refs scope part).enter subject =
          if part.isTruth then evaluate refs (some scope.dialect) scope part subject
          else .ofExcept (scope.into part) fun inner =>
            evaluate refs (some scope.dialect) inner part subject := by
      intro refs scope part
      cases part <;> rfl
    rw [henter, henter, hpart.eases.isTruth_eq, hscope.dialect]
    split
    · exact (hentered (.inl rfl) hscope).trace _ _
    · cases hinto : scope.into part with
      | error cause => exact .of_breakdown _ _
      | ok entered =>
        obtain ⟨entered', hinto', heases⟩ := hscope.into hroot hpart.eases entered hinto
        rw [hinto']
        exact (hentered (.inr hinto) heases).trace _ _
  test htone subject := by
    subst htone
    exact (hentered (.inl rfl) hscope).trace none subject
  names htone := (hentered (.inl rfl) hscope).names htone (.inl rfl) hscope
  places htone := (hentered (.inl rfl) hscope).places htone (.inl rfl) hscope

section Keyword

variable {tone : Tone} {scope scope' : Scope} {keyword : String} {value value' : Json}
  (hscope : Scope.Eases root scope scope') (hvalue : Json.EasedAt root tone value value')
  (hholds : value' = value ∨ Json.HoldsSchemas keyword value)
  (hentered : ∀ {part part' entered entered'}, Json.Applied keyword value part →
    Json.EasedAt root tone part part' → scope.Enters part entered →
      Scope.Eases root entered entered' →
        SchemaFollows refs refs' root tone entered entered' part part')
include hscope hvalue hholds hentered

/-- The schemas in a list follow. -/
theorem branches_partOf_follows (hkeyword : keyword ∈ listKeywords)
    (hplain : keyword ∉ wholeKeywords ∨ tone = .level ∨ value.isObject = false) :
    Follows (List.Forall₂ (Branch.Follows tone)) (partOf refs scope keyword value).branches
      (partOf refs' scope' keyword value').branches := by
  by_cases harr : ∃ items, value = .arr items
  · obtain ⟨items, rfl⟩ := harr
    obtain ⟨items', rfl, hitems⟩ := hvalue.of_arr
    rw [branches_partOf_arr, branches_partOf_arr]
    refine .ok (List.forall₂_map_left_iff.2 (List.forall₂_map_right_iff.2 ?_))
    refine ((List.forall₂_and_left _ _).2 ⟨fun item hitem => hitem, hitems⟩).imp ?_
    rintro item item' ⟨hitem, heased⟩
    exact branchOf_follows hroot hscope heased fun henter heases =>
      hentered (.inr (.inl ⟨hkeyword, items, rfl, hitem⟩)) heased henter heases
  · have hstray : ∀ items, value ≠ .arr items := fun items heq => harr ⟨items, heq⟩
    -- What is no list holds no list of schemas, so it was not relaxed.
    have hsame : value' = value := by
      rcases hvalue with heq | ⟨htone, hinside, heq⟩
      · exact heq
      · rcases hholds with heq' | hwhole | ⟨-, hitems⟩ | ⟨hmap, -⟩
        · exact heq'
        · rcases hplain with hnot | hlevel | hobject
          · exact absurd hwhole hnot
          · cases htone.symm.trans hlevel
          · rw [heq]
            cases value with
            | obj members => cases hobject
            | arr items => exact absurd rfl (hstray items)
            | _ => simp
        · exact absurd hitems harr
        · exact absurd hkeyword (not_mem_of_mem_mapKeywords hmap).2
    rw [hsame]
    exact branches_partOf_stray hstray

/-- The schemas under names follow. -/
theorem namedBranches_partOf_follows (hkeyword : keyword ∈ mapKeywords) :
    Follows (List.Forall₂ fun named named' => named'.1 = named.1 ∧
        Branch.Follows tone named.2 named'.2)
      (partOf refs scope keyword value).namedBranches
      (partOf refs' scope' keyword value').namedBranches := by
  have hunpinned : value' = value ∨ ∃ parts, value = .obj parts ∧ ¬Json.Pins parts := by
    rcases hholds with heq | hwhole | ⟨hlist, -⟩ | ⟨-, hparts⟩
    · exact .inl heq
    · exact absurd hwhole (not_mem_of_mem_mapKeywords hkeyword).1
    · exact absurd hlist (not_mem_of_mem_mapKeywords hkeyword).2
    · exact .inr hparts
  cases value with
  | obj parts =>
    obtain ⟨parts', rfl, hparts⟩ := hvalue.of_obj hroot (by simpa using hunpinned)
    rw [namedBranches_partOf_obj, namedBranches_partOf_obj]
    refine .ok (List.forall₂_map_left_iff.2 (List.forall₂_map_right_iff.2 ?_))
    refine ((List.forall₂_and_left _ _).2 ⟨fun part hpart => hpart, hparts⟩).imp ?_
    rintro ⟨name, part⟩ ⟨name', part'⟩ ⟨hpart, hname, heased⟩
    refine ⟨hname, branchOf_follows hroot hscope heased fun henter heases => ?_⟩
    exact hentered (.inr (.inr ⟨hkeyword, parts, name, rfl, hpart⟩)) heased henter heases
  | _ => exact .error _ _

/-- A keyword follows if the schemas in its value do in every scope in which they are entered. -/
theorem partOf_follows :
    Part.Follows tone (partOf refs scope keyword value) (partOf refs' scope' keyword value') where
  keyword := rfl
  schema := hvalue.alike hroot
  holds := hholds
  whole hkeyword := branchOf_follows hroot hscope hvalue fun henter heases =>
    hentered (.inl ⟨hkeyword, rfl⟩) hvalue henter heases
  branches hlist := branches_partOf_follows hroot hscope hvalue hholds hentered hlist.1 hlist.2
  named hkeyword := namedBranches_partOf_follows hroot hscope hvalue hholds hentered hkeyword

end Keyword

/-- What stands under a name in a schema that is the same or relaxed. -/
theorem Json.EasedAt.find? {tone : Tone} {members members' : Json.Members}
    (h : Json.EasedAt root tone (.obj members) (.obj members')) (name : String)
    (hconst : name ≠ "const") (htype : name ≠ "type") :
    Option.Rel (Json.Alike tone) (find? name members) (find? name members') := by
  have hself : ∀ value : Option Json, Option.Rel (Json.Alike tone) value value := by
    intro value
    cases value with
    | none => exact .none
    | some value => exact .some (.inl rfl)
  rcases h with heq | ⟨htone, hinside, heq⟩
  · obtain rfl := Json.obj.inj heq
    exact hself _
  · obtain rfl := Json.obj.inj (heq.trans (Json.relax_obj members))
    rw [Json.find?_relaxedMembers (hroot.inside hinside).keys_nodup hconst htype]
    cases hfound : TypeRegistry.Dictionary.find? name members with
    | none => exact .none
    | some value =>
      have hvalue := (Json.Inside.of_member (mem_of_find? hfound)).trans hinside
      exact .some (.inr ⟨htone, hroot.inside hvalue, rfl⟩)

/-- What is led to from a schema in one scope is followed by what is led to in another one. -/
def LeadsFollow (fetch : String → Consulted (Option Resource)) (start : Scope) (root : Json)
    (refs refs' : Follow) : Prop :=
  ∀ {tone : Tone} {scope inner inner' : Scope} {members : Json.Members} {keyword : String}
    {value : Json} {lead : Lead}, Reaches fetch start root tone scope (.obj members) →
      scope.Reads (.obj members) inner → Scope.Eases root inner inner' →
        (keyword, value) ∈ members → lead.Of keyword value →
          Trial.Follows (Branch.Follows (tone.under members keyword)) (refs inner lead)
            (refs' inner' lead)

/-- What stands under a keyword is the same, or holds schemas that are relaxed where only what passes
counts. -/
def Json.KeywordEased (root : Json) (tone : Tone) (keyword : String) (value value' : Json) : Prop :=
  Json.EasedAt root tone value value' ∧ (value' = value ∨ Json.HoldsSchemas keyword value)

section Members

variable {tone : Tone} {scope inner inner' : Scope} {members members' : Json.Members}
  (hmembers : Json.EasedAt root tone (.obj members) (.obj members'))
  (hgentle : tone = .rising → Json.Inside (.obj members) root →
    Json.IsGentle .rising inner.dialect members)
include hmembers hgentle

omit hroot in
/-- Where the keywords of a schema come from that is the same or relaxed. -/
theorem keyword_cases {keyword : String} {value' : Json} (hmem : (keyword, value') ∈ members')
    (hused : inner.dialect.knows keyword = true ∨
      keyword ∈ wholeKeywords ++ listKeywords ++ mapKeywords ++ leadingKeywords) :
    (∃ value, (keyword, value) ∈ members ∧
      Json.KeywordEased root (tone.under members keyword) keyword value value') ∨
      tone = .rising ∧ inner.dialect.knows "const" = true ∧ keyword = "type" ∧
        value' = .str "string" ∧ ∃ text, ("const", .str text) ∈ members := by
  rcases hmembers with heq | ⟨htone, hinside, heq⟩
  · obtain rfl := Json.obj.inj heq
    exact .inl ⟨value', hmem, .inl rfl, .inl rfl⟩
  · have hsafe := hgentle htone hinside
    obtain rfl := Json.obj.inj (heq.trans (Json.relax_obj members))
    rcases Json.mem_relaxedMembers hmem with ⟨hpair, hpins⟩ | ⟨value, hold, hunpinned, hvalue⟩
    · obtain ⟨rfl, rfl⟩ := Prod.mk.inj hpair
      have hknown := hsafe.pins hpins
      obtain ⟨⟨name, pinned⟩, hpinned, htext⟩ := hpins
      obtain ⟨rfl, text, rfl⟩ := Json.pinsIdentifier_eq_true htext
      exact .inr ⟨htone, hknown, rfl, rfl, text, hpinned⟩
    · obtain rfl : value' = value.relax := hvalue
      refine .inl ⟨value, hold, ?_⟩
      rcases hsafe.values hold hunpinned hused with hsame | ⟨hunder, hholds⟩
      · exact ⟨.inl hsame, .inl hsame⟩
      · subst htone
        exact ⟨.inr ⟨hunder, (Json.Inside.of_member hold).trans hinside, rfl⟩, .inr hholds⟩

/-- What stands under a keyword with schemas in a schema that is the same or relaxed. -/
theorem find?_keyword {keyword : String}
    (hkeyword : keyword ∈ wholeKeywords ++ listKeywords ++ mapKeywords ++ leadingKeywords)
    (htype : keyword ≠ "type") :
    Option.Rel (Json.KeywordEased root (tone.under members keyword) keyword)
      (find? keyword members) (find? keyword members') := by
  have hconst : keyword ≠ "const" := by
    rintro rfl
    exact absurd hkeyword (by decide)
  rcases hmembers with heq | ⟨htone, hinside, heq⟩
  · obtain rfl := Json.obj.inj heq
    cases find? keyword members' with
    | none => exact .none
    | some value => exact .some ⟨.inl rfl, .inl rfl⟩
  · have hsafe := hgentle htone hinside
    obtain rfl := Json.obj.inj (heq.trans (Json.relax_obj members))
    rw [Json.find?_relaxedMembers (hroot.inside hinside).keys_nodup hconst htype]
    cases hfound : find? keyword members with
    | none => exact .none
    | some value =>
      have hmem := mem_of_find? hfound
      refine .some ?_
      rcases hsafe.values hmem (Json.pinsIdentifier_of_ne hconst value) (.inr hkeyword) with
        hsame | ⟨hunder, hholds⟩
      · exact ⟨.inl hsame, .inl hsame⟩
      · subst htone
        exact ⟨.inr ⟨hunder, (Json.Inside.of_member hmem).trans hinside, rfl⟩, .inr hholds⟩

end Members

section Schemas

variable (hleads : LeadsFollow fetch start root refs refs') {tone : Tone}
  {scope inner inner' : Scope} {members members' : Json.Members}
  (hreach : Reaches fetch start root tone scope (.obj members))
  (hreads : scope.Reads (.obj members) inner) (hinner : Scope.Eases root inner inner')
  (hmembers : Json.EasedAt root tone (.obj members) (.obj members'))
  (hgentle : tone = .rising → Json.Inside (.obj members) root →
    Json.IsGentle .rising inner.dialect members)
  (hparts : ∀ {tone part part' entered entered'}, sizeOf part < sizeOf (Json.obj members) →
    Reaches fetch start root tone entered part → Scope.Eases root entered entered' →
      Json.EasedAt root tone part part' →
        SchemaFollows refs refs' root tone entered entered' part part')
include hleads hreach hreads hinner hmembers hgentle hparts

omit hmembers hgentle hleads in
/-- A keyword follows, its schemas being smaller than the schema that it stands in. -/
theorem part_follows {keyword : String} {value value' : Json} (hmem : (keyword, value) ∈ members)
    (hvalue : Json.KeywordEased root (tone.under members keyword) keyword value value') :
    Part.Follows (tone.under members keyword) (partOf refs inner keyword value)
      (partOf refs' inner' keyword value') := by
  refine partOf_follows hroot hinner hvalue.1 hvalue.2 ?_
  intro part part' entered entered' happlied heased hentered heases
  have hinside : Json.Inside part value := by
    rcases happlied with ⟨-, rfl⟩ | ⟨-, items, rfl, hitem⟩ | ⟨-, parts, name, rfl, hpart⟩
    · exact .self
    · exact .of_item hitem
    · exact .of_member hpart
  exact hparts (hinside.sizeOf_lt_of_member hmem)
    (.applied hreach hreads hmem happlied hentered) heases heased

/-- A schema follows in a scope if its references do. -/
theorem frameOf_follows :
    Frame.Follows tone (frameOf refs inner members) (frameOf refs' inner' members') where
  dialect := hinner.dialect
  beside := hmembers.find? hroot
  schema_part? keyword := by
    rw [part?_frameOf, Option.map_map]
    exact Option.map_id'
  schema_part?' keyword := by
    rw [part?_frameOf, Option.map_map]
    exact Option.map_id'
  part? keyword hkeyword htype := by
    rw [part?_frameOf, part?_frameOf]
    obtain ⟨hnone, hnone'⟩ | ⟨value, value', hvalue, hvalue', heased⟩ :=
      none_or_some_of_rel (find?_keyword hroot hmembers hgentle hkeyword htype)
    · rw [hnone, hnone']
      exact .none
    · rw [hvalue, hvalue']
      exact .some (part_follows hroot hreach hreads hinner hparts (mem_of_find? hvalue) heased)
  reference part hmem hkeyword ref hvalue := by
    obtain ⟨⟨keyword, value⟩, hentry, rfl⟩ := mem_parts_frameOf.1 hmem
    have hof : Lead.Of keyword value (.to ref) := ⟨hkeyword, hvalue⟩
    exact hleads hreach hreads hinner hentry hof
  recursion part hmem hkeyword := by
    obtain ⟨⟨keyword, value⟩, hentry, rfl⟩ := mem_parts_frameOf.1 hmem
    have hof : Lead.Of keyword value .around := hkeyword
    exact hleads hreach hreads hinner hentry hof

omit hroot hleads hreach hreads hmembers hgentle hparts in
/-- A keyword without a meaning says nothing. -/
theorem memberTrace_of_not_known {subject value : Json} {keyword : String}
    (hknown : inner.dialect.knows keyword = false) :
    memberTrace refs' inner' members' subject (keyword, value) = {} := by
  rw [memberTrace, hinner.dialect, hknown]
  rfl

/-- A keyword follows where it has a meaning. -/
theorem memberTrace_follows {keyword : String} {value value' : Json}
    (hmem : (keyword, value) ∈ members) (heased : inner.dialect.knows keyword = true →
      Json.KeywordEased root (tone.under members keyword) keyword value value') (subject : Json) :
    Trace.Follows tone (memberTrace refs inner members subject (keyword, value))
      (memberTrace refs' inner' members' subject (keyword, value')) := by
  rw [memberTrace, memberTrace, hinner.dialect]
  split
  next hknown =>
    have hpart := part_follows hroot hreach hreads hinner hparts hmem (heased hknown)
    have hmem' : partOf refs inner keyword value ∈ (frameOf refs inner members).parts :=
      mem_parts_frameOf.2 ⟨_, hmem, rfl⟩
    exact keywordTrace_follows
      (frameOf_follows hroot hleads hreach hreads hinner hmembers hgentle hparts) hmem' hpart subject
  next => exact .refl tone _

omit hroot hmembers hgentle hparts in
/-- A reference that stands for a schema follows. -/
theorem soleReference_follows {value value' : Json} (hmem : ("$ref", value) ∈ members)
    (halike : Json.Alike tone value value') (subject : Json) :
    Trace.Follows tone (referenceTrace (frameOf refs inner members) value subject)
      (referenceTrace (frameOf refs' inner' members') value' subject) := by
  cases value with
  | str ref =>
    obtain rfl := halike.eq_of_scalar (by simp) (by simp)
    refine @Trace.Follows.of_under tone members "$ref" _ _ ?_
    refine referenceTrace_follows subject fun ref' hvalue => ?_
    have hof : Lead.Of "$ref" (.str ref) (.to ref') := ⟨.inl rfl, hvalue⟩
    exact hleads hreach hreads hinner hmem hof
  | _ => exact .of_breakdown _ _

/-- The keywords of a schema, one after the other, follow. -/
theorem trace_frameOf_follows (subject : Json) :
    Trace.Follows tone ((frameOf refs inner members).trace subject)
      ((frameOf refs' inner' members').trace subject) := by
  have hkeyword : ∀ {keyword value value'}, (keyword, value) ∈ members →
      (inner.dialect.knows keyword = true →
        Json.KeywordEased root (tone.under members keyword) keyword value value') →
      Trace.Follows tone (memberTrace refs inner members subject (keyword, value))
        (memberTrace refs' inner' members' subject (keyword, value')) :=
    fun hmem heased => memberTrace_follows hroot hleads hreach hreads hinner hmembers hgentle hparts
      hmem heased subject
  rw [trace_frameOf, trace_frameOf]
  cases tone with
  | level =>
    obtain rfl := Json.obj.inj (hmembers.resolve_right fun h => by cases h.1)
    exact .inTurn (List.forall₂_same.2 fun entry hentry =>
      hkeyword hentry fun _ => ⟨.inl rfl, .inl rfl⟩)
  | rising =>
    refine .inTurn_rising ?_
    rintro ⟨keyword, value'⟩ hmem
    cases hknown : inner.dialect.knows keyword with
    | false =>
      left
      rw [memberTrace_of_not_known hinner hknown]
      exact Trace.isClean_empty
    | true =>
      -- A keyword is an old one, or the type that takes the place of a pinned identifier.
      rcases keyword_cases hmembers hgentle hmem (.inl hknown) with
        ⟨value, hold, heased⟩ | ⟨-, hconst, rfl, rfl, text, hold⟩
      · exact .inr ⟨(keyword, value), hold, hkeyword hold fun _ => heased⟩
      · refine .inr ⟨("const", .str text), hold, ?_⟩
        rw [memberTrace, memberTrace, hinner.dialect, if_pos hconst, if_pos hknown]
        exact string_follows_const hinner.dialect hconst ⟨rfl, rfl⟩ ⟨rfl, rfl⟩ subject

end Schemas

/-- An object follows, if the schemas in it and what its references do follow. -/
theorem object_follows (hsafe : RelaxesSafely fetch start root)
    (hleads : LeadsFollow fetch start root refs refs') {tone : Tone} {scope scope' : Scope}
    {members members' : Json.Members} (hreach : Reaches fetch start root tone scope (.obj members))
    (hscope : Scope.Eases root scope scope')
    (hmembers : Json.EasedAt root tone (.obj members) (.obj members'))
    (hparts : ∀ {tone part part' entered entered'}, sizeOf part < sizeOf (Json.obj members) →
      Reaches fetch start root tone entered part → Scope.Eases root entered entered' →
        Json.EasedAt root tone part part' →
          SchemaFollows refs refs' root tone entered entered' part part') :
    SchemaFollows refs refs' root tone scope scope' (.obj members) (.obj members') where
  trace ruling? subject := by
    cases hadopt : scope.adopt (.obj members) with
    | error cause =>
      rw [evaluate, hadopt]
      exact .of_breakdown _ _
    | ok inner =>
      obtain ⟨inner', hadopt', hinner⟩ := hscope.adopt hroot hmembers.eases inner hadopt
      have hgentle : tone = .rising → Json.Inside (.obj members) root →
          Json.IsGentle .rising inner.dialect members := by
        rintro rfl hinside
        exact hsafe.rising hreach hinside hadopt
      have hsole := soleReference?_alike (hmembers.find? hroot "$ref" (by decide)
        (by decide)) (ruling?.getD inner.dialect)
      rw [evaluate_obj hadopt, evaluate_obj hadopt', hinner.dialect]
      obtain ⟨hnone, hnone'⟩ | ⟨value, value', hfound, hfound', halike⟩ := none_or_some_of_rel hsole
      · rw [hnone, hnone']
        exact trace_frameOf_follows hroot hleads hreach (.inr hadopt) hinner hmembers hgentle hparts
          subject
      · rw [hfound, hfound']
        exact soleReference_follows hleads hreach (.inr hadopt) hinner
          (mem_of_soleReference? hfound) halike subject
  names := by
    rintro rfl inner inner' hreads hinner rules subject
    rw [namesIn, namesIn]
    exact evaluatedNames_follows (frameOf_follows hroot hleads hreach hreads hinner hmembers
      (fun h => by cases h) hparts) (.inl rfl) _ _
  places := by
    rintro rfl inner inner' hreads hinner rules subject
    cases subject with
    | arr items =>
      rw [placesIn, placesIn]
      exact evaluatedPlaces_follows (frameOf_follows hroot hleads hreach hreads hinner hmembers
        (fun h => by cases h) hparts) (.inl rfl) _ _ _
    | _ => exact placesIn_obj_follows _ _ (by simp)

/-- The evaluation of a schema in a scope follows, if what references do follows. -/
theorem evaluate_follows (hsafe : RelaxesSafely fetch start root)
    (hleads : LeadsFollow fetch start root refs refs') {tone : Tone} {scope scope' : Scope}
    {part part' : Json} (hreach : Reaches fetch start root tone scope part)
    (hscope : Scope.Eases root scope scope') (hpart : Json.EasedAt root tone part part') :
    SchemaFollows refs refs' root tone scope scope' part part' := by
  induction hsize : sizeOf part using Nat.strongRecOn generalizing tone scope scope' part part' with
  | ind size ih =>
    subst hsize
    cases part with
    | obj members =>
      obtain ⟨members', rfl⟩ := hpart.exists_eq_obj
      exact object_follows hroot hsafe hleads hreach hscope hpart fun hlt hreach' heases heased =>
        ih _ hlt hreach' heases heased rfl
    | bool b =>
      obtain rfl : part' = .bool b := by
        rcases hpart with rfl | ⟨-, -, rfl⟩
        · rfl
        · exact Json.relax_bool b
      exact truth_follows tone scope scope' b
    | _ => exact unfit_follows hpart rfl rfl

/-! ## References -/

/-- What is asked of a schema in its own dialect follows if it does there. -/
theorem bind_adopt_follows {α : Type} {scope scope' : Scope} {part part' : Json}
    (hscope : Scope.Eases root scope scope') (hpart : Json.Eases root part part')
    {next next' : Scope → Trial (List α)}
    (hnext : ∀ inner inner', scope.Reads part inner → Scope.Eases root inner inner' →
      Trial.Follows Eq (next inner) (next' inner')) :
    Trial.Follows Eq ((Trial.ofExcept (scope.adopt part)).bind next)
      ((Trial.ofExcept (scope'.adopt part')).bind next') := by
  have hadopt : Follows (fun inner inner' => scope.Reads part inner ∧
      Scope.Eases root inner inner') (scope.adopt part) (scope'.adopt part') := by
    intro inner hinner
    obtain ⟨inner', hinner', heases⟩ := hscope.adopt hroot hpart inner hinner
    exact ⟨inner', hinner', .inr hinner, heases⟩
  exact .bind (.ofExcept hadopt) fun inner inner' h => hnext inner inner' h.1 h.2

/-- A schema that is led to follows, if the references in it do. -/
theorem ofTarget_follows (hsafe : RelaxesSafely fetch start root)
    (hleads : LeadsFollow fetch start root refs refs') {tone : Tone} {scope scope' : Scope}
    {part part' : Json} (hreach : Reaches fetch start root tone scope part)
    (hscope : Scope.Eases root scope scope') (hpart : Json.EasedAt root tone part part') :
    Branch.Follows tone (.ofTarget refs scope part) (.ofTarget refs' scope' part') := by
  have hschema := evaluate_follows hroot hsafe hleads hreach hscope hpart
  constructor
  case schema => exact hpart.alike hroot
  case enter =>
    intro subject
    show Trace.Follows tone (evaluate refs (some scope.dialect) scope part subject)
      (evaluate refs' (some scope'.dialect) scope' part' subject)
    rw [hscope.dialect]
    exact hschema.trace _ _
  case test =>
    rintro rfl subject
    exact hschema.trace _ _
  case names =>
    intro htone rules subject
    refine bind_adopt_follows hroot hscope hpart.eases fun inner inner' hreads hinner => ?_
    exact hschema.names htone hreads hinner rules subject
  case places =>
    intro htone rules subject
    refine bind_adopt_follows hroot hscope hpart.eases fun inner inner' hreads hinner => ?_
    exact hschema.places htone hreads hinner rules subject

/-- What is led to from a schema is followed by what is led to where documents are relaxed. -/
theorem follow_follows (hsafe : RelaxesSafely fetch start root) (depth : Nat) :
    LeadsFollow fetch start root (follow fetch depth) (follow fetch depth) := by
  induction depth with
  | zero => exact fun _ _ _ _ _ => .ofFault _ _
  | succ depth ih =>
    intro tone scope inner inner' members keyword value lead hreach hreads hinner hmem hlead
    have hconsulted := hsafe.leads hreach hreads hmem hlead
    have htarget : Trial.Follows (SchemaEases root) (inner.target? fetch lead)
        (inner'.target? fetch lead) := by
      rcases lead with ref | _
      · exact (hinner.resolve hroot fetch ref).follows (hconsulted ref List.mem_cons_self)
      · exact hinner.recur hroot fetch hconsulted
    have hstep : ∀ inner : Scope, follow fetch (depth + 1) inner lead =
        (inner.target? fetch lead).bind fun target =>
          .pure (.ofTarget (follow fetch depth) target.2 target.1) := by
      intro inner
      cases lead <;> rfl
    have hled : Trial.Follows
        (fun target target' => (inner.target? fetch lead).value = .ok target ∧
          SchemaEases root target target')
        (inner.target? fetch lead) (inner'.target? fetch lead) := by
      intro target hvalue
      obtain ⟨target', hvalue', heases⟩ := htarget target hvalue
      exact ⟨target', hvalue', hvalue, heases⟩
    rw [hstep, hstep]
    refine .bind hled ?_
    rintro ⟨part, target⟩ ⟨part', target'⟩ ⟨hvalue, hschema, hpart, hscope⟩
    have hreached := Reaches.led hreach hreads hmem hlead hvalue
    refine .pure (ofTarget_follows hroot hsafe ih hreached hscope ?_)
    cases hpart with
    | same => exact .inl rfl
    | relaxed hinside =>
      cases htone : tone.under members keyword with
      | rising => exact .inr ⟨rfl, hinside, rfl⟩
      | level =>
        -- What counts both ways is no other when it is relaxed.
        rw [htone] at hreached
        left
        cases part with
        | obj parts => exact hsafe.level hreached hinside
        | bool b => exact Json.relax_bool b
        | _ => simp [Json.CanBeSchema, Json.isObject, Json.isTruth] at hschema

end Relaxed

end TypeRegistry
