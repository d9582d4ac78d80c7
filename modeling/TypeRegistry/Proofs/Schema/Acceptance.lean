import TypeRegistry.Proofs.Schema.Clean

/-!
# What an accepting schema grants

If the trace of a schema on an instance is clean, and its keywords are in force, then every keyword
has what it asks for: required names are there, a `const` is the instance, names that are neither
declared nor allowed are not there, and the schemas under `properties`, `items` and `allOf` accept
what they are applied to.

Main results:

- Definition `Accepts`: a schema that is met in a dialect accepts an instance.
- Definition `Dialect.Reads`: the keywords of a schema are in force in a dialect.
- Theorem `Accepts.isClean`: the keywords of an accepting schema are clean.
- Theorems `Accepts.property`, `Accepts.item`, `Accepts.part`: so the schemas inside accept.
- Theorems `Accepts.required`, `Accepts.const`, `Accepts.declared`: what the instance looks like.
-/

namespace TypeRegistry

open Dictionary

/-- A schema accepts an instance where it is met in a dialect, in some scope. -/
def Accepts (refs : Follow) (surroundings : Dialect) (schema subject : Json) : Prop :=
  ∃ scope : Scope, scope.dialect = surroundings ∧
    (evaluate refs (some surroundings) scope schema subject).IsClean

/-- The keywords of a schema that is met in one dialect are in force in another one: that is the
dialect it is in, and no reference stands for it. -/
structure Dialect.Reads (surroundings dialect : Dialect) (members : Json.Members) : Prop where
  adopt : surroundings.adopt (.obj members) = .ok dialect
  sole : soleReference? surroundings members = none

/-- Only a text is the same data as a text. -/
theorem eq_str_of_sameData {value : Json} {text : String}
    (h : Json.sameData value (.str text) = true) : value = .str text := by
  cases value <;>
    simp_all [Json.sameData, Json.equalBy, Json.sameScalarData, Json.number?]

/-- Filtering by a test that always has an answer. -/
theorem filterM_ok {ε α : Type} (keep : α → Bool) (items : List α) :
    items.filterM (fun item => (.ok (keep item) : Except ε Bool)) = .ok (items.filter keep) := by
  have haux : ∀ (items kept : List α),
      items.filterAuxM (fun item => (.ok (keep item) : Except ε Bool)) kept =
        .ok ((items.filter keep).reverse ++ kept) := by
    intro items
    induction items with
    | nil => exact fun _ => rfl
    | cons item rest ih =>
      intro kept
      show List.filterAuxM _ rest (cond (keep item) (item :: kept) kept) = _
      rw [ih, List.filter_cons]
      cases keep item <;> simp
  show (items.filterAuxM (fun item => (.ok (keep item) : Except ε Bool)) []).bind
    (fun kept => .ok kept.reverse) = _
  rw [haux, List.append_nil]
  exact congrArg Except.ok (List.reverse_reverse _)

/-- A schema declares the same dialect wherever it is met, if it declares any. -/
theorem Dialect.adopt_again {surroundings dialect : Dialect} {schema : Json}
    (h : surroundings.adopt schema = .ok dialect) : dialect.adopt schema = .ok dialect := by
  cases schema with
  | obj members =>
    simp only [adopt] at h ⊢
    cases hfound : find? "$schema" members with
    | none => rfl
    | some value =>
      simp only [hfound] at h ⊢
      cases hdeclared : ofDeclaration value with
      | error cause =>
        rw [hdeclared] at h
        cases h
      | ok declared =>
        rw [hdeclared] at h
        obtain rfl := Except.ok.inj h
        cases declared <;> rfl
  | bool _ => rfl
  | null | int _ | float _ | str _ | arr _ =>
    simp only [adopt] at h ⊢
    cases hholds : Json.holds? "$schema" _ with
    | error cause =>
      rw [hholds] at h
      cases h
    | ok holds =>
      rw [hholds] at h
      cases holds
      · rfl
      · cases h

section Acceptance

variable {refs : Follow} {surroundings dialect : Dialect} {scope : Scope} {schema subject : Json}
  {members : Json.Members}

/-- A schema that is in the dialect it is met in accepts what its own trace is clean on. -/
theorem Accepts.of_own (hadopt : scope.adopt schema = .ok scope)
    (h : (evaluate refs none scope schema subject).IsClean) :
    Accepts refs scope.dialect schema subject := by
  refine ⟨scope, rfl, ?_⟩
  cases schema with
  | obj members =>
    rw [evaluate_obj hadopt] at h ⊢
    exact h
  | bool value => cases value <;> exact h
  | null | int _ | float _ | str _ | arr _ => exact h

/-- A schema inside a schema accepts what its trace is clean on. -/
theorem Accepts.of_enter (h : ((branchOf refs scope schema).enter subject).IsClean) :
    Accepts refs scope.dialect schema subject := by
  have hentered : schema.isTruth = false →
      ((branchOf refs scope schema).enter subject) =
        Trace.ofExcept (scope.into schema) fun inner =>
          evaluate refs (some scope.dialect) inner schema subject := by
    intro htruth
    cases schema <;> first | rfl | cases htruth
  cases htruth : schema.isTruth with
  | true =>
    refine ⟨scope, rfl, ?_⟩
    cases schema <;> first | exact h | cases htruth
  | false =>
    rw [hentered htruth] at h
    cases hinto : scope.into schema with
    | error cause =>
      rw [hinto] at h
      exact absurd h (Trace.not_isClean_ofBreakdown cause)
    | ok inner =>
      rw [hinto] at h
      exact ⟨inner, Scope.dialect_of_into hinto, h⟩

/-- A schema that accepts anything is in some dialect. -/
theorem Accepts.adopt (h : Accepts refs surroundings (.obj members) subject) :
    ∃ dialect, surroundings.adopt (.obj members) = .ok dialect := by
  obtain ⟨scope, rfl, hclean⟩ := h
  cases hadopt : scope.dialect.adopt (.obj members) with
  | error cause =>
    rw [evaluate, Scope.adopt, hadopt] at hclean
    exact absurd hclean (Trace.not_isClean_ofBreakdown cause)
  | ok dialect => exact ⟨dialect, rfl⟩

/-- The keywords of an accepting schema are clean. -/
theorem Accepts.isClean (h : Accepts refs surroundings (.obj members) subject)
    (hreads : surroundings.Reads dialect members) :
    ∃ scope : Scope, scope.dialect = dialect ∧ ∀ {keyword value},
      find? keyword members = some value → dialect.knows keyword = true →
        (keywordTrace (frameOf refs scope members) (partOf refs scope keyword value)
          subject).IsClean := by
  obtain ⟨around, rfl, hclean⟩ := h
  obtain ⟨scope, hadopt, rfl⟩ : ∃ scope : Scope, around.adopt (.obj members) = .ok scope ∧
      scope.dialect = dialect := by
    rw [Scope.adopt, hreads.adopt]
    exact ⟨_, rfl, rfl⟩
  have hsole : soleReference? ((some around.dialect).getD scope.dialect) members = none :=
    hreads.sole
  rw [isClean_evaluate_obj_iff hadopt hsole] at hclean
  exact ⟨scope, rfl, fun hfound => hclean _ (mem_of_find? hfound)⟩

/-- The schema of a property accepts what the instance has under its name. -/
theorem Accepts.property {properties values : Json.Members} {name : String} {property value : Json}
    (h : Accepts refs surroundings (.obj members) (.obj values))
    (hreads : surroundings.Reads dialect members)
    (hfound : find? "properties" members = some (.obj properties))
    (hproperty : (name, property) ∈ properties) (hvalue : find? name values = some value) :
    Accepts refs dialect property value := by
  obtain ⟨scope, rfl, hclean⟩ := h.isClean hreads
  exact .of_enter (isClean_property (hclean hfound rfl) hproperty hvalue)

/-- On an object, the declared properties are the members of an object. -/
theorem Accepts.properties {value : Json} {values : Json.Members}
    (h : Accepts refs surroundings (.obj members) (.obj values))
    (hreads : surroundings.Reads dialect members)
    (hfound : find? "properties" members = some value) :
    ∃ properties, value = .obj properties := by
  obtain ⟨scope, rfl, hclean⟩ := h.isClean hreads
  obtain ⟨branches, hbranches, -⟩ := isClean_properties_enter rfl (hclean hfound rfl)
  rw [Part.namedBranches] at hbranches
  cases value with
  | obj properties => exact ⟨properties, rfl⟩
  | _ => cases hbranches

/-- The schema of the items accepts every item, unless it speaks about the last ones only. -/
theorem Accepts.item {inner : Json.Members} {items : List Json} {item : Json}
    (h : Accepts refs surroundings (.obj members) (.arr items))
    (hreads : surroundings.Reads dialect members)
    (htuple : dialect = .draft202012 → find? "prefixItems" members = none)
    (hfound : find? "items" members = some (.obj inner)) (hitem : item ∈ items) :
    Accepts refs dialect (.obj inner) item := by
  obtain ⟨scope, rfl, hclean⟩ := h.isClean hreads
  exact .of_enter ((isClean_items_iff htuple inner _).1 (hclean hfound rfl) items rfl item hitem)

/-- Every schema that a schema is composed of accepts what it accepts. -/
theorem Accepts.part {parts : List Json} {part : Json}
    (h : Accepts refs surroundings (.obj members) subject)
    (hreads : surroundings.Reads dialect members) (hdialect : dialect.isSince .draft04)
    (hfound : find? "allOf" members = some (.arr parts)) (hpart : part ∈ parts) :
    Accepts refs dialect part subject := by
  obtain ⟨scope, rfl, hclean⟩ := h.isClean hreads
  have hkeyword := hclean hfound hdialect
  change (inTurn (fun branch => branch.enter subject) (branchesOf refs scope parts)).IsClean
    at hkeyword
  rw [branchesOf_eq_map, isClean_inTurn, List.forall_mem_map] at hkeyword
  exact .of_enter (hkeyword part hpart)

/-- The required names are there. -/
theorem Accepts.required {names : List Json} {name : String} {values : Json.Members}
    (h : Accepts refs surroundings (.obj members) (.obj values))
    (hreads : surroundings.Reads dialect members) (hdialect : dialect.isSince .draft04)
    (hfound : find? "required" members = some (.arr names)) (hname : .str name ∈ names) :
    has name values = true := by
  obtain ⟨scope, rfl, hclean⟩ := h.isClean hreads
  have hkeyword := hclean hfound hdialect
  have htrace : keywordTrace (frameOf refs scope members)
      (partOf refs scope "required" (.arr names)) (.obj values) =
        (frameOf refs scope members).own (.obj values) (names.flatMap fun name =>
          findWhere ((namesMember values name).map (!·)) (.missingName name)) := by
    simp [keywordTrace, partOf, branchOf, Branch.ofSchema]
    rfl
  rw [htrace, Frame.isClean_own, List.flatMap_eq_nil_iff] at hkeyword
  have hstep := hkeyword (.str name) hname
  simpa [namesMember, findWhere, Except.map, stepsOf, findIf] using hstep

/-- A text under `const` is the instance. -/
theorem Accepts.const {text : String} (h : Accepts refs surroundings (.obj members) subject)
    (hreads : surroundings.Reads dialect members) (hdialect : dialect.isSince .draft06)
    (hfound : find? "const" members = some (.str text)) : subject = .str text := by
  obtain ⟨scope, rfl, hclean⟩ := h.isClean hreads
  have hkeyword := hclean hfound hdialect
  have htrace : keywordTrace (frameOf refs scope members) (partOf refs scope "const" (.str text))
      subject = (frameOf refs scope members).own subject
        (findIf (!Json.sameData subject (.str text)) (.notConst (.str text))) := by
    simp [keywordTrace, partOf, branchOf, Branch.ofSchema]
    rfl
  rw [htrace, Frame.isClean_own, findIf] at hkeyword
  split at hkeyword
  · cases hkeyword
  next hsame =>
    rw [Bool.not_eq_true', Bool.not_eq_false] at hsame
    exact eq_str_of_sameData hsame

/-- Where no other properties are allowed and none are declared by patterns, every name is that of a
declared property. -/
theorem Accepts.declared {values : Json.Members}
    (h : Accepts refs surroundings (.obj members) (.obj values))
    (hreads : surroundings.Reads dialect members)
    (hfound : find? "additionalProperties" members = some (.bool false))
    (hpatterns : find? "patternProperties" members = none) {name : String}
    (hname : name ∈ keys values) :
    ∃ properties, find? "properties" members = some (.obj properties) ∧
      has name properties = true := by
  obtain ⟨declared, hdeclared, hproperties⟩ : ∃ declared : Json.Members,
      (find? "properties" members).getD (.obj []) = .obj declared ∧
        (find? "properties" members = some (.obj declared) ∨ declared = []) := by
    cases hvalue : find? "properties" members with
    | none => exact ⟨[], rfl, .inr rfl⟩
    | some value =>
      obtain ⟨properties, rfl⟩ := h.properties hreads hvalue
      exact ⟨properties, rfl, .inl rfl⟩
  have hundeclared : undeclaredNames members values =
      .ok ((keys values).filter fun name => !has name declared) := by
    rw [undeclaredNames, patternsOf, hpatterns, hdeclared, ← filterM_ok]
    have htest : (fun name : String => (.ok (!has name declared) : Except Breakdown Bool)) =
        fun name => do return !(← isDeclared (.obj declared) "" name) := by
      funext name
      rw [isDeclared, Json.holds?_obj]
      cases has name declared <;> rfl
    rw [htest]
    rfl
  obtain ⟨scope, rfl, hclean⟩ := h.isClean hreads
  have hkeyword := hclean hfound rfl
  have htrace : keywordTrace (frameOf refs scope members)
      (partOf refs scope "additionalProperties" (.bool false)) (.obj values) =
        Trace.ofExcept (undeclaredNames members values) fun names =>
          if names.isEmpty then {}
          else (frameOf refs scope members).own (.obj values) [undeclaredCause members names] := by
    rfl
  rw [htrace, hundeclared] at hkeyword
  change Trace.IsClean (if _ then _ else _) at hkeyword
  split at hkeyword
  next hnone =>
    rw [List.isEmpty_iff, List.filter_eq_nil_iff] at hnone
    have hhas := hnone name hname
    rw [Bool.not_eq_true', Bool.not_eq_false] at hhas
    refine ⟨declared, hproperties.resolve_right ?_, hhas⟩
    rintro rfl
    cases hhas
  next =>
    rw [Frame.isClean_own] at hkeyword
    cases hkeyword

end Acceptance

end TypeRegistry
