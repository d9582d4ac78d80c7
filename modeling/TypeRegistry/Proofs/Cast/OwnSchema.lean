import TypeRegistry.Proofs.Cast.Conformance
import TypeRegistry.Proofs.Identifier.Language
import TypeRegistry.Proofs.Relaxation.Weakening
import TypeRegistry.Proofs.Schema.SelfComparison

/-!
# Casting an instance to its own schema

A registered instance that is valid is not changed by a cast to the schema that governs it: the
validation of the whole schema leaves the flattened view of a cast nothing to do, the comparison of
the schema with itself finds nothing, and the content is still valid when the schema is relaxed.

For that, what a cast reads of the schema has to be in force, its bounds must be comparable, and
relaxing may only weaken it.  The default of a property that is not required may not be left to fill
in: a cast does so, also where the instance is valid without.

Main results:

- Definition `Json.IsCastable`: schemas that a cast reads as validation does.
- Theorem `castReport_of_valid`: the report on a cast of an object that is valid under the schema.
- Theorem `castInstance_own_schema`: a cast of a valid instance to its own schema changes nothing.
- Theorem `ownCast_changes`: but it fills in a default that is left out, and none of the conditions on
  the schema can be left out.
-/

namespace TypeRegistry

open Dictionary

/-! ## Schemas that a cast reads as validation does -/

/-- What a schema accepts it still accepts when it is relaxed: it pins no identifier, or only where
acceptance alone counts, in a dialect that knows `const`. -/
inductive Json.WeakensRelaxed (store : Store) (schema : Json) : Prop
  | unpinned : schema.relax = schema → WeakensRelaxed store schema
  | pinned : schema.IsRelaxable →
      (∀ {dialect}, Dialect.draft202012.adopt schema = .ok dialect → dialect.isSince .draft06) →
      (∀ {start}, startScope schema = .ok start →
        RelaxesSafely (fetchRegistered store.lookup?) start schema) →
      WeakensRelaxed store schema

/-- What is valid under such a schema stays valid when the schema is relaxed. -/
theorem Json.WeakensRelaxed.validate {store : Store} {schema subject : Json}
    (h : schema.WeakensRelaxed store)
    (hvalid : (validate store schema subject).value = Verdict.valid) :
    (TypeRegistry.validate store schema.relax subject).value = Verdict.valid := by
  rcases h with hunpinned | ⟨hrelaxable, hdialect, hsafe⟩
  · rw [hunpinned]
    exact hvalid
  · exact validate_relax hrelaxable hdialect hsafe hvalid

/-- A cast to a schema reads of it what is in force, its bounds can be compared, and relaxing only
weakens it. -/
structure Json.IsCastable (store : Store) (schema : Json) : Prop where
  enforced : ∀ {start surroundings members}, Dialect.draft202012.adopt schema = .ok start →
    CastReads start schema surroundings (.obj members) → surroundings.Enforces members
  comparable : boundsAreRepresentable schema schema = true
  weakens : schema.WeakensRelaxed store

/-! ## The content -/

/-- The evaluation of a schema starts in its own dialect. -/
theorem adopt_of_startScope {schema : Json} {start : Scope} (h : startScope schema = .ok start) :
    Dialect.draft202012.adopt schema = .ok start.dialect := by
  rw [startScope] at h
  cases hadopt : Dialect.draft202012.adopt schema with
  | error cause =>
    rw [hadopt] at h
    cases h
  | ok dialect =>
    rw [hadopt] at h
    change (dialect.idOf schema).map _ = .ok start at h
    cases hid : dialect.idOf schema with
    | error cause =>
      rw [hid] at h
      cases h
    | ok id =>
      rw [hid] at h
      rw [← Except.ok.inj h]

/-- An instance is accepted by a schema under which it is valid. -/
theorem exists_accepts_of_valid {store : Store} {schema subject : Json}
    (h : (validate store schema subject).value = Verdict.valid) :
    ∃ refs start, Dialect.draft202012.adopt schema = .ok start ∧
      Accepts refs start schema subject := by
  obtain ⟨-, hclean⟩ := (validate_eq_valid_iff store schema subject).1 h
  rw [schemaTrace_eq_start] at hclean
  cases hstart : startScope schema with
  | error cause =>
    rw [hstart] at hclean
    exact absurd hclean (Trace.not_isClean_ofBreakdown cause)
  | ok scope =>
    rw [hstart] at hclean
    have hadopt := adopt_of_startScope hstart
    have hown : scope.adopt schema = .ok scope := by
      rw [Scope.adopt, Dialect.adopt_again hadopt]
      rfl
    exact ⟨_, scope.dialect, hadopt, .of_own hown hclean⟩

section Content

variable {store : Store} {schema members : Json.Members}
  (hcastable : (Json.obj schema).IsCastable store) (hwell : (Json.obj members).WellFormed)
  (hdefaults : ∀ {below level}, CastMeets schema members below level →
    HasDefaults (Json.obj below).flatten level)
  (hvalid : (validate store (.obj schema) (.obj members)).value = Verdict.valid)
include hcastable hwell hdefaults hvalid

/-- The report on the cast of an object to a schema under which it is valid shows the object as it
was, nothing added or removed, and that it conforms. -/
theorem castReport_of_valid (comparison : CompatibilityReport) :
    ∃ report, (castReport store comparison (.obj members) (.obj schema)).value = .ok report ∧
      report.content = .obj members ∧ report.comparison.added = [] ∧
      report.comparison.removed = [] ∧ report.comparison.isFull = comparison.isFull ∧
      report.conforms = true := by
  obtain ⟨refs, start, hadopt, haccepts⟩ := exists_accepts_of_valid hvalid
  have hgrants : Grants refs start (.obj schema) (.obj schema) (.obj members) :=
    ⟨start, .root, haccepts⟩
  obtain ⟨hmembers, hadded, hremoved⟩ :=
    hgrants.castObject_eq (hcastable.enforced hadopt) hwell hdefaults ""
  have hrelaxed := hcastable.weakens.validate hvalid
  refine ⟨.ofCasting comparison (castObject (.obj schema) "" members) none, ?_, ?_, ?_, ?_, rfl,
    rfl⟩
  · rw [← hmembers] at hrelaxed
    rw [castReport, Consulted.mapValue, Json.members, hrelaxed]
    rfl
  · exact congrArg Json.obj hmembers
  · show Text.sortedDistinct _ = []
    rw [hadded]
    rfl
  · show Text.sortedDistinct _ = []
    rw [hremoved]
    rfl

end Content

/-! ## Registered instances -/

/-- An instance that passes the check against a schema has content that is valid under it. -/
theorem valid_of_validateAgainst {store : Store} {entity target : Entity}
    (hvalid : (validateAgainst store entity target).value = Verdict.valid) :
    (validate store target.content entity.content).value = Verdict.valid := by
  simp only [validateAgainst, bind, Consulted.bind] at hvalid
  rcases hverdict : (validate store target.content entity.content).value with cause | fault | ⟨⟨⟩⟩
  · rw [hverdict] at hvalid
    cases hvalid
  · rw [hverdict] at hvalid
    cases hvalid
  · rfl

section Registered

variable {store : Store} {id schemaId : String} {entity target : Entity}
  (hentity : store.lookup? id = some entity) (hgoverned : entity.governedBy = some schemaId)
  (htarget : store.lookup? schemaId = some target)
include hentity hgoverned htarget

/-- The content of a valid instance is valid under the schema that governs it. -/
theorem valid_of_validateInstance (hid : Text.trim id = id)
    (hvalid : (validateInstance store id).value = Verdict.valid) :
    (validate store target.content entity.content).value = Verdict.valid := by
  rw [validateInstance] at hvalid
  cases hparse : Identifier.parse id with
  | error fault =>
    rw [hparse] at hvalid
    cases hvalid
  | ok parsed =>
    have htext : parsed.text = id := by
      obtain ⟨-, -, -, -, -, segments, -, -, rfl⟩ := read_eq_ok_iff.1 hparse
      exact hid
    simp only [hparse, htext, bind, Consulted.bind, Consulted.ask, hentity, hgoverned, htarget]
      at hvalid
    split at hvalid
    · exact valid_of_validateAgainst hvalid
    · cases hvalid

/-- A cast of an instance to its own schema compares the schema with itself. -/
theorem castInstance_own (hinstance : entity.isSchema = false) :
    (castInstance store id schemaId).value =
      (castBetween store id schemaId schemaId entity.content target.content target.content).value := by
  simp only [castInstance, bind, Consulted.bind, Consulted.ask, hentity, hgoverned, htarget,
    hinstance]
  rfl

variable {members schema : Json.Members}

/-- A cast of a valid instance, given by an identifier without blanks around it, to the schema that
governs it returns the content as it was, with nothing added or removed, and finds it fully
compatible, if the schema can be cast to and no default is left to fill in. -/
theorem castInstance_own_schema (hid : Text.trim id = id) (hinstance : entity.isSchema = false)
    (hcontent : entity.content = .obj members) (hschema : target.content = .obj schema)
    (hwell : (Json.obj members).WellFormed) (hcastable : (Json.obj schema).IsCastable store)
    (hdefaults : ∀ {below level}, CastMeets schema members below level →
      HasDefaults (Json.obj below).flatten level)
    (hvalid : (validateInstance store id).value = Verdict.valid) :
    ∃ report, (castInstance store id schemaId).value = .ok report ∧
      report.content = entity.content ∧ report.comparison.added = [] ∧
      report.comparison.removed = [] ∧
      (report.comparison.isFull && report.conforms) = true := by
  have hvalid := valid_of_validateInstance hentity hgoverned htarget hid hvalid
  rw [castInstance_own hentity hgoverned htarget hinstance]
  rw [hcontent, hschema] at hvalid ⊢
  obtain ⟨comparison, hbuild, hbackward, hforward⟩ := CompatibilityReport.isFull_self
    hcastable.comparable id schemaId schemaId schemaId (.between schemaId schemaId)
  obtain ⟨report, hreport, hkept, hadded, hremoved, hfull, hconforms⟩ :=
    castReport_of_valid hcastable hwell hdefaults hvalid comparison
  refine ⟨report, ?_, hkept, hadded, hremoved, ?_⟩
  · simp only [castBetween, ite_self, hbuild]
    exact hreport
  · rw [hfull, CompatibilityReport.isFull, hbackward, hforward, hconforms]
    rfl

end Registered

/-! ## Orders -/

/-- The identifier of a schema and that of an instance under it. -/
def orderTypeId : String := "gts.acme.shop.cart.order.v1~"

def orderId : String := "gts.acme.shop.cart.order.v1~acme.shop.cart.gift.v1"

/-- A store with a schema and an instance under it. -/
def orderStore (schema order : Json.Members) : Store where
  entries :=
    [(orderTypeId, { content := .obj schema, isSchema := true }),
      (orderId, { content := .obj order, schemaId := some orderTypeId })]

/-- A closed schema of the lines in an order. -/
def lineSchema : Json.Members :=
  [("type", .str "object"), ("properties", .obj [("count", .obj [("type", .str "integer")])]),
    ("required", .arr [.str "count"]), ("additionalProperties", .bool false)]

/-- A closed schema of orders with lines and with a note that has a default. -/
def orderSchema : Json.Members :=
  [("type", .str "object"),
    ("properties", .obj
      [("id", .obj [("type", .str "string")]), ("note", .obj [("default", .str "none")]),
        ("lines", .obj [("type", .str "array"), ("items", .obj lineSchema)])]),
    ("required", .arr [.str "id"]), ("additionalProperties", .bool false)]

/-- An order with a note. -/
def notedOrder : Json.Members :=
  [("id", .str orderId), ("lines", .arr [.obj [("count", .int 2)]]), ("note", .str "fragile")]

/-- The schemas that a cast to the schema of orders reads. -/
theorem castReads_orderSchema {surroundings : Dialect} {schema : Json}
    (h : CastReads .draft202012 (.obj orderSchema) surroundings schema) :
    surroundings = .draft202012 ∧ (schema = .obj orderSchema ∨ schema = .obj lineSchema ∨
      schema = .obj [("type", .str "string")] ∨ schema = .obj [("default", .str "none")] ∨
      schema = .obj [("type", .str "array"), ("items", .obj lineSchema)] ∨
      schema = .obj [("type", .str "integer")]) := by
  induction h with
  | root => exact ⟨rfl, .inl rfl⟩
  | part _ _ hparts _ ih =>
    simp only [Json.obj.injEq] at ih
    obtain ⟨rfl, rfl | rfl | rfl | rfl | rfl | rfl⟩ := ih
    all_goals cases hparts
  | property _ hadopt hfound hmem ih =>
    simp only [Json.obj.injEq] at ih
    obtain ⟨rfl, rfl | rfl | rfl | rfl | rfl | rfl⟩ := ih
    · cases hfound
      refine ⟨(Except.ok.inj hadopt).symm, ?_⟩
      simp only [List.mem_cons, Prod.mk.injEq, List.not_mem_nil, or_false] at hmem
      rcases hmem with ⟨-, rfl⟩ | ⟨-, rfl⟩ | ⟨-, rfl⟩
      · exact .inr (.inr (.inl rfl))
      · exact .inr (.inr (.inr (.inl rfl)))
      · exact .inr (.inr (.inr (.inr (.inl rfl))))
    · cases hfound
      refine ⟨(Except.ok.inj hadopt).symm, ?_⟩
      simp only [List.mem_singleton, Prod.mk.injEq] at hmem
      exact .inr (.inr (.inr (.inr (.inr hmem.2))))
    all_goals cases hfound
  | items _ hadopt hfound _ ih =>
    simp only [Json.obj.injEq] at ih
    obtain ⟨rfl, rfl | rfl | rfl | rfl | rfl | rfl⟩ := ih
    case inr.inr.inr.inr.inl =>
      cases hfound
      exact ⟨(Except.ok.inj hadopt).symm, .inr (.inl rfl)⟩
    all_goals cases hfound

theorem isCastable_orderSchema (store : Store) : (Json.obj orderSchema).IsCastable store where
  enforced := by
    intro start surroundings members hstart hreads
    obtain rfl : .draft202012 = start := Except.ok.inj hstart
    obtain ⟨rfl, hmembers⟩ := castReads_orderSchema hreads
    simp only [Json.obj.injEq] at hmembers
    rcases hmembers with rfl | rfl | rfl | rfl | rfl | rfl
    all_goals
      refine ⟨?_, fun _ _ => rfl, fun _ => rfl, fun _ _ _ => rfl⟩
      intro dialect keyword value hadopt _ hguides
      obtain rfl : .draft202012 = dialect := Except.ok.inj hadopt
      cases hguides <;> rfl
  comparable := by decide +kernel
  weakens := .unpinned (by rfl)

/-- A cast of an order with a note meets the order and its line. -/
theorem castMeets_notedOrder {below level : Json.Members}
    (h : CastMeets orderSchema notedOrder below level) :
    (below = orderSchema ∧ level = notedOrder) ∨
      (below = lineSchema ∧ level = [("count", .int 2)]) := by
  cases h with
  | self => exact .inl ⟨rfl, rfl⟩
  | object _ _ hvalue _ =>
    have hmem := mem_of_find? hvalue
    simp [notedOrder] at hmem
  | item hproperty _ hfound _ hvalue hitem hmeets =>
    have hmem := mem_of_find? hvalue
    simp only [notedOrder, List.mem_cons, Prod.mk.injEq, Json.arr.injEq, reduceCtorEq, and_false,
      List.not_mem_nil, or_false, false_or] at hmem
    obtain ⟨rfl, rfl⟩ := hmem
    cases hproperty
    cases hfound
    simp only [List.mem_singleton, Json.obj.injEq] at hitem
    subst hitem
    cases hmeets with
    | self => exact .inr ⟨rfl, rfl⟩
    | object _ _ hbelow _ =>
      have hmem := mem_of_find? hbelow
      simp at hmem
    | item _ _ _ _ hbelow _ _ =>
      have hmem := mem_of_find? hbelow
      simp at hmem

/-- An order with a note stays as it is. -/
theorem castInstance_own_schema_notedOrder :
    (validateInstance (orderStore orderSchema notedOrder) orderId).value = Verdict.valid ∧
    ∃ report, (castInstance (orderStore orderSchema notedOrder) orderId orderTypeId).value =
        .ok report ∧
      report.content = .obj notedOrder ∧ report.comparison.added = [] ∧
      report.comparison.removed = [] ∧
      (report.comparison.isFull && report.conforms) = true := by
  have hvalid : (validateInstance (orderStore orderSchema notedOrder) orderId).value =
      Verdict.valid := by
    decide +kernel
  refine ⟨hvalid, castInstance_own_schema rfl rfl rfl (by decide) rfl rfl rfl ?_
    (isCastable_orderSchema _) ?_ hvalid⟩
  · simp [notedOrder, Json.WellFormed, Json.WellFormedMembers, Json.WellFormedItems, keys]
  · intro below level hmeets
    unfold HasDefaults
    rcases castMeets_notedOrder hmeets with ⟨rfl, rfl⟩ | ⟨rfl, rfl⟩
    · decide +kernel
    · decide +kernel

/-- Whether a cast to its own schema leaves the content of an instance as it is, what it adds and what
it removes, and whether it finds the instance compatible, if it reports at all; nothing if the
instance is not valid. -/
def ownCast? (schema order : Json.Members) :
    Option (Option (Bool × List String × List String × Bool)) :=
  let store := orderStore schema order
  if (validateInstance store orderId).value = Verdict.valid then
    some ((castInstance store orderId orderTypeId).value.toOption.map fun report =>
      (Json.sameData report.content (.obj order), report.comparison.added,
        report.comparison.removed, report.comparison.isFull && report.conforms))
  else none

/-- A cast of a valid instance to its own schema fills in a default, and none of the conditions on
the schema can be left out: that a closed schema declares nothing by patterns, that no reference
stands for it, that the schema of the items is that of every item, that its dialect knows `const`,
that relaxing weakens it, and that its bounds can be compared. -/
theorem ownCast_changes :
    ownCast? orderSchema [("id", .str orderId)] = some (some (false, ["note"], [], true)) ∧
    ownCast?
        [("properties", .obj [("id", .obj [])]), ("patternProperties", .obj [("^x", .obj [])]),
          ("additionalProperties", .bool false)]
        [("id", .str orderId), ("x", .int 1)] = some (some (false, [], ["x"], true)) ∧
    ownCast?
        [("$schema", .str "http://json-schema.org/draft-07/schema#"),
          ("definitions", .obj [("any", .obj [])]), ("$ref", .str "#/definitions/any"),
          ("properties", .obj [("id", .obj [])]), ("additionalProperties", .bool false)]
        [("id", .str orderId), ("x", .int 1)] = some (some (false, [], ["x"], true)) ∧
    ownCast?
        [("properties", .obj [("lines", .obj [("type", .str "array"),
          ("prefixItems", .arr [.obj []]), ("items", .obj lineSchema)])])]
        [("id", .str orderId), ("lines", .arr [.obj [("x", .int 1)]])] =
      some (some (false, [], ["lines[0].x"], true)) ∧
    ownCast?
        [("$schema", .str "http://json-schema.org/draft-04/schema#"),
          ("properties", .obj [("kind", .obj [("const", .str "gts.acme.shop.cart.gift.v1~")])])]
        [("id", .str orderId), ("kind", .str orderTypeId)] = some (some (false, [], [], true)) ∧
    ownCast?
        [("properties", .obj
          [("kind", .obj [("not", .obj [("const", .str "gts.acme.shop.cart.gift.v1~")])])])]
        [("id", .str orderId), ("kind", .str orderTypeId)] = some (some (true, [], [], false)) ∧
    ownCast?
        [("properties", .obj [("count", .obj
          [("type", .str "integer"), ("maximum", .int (10 ^ 400))])])]
        [("id", .str orderId)] = some none := by
  refine ⟨?_, ?_, ?_, ?_, ?_, ?_, ?_⟩
  all_goals decide +kernel

end TypeRegistry
