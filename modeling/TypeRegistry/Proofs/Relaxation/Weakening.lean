import TypeRegistry.Cast
import TypeRegistry.Proofs.Relaxation.Evaluation
import TypeRegistry.Proofs.Relaxation.Form
import TypeRegistry.Proofs.Schema.Clean

/-!
# Relaxing a schema only weakens it

Where an identifier is pinned only as the `const` of a schema whose acceptance alone counts, the
relaxed schema accepts every instance that the schema accepts: it has the same form, it is evaluated
in a scope that differs only in what is relaxed, and its trace follows that of the schema.  Under a
keyword that counts what is refused, such as `not`, and where an identifier is pinned in data, such
as that of `enum`, relaxing can make a schema stricter.

Main results:

- Theorem `validate_relax`: an instance that is valid stays valid when the schema is relaxed.
- Theorem `relaxing_weakens`: so a cast does not reject content that its target accepts.
-/

namespace TypeRegistry

open Dictionary

/-- The scope in which the evaluation of a schema starts. -/
def startScope (schema : Json) : Except Breakdown Scope :=
  (Dialect.draft202012.adopt schema).bind fun dialect => (dialect.idOf schema).map fun id =>
    { dialect, base := id.getD "", library := Library.standard.put (id.getD "") ⟨schema, dialect⟩ }

/-- The trace of a schema starts in its scope. -/
theorem schemaTrace_eq_start (store : Store) (schema subject : Json) :
    schemaTrace store schema subject = .ofExcept (startScope schema) fun scope =>
      evaluate (follow (fetchRegistered store.lookup?) (referenceDepth store schema subject)) none
        scope schema subject := by
  rw [schemaTrace, startScope]
  cases Dialect.draft202012.adopt schema with
  | error cause => rfl
  | ok dialect =>
    show Trace.ofExcept (dialect.idOf schema) _ = Trace.ofExcept ((dialect.idOf schema).map _) _
    cases dialect.idOf schema <;> rfl

section Start

variable {schema : Json} (hschema : schema.IsRelaxable)
include hschema

/-- References are nested no deeper in a relaxed schema. -/
theorem referenceDepth_relax (store : Store) (subject : Json) :
    referenceDepth store schema.relax subject = referenceDepth store schema subject := by
  simp only [referenceDepth, Json.countNamedInItems]
  rw [Json.countNamed_relax (by decide) (by decide) hschema]

/-- The evaluation of a relaxed schema starts in a scope in which only the schema is relaxed. -/
theorem startScope_relax :
    Follows (Scope.Eases schema) (startScope schema) (startScope schema.relax) := by
  rw [startScope, startScope, Dialect.draft202012.adopt_relax hschema]
  refine .bind (.of_eq rfl) ?_
  rintro dialect _ rfl
  rw [dialect.idOf_relax hschema]
  cases dialect.idOf schema with
  | error cause => exact .error _ _
  | ok id =>
    exact .ok ⟨rfl, rfl, rfl, (Library.Eases.refl schema Library.standard).put _
      ⟨.relaxed .self, rfl⟩⟩

end Start

/-! ## Verdicts -/

namespace Verdict

/-- Whether nothing is wrong. -/
def isValid {ε : Type} : Verdict ε → Bool
  | .ok (.ok ()) => true
  | _ => false

theorem isValid_iff {ε : Type} (verdict : Verdict ε) :
    verdict.isValid = true ↔ verdict = Verdict.valid := by
  rcases verdict with cause | fault | ⟨⟨⟩⟩ <;> simp [isValid, Verdict.valid]

instance {ε : Type} (verdict : Verdict ε) : Decidable (verdict = Verdict.valid) :=
  decidable_of_iff _ verdict.isValid_iff

end Verdict

/-- A relaxed schema has the form of its dialect if the schema has it, since draft-06. -/
theorem formOf_relax {schema : Json} (hschema : schema.IsRelaxable)
    (hdialect : ∀ {dialect}, Dialect.draft202012.adopt schema = .ok dialect →
      dialect.isSince .draft06)
    (h : formOf schema = Verdict.valid) : formOf schema.relax = Verdict.valid := by
  rw [formOf_eq_valid_iff_exists] at h ⊢
  obtain ⟨dialect, hadopt, hcheck⟩ := h
  rw [Dialect.draft202012.adopt_relax hschema]
  exact ⟨dialect, hadopt, schemaCheck_relax (hdialect hadopt) hschema hcheck⟩

section Weakening

variable {store : Store} {schema : Json} (hschema : schema.IsRelaxable)
  (hdialect : ∀ {dialect}, Dialect.draft202012.adopt schema = .ok dialect →
    dialect.isSince .draft06)
  (hsafe : ∀ {start}, startScope schema = .ok start →
    RelaxesSafely (fetchRegistered store.lookup?) start schema)
include hschema hdialect hsafe

/-- An instance that is valid under a schema is valid under the relaxed schema, if pinned identifiers
stand only where acceptance alone counts. -/
theorem validate_relax {subject : Json}
    (h : (validate store schema subject).value = Verdict.valid) :
    (validate store schema.relax subject).value = Verdict.valid := by
  rw [validate_eq_valid_iff] at h ⊢
  obtain ⟨hform, hclean⟩ := h
  refine ⟨formOf_relax hschema hdialect hform, ?_⟩
  rw [schemaTrace_eq_start] at hclean ⊢
  rw [referenceDepth_relax hschema]
  cases hstart : startScope schema with
  | error cause =>
    rw [hstart] at hclean
    exact absurd hclean (Trace.not_isClean_ofBreakdown cause)
  | ok start =>
    obtain ⟨start', hstart', hscope⟩ := startScope_relax hschema start hstart
    rw [hstart] at hclean
    rw [hstart']
    have hfollows := evaluate_follows hschema (hsafe hstart)
      (follow_follows hschema (hsafe hstart) (referenceDepth store schema subject)) .start hscope
      (.inr ⟨rfl, .self, rfl⟩)
    exact (hfollows.trace none subject).isClean hclean

/-- Relaxing a schema whose pinned identifiers stand only where acceptance alone counts weakens it:
it still accepts what the schema accepts, so that content carried over by a cast conforms if the
target accepts it. -/
theorem relaxing_weakens :
    (∀ subject, (validate store schema subject).value = Verdict.valid →
      (validate store schema.relax subject).value = Verdict.valid) ∧
    ∀ comparison content,
      (validate store schema (.obj (castObject schema "" content.members).members)).value =
        Verdict.valid →
      (castReport store comparison content schema).value =
        .ok (.ofCasting comparison (castObject schema "" content.members) none) := by
  refine ⟨fun subject => validate_relax hschema hdialect hsafe, ?_⟩
  intro comparison content h
  have hrelaxed := validate_relax hschema hdialect hsafe h
  rw [castReport, Consulted.mapValue, hrelaxed]
  rfl

end Weakening

/-! ## Schemas without references -/

/-- The schemas inside a schema that are applied, with how their outcome counts. -/
inductive Json.Within (root : Json) : Tone → Json → Prop
  | root : Within root .rising root
  | applied {tone : Tone} {members : Members} {keyword : String} {value part : Json} :
      Within root tone (.obj members) → (keyword, value) ∈ members →
      Json.Applied keyword value part → Within root (tone.under members keyword) part

/-- Keywords whose values hold nothing to relax can be relaxed. -/
theorem Json.IsGentle.of_values {tone : Tone} {dialect : Dialect} {members : Members}
    (hknown : dialect.knows "const" = true) (h : ∀ member ∈ members, member.2.relax = member.2) :
    Json.IsGentle tone dialect members where
  pins _ := hknown
  values hmem _ _ := .inl (h _ hmem)

/-- In a schema without references, which declares no other dialect inside, relaxing is safe if it
changes nothing that counts both ways and is gentle elsewhere. -/
theorem relaxesSafely_of_within (fetch : String → Consulted (Option Resource)) {start : Scope}
    {root : Json}
    (hdialect : ∀ {tone members}, root.Within tone (.obj members) →
      start.dialect.adopt (.obj members) = .ok start.dialect)
    (hleads : ∀ {tone members}, root.Within tone (.obj members) →
      ∀ keyword ∈ leadingKeywords, keyword ∉ keys members)
    (hlevel : ∀ {members}, root.Within .level (.obj members) →
      (Json.obj members).relax = .obj members)
    (hrising : ∀ {members}, root.Within .rising (.obj members) →
      Json.IsGentle .rising start.dialect members) :
    RelaxesSafely fetch start root := by
  have hreads : ∀ {tone : Tone} {scope inner : Scope} {members}, root.Within tone (.obj members) →
      scope.dialect = start.dialect → scope.Reads (.obj members) inner →
        inner.dialect = start.dialect := by
    rintro tone scope inner members hwithin hscope (rfl | hadopt)
    · exact hscope
    · rw [Scope.adopt, hscope, hdialect hwithin] at hadopt
      obtain rfl := Except.ok.inj hadopt
      rfl
  have hlead : ∀ {tone : Tone} {members keyword value} {lead : Lead}, root.Within tone (.obj members) →
      (keyword, value) ∈ members → ¬ lead.Of keyword value := by
    intro tone members keyword value lead hwithin hmem hof
    refine hleads hwithin keyword ?_ (List.mem_map_of_mem hmem)
    rcases lead with ref | _
    · rcases hof.1 with rfl | rfl <;> decide
    · cases hof
      decide
  have hreach : ∀ {tone : Tone} {scope : Scope} {part}, Reaches fetch start root tone scope part →
      root.Within tone part ∧ scope.dialect = start.dialect := by
    intro tone scope part h
    induction h with
    | start => exact ⟨.root, rfl⟩
    | applied _ hread hmem happlied henter ih =>
      refine ⟨.applied ih.1 hmem happlied, ?_⟩
      have hinner := hreads ih.1 ih.2 hread
      rcases henter with rfl | hinto
      · exact hinner
      · rw [← hinner]
        exact Scope.dialect_of_into hinto
    | led _ _ hmem hof _ ih => exact absurd hof (hlead ih.1 hmem)
  refine ⟨fun h _ => hlevel (hreach h).1, ?_, ?_⟩
  · intro scope inner members h _ hadopt
    rw [hreads (hreach h).1 (hreach h).2 (.inr hadopt)]
    exact hrising (hreach h).1
  · intro tone scope inner members keyword value lead h _ hmem hof
    exact absurd hof (hlead (hreach h).1 hmem)

/-- A schema for parcels that are of a pinned kind and have not been returned. -/
def parcelSchema : Json.Members :=
  [("type", .str "object"),
    ("properties", .obj
      [("kind", .obj [("const", .str "gts.acme.shop.cart.item.v1~")]),
        ("weight", .obj [("minimum", .int 0)])]),
    ("not", .obj [("required", .arr [.str "returned"])])]

/-- What is applied in the schema for parcels. -/
theorem within_parcelSchema {tone : Tone} {members : Json.Members}
    (h : (Json.obj parcelSchema).Within tone (.obj members)) :
    tone = .rising ∧ (members = parcelSchema ∨
      members = [("const", .str "gts.acme.shop.cart.item.v1~")] ∨
      members = [("minimum", .int 0)]) ∨
    tone = .level ∧ members = [("required", .arr [.str "returned"])] := by
  generalize hpart : Json.obj members = part at h
  induction h generalizing members with
  | root => exact .inl ⟨rfl, .inl (Json.obj.inj hpart)⟩
  | @applied tone around keyword value part _ hmem happlied ih =>
    subst hpart
    rcases ih rfl with ⟨rfl, rfl | rfl | rfl⟩ | ⟨rfl, rfl⟩
    · simp only [parcelSchema, List.mem_cons, Prod.mk.injEq, List.not_mem_nil, or_false] at hmem
      rcases hmem with ⟨rfl, rfl⟩ | ⟨rfl, rfl⟩ | ⟨rfl, rfl⟩
      · simp [Json.Applied, wholeKeywords, listKeywords, mapKeywords] at happlied
      · left
        refine ⟨rfl, .inr ?_⟩
        simp only [Json.Applied, wholeKeywords, listKeywords, mapKeywords, List.mem_cons,
          List.not_mem_nil, String.reduceEq, or_false, or_self, false_and, false_or, true_and]
          at happlied
        obtain ⟨parts, name, hparts, hname⟩ := happlied
        obtain rfl := Json.obj.inj hparts
        simp only [List.mem_cons, Prod.mk.injEq, Json.obj.injEq, List.not_mem_nil, or_false]
          at hname
        exact hname.imp And.right And.right
      · right
        refine ⟨rfl, ?_⟩
        simpa [Json.Applied, wholeKeywords, listKeywords, mapKeywords] using happlied
    all_goals
      simp only [List.mem_singleton, Prod.mk.injEq] at hmem
      obtain ⟨rfl, rfl⟩ := hmem
      simp [Json.Applied, wholeKeywords, listKeywords, mapKeywords] at happlied

theorem isRelaxable_parcelSchema : (Json.obj parcelSchema).IsRelaxable where
  wellFormed := by
    simp [parcelSchema, Json.WellFormed, Json.WellFormedMembers, Json.WellFormedItems, keys]
  typeText := by
    intro members hinside _ value htype
    simp only [parcelSchema, Json.inside_obj_iff, Json.inside_arr_iff, Json.inside_str_iff,
      Json.inside_int_iff, List.mem_cons, List.not_mem_nil, or_false, exists_eq_or_imp,
      exists_eq_left, Json.obj.injEq, reduceCtorEq, false_or] at hinside
    rcases hinside with rfl | (rfl | rfl | rfl) | rfl
    · cases htype
      exact .inl ⟨"object", rfl⟩
    all_goals cases htype

theorem isGentle_parcelSchema : Json.IsGentle .rising .draft202012 parcelSchema where
  pins _ := rfl
  values := by
    intro keyword value hmem _ _
    simp only [parcelSchema, List.mem_cons, Prod.mk.injEq, List.not_mem_nil, or_false] at hmem
    rcases hmem with ⟨rfl, rfl⟩ | ⟨rfl, rfl⟩ | ⟨rfl, rfl⟩
    · exact .inl rfl
    · refine .inr ⟨rfl, .inr (.inr ⟨by decide, _, rfl, ?_⟩)⟩
      rintro ⟨member, hmember, hpinned⟩
      obtain ⟨-, text, htext⟩ := Json.pinsIdentifier_eq_true hpinned
      simp only [List.mem_cons, List.not_mem_nil, or_false] at hmember
      rcases hmember with rfl | rfl <;> cases htext
    · exact .inl rfl

theorem relaxesSafely_parcelSchema (fetch : String → Consulted (Option Resource)) {start : Scope}
    (hdialect : start.dialect = .draft202012) :
    RelaxesSafely fetch start (.obj parcelSchema) := by
  refine relaxesSafely_of_within fetch ?_ ?_ ?_ ?_
  · intro tone members hwithin
    rcases within_parcelSchema hwithin with ⟨-, rfl | rfl | rfl⟩ | ⟨-, rfl⟩ <;> rfl
  · intro tone members hwithin
    rcases within_parcelSchema hwithin with ⟨-, rfl | rfl | rfl⟩ | ⟨-, rfl⟩ <;> decide
  · intro members hwithin
    rcases within_parcelSchema hwithin with ⟨htone, -⟩ | ⟨-, rfl⟩
    · cases htone
    · rfl
  · intro members hwithin
    rw [hdialect]
    rcases within_parcelSchema hwithin with ⟨-, rfl | rfl | rfl⟩ | ⟨htone, -⟩
    · exact isGentle_parcelSchema
    · exact .of_values rfl (List.forall_mem_singleton.2 (Json.relax_str _))
    · exact .of_values rfl (List.forall_mem_singleton.2 (Json.relax_int _))
    · cases htone

/-- Parcels that the schema for them accepts are accepted by the relaxed one. -/
theorem relaxing_weakens_parcelSchema :
    (validate {} (.obj parcelSchema)
      (.obj [("kind", .str "gts.acme.shop.cart.item.v1~")])).value = Verdict.valid ∧
    (validate {} (Json.obj parcelSchema).relax
      (.obj [("kind", .str "gts.acme.shop.cart.item.v1~")])).value = Verdict.valid := by
  have hvalid : (validate {} (.obj parcelSchema)
      (.obj [("kind", .str "gts.acme.shop.cart.item.v1~")])).value = Verdict.valid := by
    decide +kernel
  refine ⟨hvalid, (@relaxing_weakens {} _ isRelaxable_parcelSchema ?_ ?_).1 _ hvalid⟩
  · intro dialect hadopt
    obtain rfl : .draft202012 = dialect := Except.ok.inj hadopt
    decide
  · intro start hstart
    exact relaxesSafely_parcelSchema _ (by rw [← Except.ok.inj hstart])

/-- Under `not` a schema is made stricter: where one identifier was refused, every text is. -/
def barringSchema : Json :=
  .obj [("properties", .obj
    [("kind", .obj [("not", .obj [("const", .str "gts.acme.shop.cart.item.v1~")])])])]

theorem relaxing_strengthens :
    (validate {} barringSchema
      (.obj [("kind", .str "gts.acme.shop.cart.gift.v1~")])).value = Verdict.valid ∧
    (validate {} barringSchema.relax
      (.obj [("kind", .str "gts.acme.shop.cart.gift.v1~")])).value ≠ Verdict.valid := by
  decide +kernel

end TypeRegistry
