import Mathlib.Algebra.Group.Int.Defs
import TypeRegistry.Cast

/-!
# What a cast asks for

A cast looks for an instance, for the target, for the schema that governs the instance and for what is
known under that.  It is refused for the first of these that is lacking, or if the instance itself is
a schema.  Once all parties are found, it is made: nothing asks whether the source and the target are
schemas, although a missing one is refused as a schema that is not found, nor whether the identifier
of the instance is that of a type, although the refusal of a schema says so.

A cast between parties may still end without a report: a bound that has no double cannot be compared,
and the check of the content can break down.

Main results:

- Definitions `CastRefusal`, `CastParties.AreFound`: why a cast is refused, and its parties if it is
  not.
- Definition `MayCast`: what a cast should ask for.
- Theorem `castInstance_cases`: a cast is refused for what it lacks, or goes on between its parties.
- Theorem `castBetween_value`: between parties there is a report exactly if they can be compared and
  come to a verdict.
- Theorem `castInstance_preconditions`: when there is a report, and how this differs from when a cast
  may be made.
- Theorem `castInstance_mistakes`: casts that may not be made and are.
-/

namespace TypeRegistry

/-! ## Refusals -/

/-- What a cast of an instance to a target lacks in a registry: the first of what is looked for and
not found, or the instance itself if it is a schema. -/
inductive CastRefusal (lookup : Lookup) (instanceId targetId : String) : RegistryFault → Prop
  | entityNotFound (hentity : lookup instanceId = none) :
    CastRefusal lookup instanceId targetId (.entityNotFound instanceId)
  | targetNotFound {entity : Entity} (hentity : lookup instanceId = some entity)
    (htarget : lookup targetId = none) :
    CastRefusal lookup instanceId targetId (.schemaNotFound targetId)
  | castFromSchema {entity target : Entity} (hentity : lookup instanceId = some entity)
    (htarget : lookup targetId = some target) (hschema : entity.isSchema = true) :
    CastRefusal lookup instanceId targetId (.castFromSchema instanceId)
  | schemaUndeterminable {entity target : Entity} (hentity : lookup instanceId = some entity)
    (htarget : lookup targetId = some target) (hinstance : entity.isSchema = false)
    (hgoverned : entity.governedBy = none) :
    CastRefusal lookup instanceId targetId (.schemaUndeterminable instanceId)
  | sourceNotFound {entity target : Entity} {sourceId : String}
    (hentity : lookup instanceId = some entity) (htarget : lookup targetId = some target)
    (hinstance : entity.isSchema = false) (hgoverned : entity.governedBy = some sourceId)
    (hsource : lookup sourceId = none) :
    CastRefusal lookup instanceId targetId (.schemaNotFound sourceId)

/-- Who takes part in a cast: an instance with the identifier of the schema that governs it, and what
is known under this identifier and under that of the target. -/
structure CastParties where
  entity : Entity
  sourceId : String
  source : Entity
  target : Entity

/-- Look for the parties of a cast. -/
def CastParties.found? (lookup : Lookup) (instanceId targetId : String) : Option CastParties :=
  (lookup instanceId).bind fun entity => (lookup targetId).bind fun target =>
    if entity.isSchema then none
    else
      entity.governedBy.bind fun sourceId =>
        (lookup sourceId).map fun source => ⟨entity, sourceId, source, target⟩

/-- The parties are those that a cast finds in a registry. -/
structure CastParties.AreFound (parties : CastParties) (lookup : Lookup)
    (instanceId targetId : String) : Prop where
  entity : lookup instanceId = some parties.entity
  target : lookup targetId = some parties.target
  isInstance : parties.entity.isSchema = false
  governedBy : parties.entity.governedBy = some parties.sourceId
  source : lookup parties.sourceId = some parties.source

/-- What a cast should ask for: an identifier that is not that of a type, under which an instance is
known, and schemas under the identifier that governs the instance and under that of the target. -/
def MayCast (lookup : Lookup) (instanceId targetId : String) : Prop :=
  Text.endsWith "~" instanceId = false ∧ ∃ parties : CastParties,
    parties.AreFound lookup instanceId targetId ∧
      parties.source.isSchema = true ∧ parties.target.isSchema = true

section Steps

variable {lookup : Lookup} {instanceId targetId : String}

/-- The parties are found exactly if looking for them ends at them. -/
theorem CastParties.areFound_iff {parties : CastParties} :
    parties.AreFound lookup instanceId targetId ↔
      found? lookup instanceId targetId = some parties := by
  constructor
  · rintro ⟨hentity, htarget, hinstance, hgoverned, hsource⟩
    simp [found?, hentity, htarget, hinstance, hgoverned, hsource]
  · intro hfound
    simp only [found?, Option.bind_eq_some_iff, Option.map_eq_some_iff,
      Option.ite_none_left_eq_some, Bool.not_eq_true] at hfound
    obtain ⟨entity, hentity, target, htarget, hinstance, sourceId, hgoverned, source, hsource, rfl⟩ :=
      hfound
    exact ⟨hentity, htarget, hinstance, hgoverned, hsource⟩

/-- The parties of a cast are determined by what is known. -/
theorem CastParties.AreFound.unique {first second : CastParties}
    (h : first.AreFound lookup instanceId targetId)
    (h' : second.AreFound lookup instanceId targetId) : first = second := by
  rw [areFound_iff] at h h'
  exact Option.some.inj (h.symm.trans h')

/-- Whether a cast may be made can be told from what is known. -/
instance : Decidable (MayCast lookup instanceId targetId) :=
  decidable_of_iff (Text.endsWith "~" instanceId = false ∧
      ∃ parties ∈ CastParties.found? lookup instanceId targetId,
        parties.source.isSchema = true ∧ parties.target.isSchema = true) <| by
    simp only [MayCast, CastParties.areFound_iff, Option.mem_def]

/-- A cast is refused for what it lacks, or its parties are found and it goes on between them. -/
theorem castInstance_cases (store : Store) (instanceId targetId : String) :
    (∃ fault, CastRefusal store.lookup? instanceId targetId fault ∧
      (castInstance store instanceId targetId).value = .error (.registry fault)) ∨
    ∃ parties : CastParties, parties.AreFound store.lookup? instanceId targetId ∧
      (castInstance store instanceId targetId).value =
        (castBetween store instanceId parties.sourceId targetId parties.entity.content
          parties.source.content parties.target.content).value := by
  cases hentity : store.lookup? instanceId with
  | none =>
    refine .inl ⟨_, .entityNotFound hentity, ?_⟩
    simp only [castInstance, bind, Consulted.bind, Consulted.ask, hentity]
    rfl
  | some entity =>
    cases htarget : store.lookup? targetId with
    | none =>
      refine .inl ⟨_, .targetNotFound hentity htarget, ?_⟩
      simp only [castInstance, bind, Consulted.bind, Consulted.ask, hentity, htarget]
      rfl
    | some target =>
      cases hinstance : entity.isSchema with
      | true =>
        refine .inl ⟨_, .castFromSchema hentity htarget hinstance, ?_⟩
        simp only [castInstance, bind, Consulted.bind, Consulted.ask, hentity, htarget, hinstance]
        rfl
      | false =>
        cases hgoverned : entity.governedBy with
        | none =>
          refine .inl ⟨_, .schemaUndeterminable hentity htarget hinstance hgoverned, ?_⟩
          simp only [castInstance, bind, Consulted.bind, Consulted.ask, hentity, htarget,
            hinstance, hgoverned]
          rfl
        | some sourceId =>
          cases hsource : store.lookup? sourceId with
          | none =>
            refine .inl ⟨_, .sourceNotFound hentity htarget hinstance hgoverned hsource, ?_⟩
            simp only [castInstance, bind, Consulted.bind, Consulted.ask, hentity, htarget,
              hinstance, hgoverned, hsource]
            rfl
          | some source =>
            refine .inr ⟨⟨entity, sourceId, source, target⟩,
              ⟨hentity, htarget, hinstance, hgoverned, hsource⟩, ?_⟩
            simp only [castInstance, bind, Consulted.bind, Consulted.ask, hentity, htarget,
              hinstance, hgoverned, hsource]
            rfl

/-- Only one thing is found lacking. -/
theorem CastRefusal.unique {first second : RegistryFault}
    (h : CastRefusal lookup instanceId targetId first)
    (h' : CastRefusal lookup instanceId targetId second) : first = second := by
  cases h <;> cases h' <;> simp_all

/-- Where the parties are found nothing is lacking. -/
theorem CastRefusal.not_areFound {fault : RegistryFault} {parties : CastParties}
    (h : CastRefusal lookup instanceId targetId fault) :
    ¬ parties.AreFound lookup instanceId targetId := by
  rintro ⟨hentity, htarget, hinstance, hgoverned, hsource⟩
  cases h <;> simp_all

end Steps

/-! ## Between the parties -/

namespace CastParties

/-- The two versions that are compared, the older one first: the target is the older one if the minor
version goes down. -/
def versions (parties : CastParties) (targetId : String) : Json × Json :=
  if Direction.between parties.sourceId targetId = .down then
    (parties.target.content, parties.source.content)
  else (parties.source.content, parties.target.content)

/-- The bounds of the two versions can be compared. -/
def AreComparable (parties : CastParties) (targetId : String) : Prop :=
  boundsAreRepresentable (parties.versions targetId).1 (parties.versions targetId).2 = true

/-- The check of the content that was carried over comes to a verdict, whichever. -/
def AreJudged (parties : CastParties) (store : Store) : Prop :=
  ∃ verdict, (validate store parties.target.content.relax
    (.obj (castObject parties.target.content "" parties.entity.content.members).members)).value =
      .ok verdict

end CastParties

/-- Content that was carried over is reported on exactly if its check comes to a verdict, and the
registry is not to blame if there is no report. -/
theorem castReport_value (store : Store) (comparison : CompatibilityReport) (parties : CastParties) :
    ((∃ report, (castReport store comparison parties.entity.content parties.target.content).value =
        .ok report) ↔ parties.AreJudged store) ∧
      ∀ fault, (castReport store comparison parties.entity.content parties.target.content).value ≠
        .error (.registry fault) := by
  simp only [castReport, Consulted.mapValue, CastParties.AreJudged]
  rcases (validate store parties.target.content.relax (.obj (castObject parties.target.content ""
    parties.entity.content.members).members)).value with cause | fault | ⟨⟨⟩⟩ <;> simp

/-- Two schemas are compared, or a bound of theirs has no double. -/
theorem CompatibilityReport.build_cases (sourceId targetId oldId newId : String)
    (direction : Direction) (old new : Json) :
    (boundsAreRepresentable old new = true ∧ ∃ comparison,
      build sourceId targetId oldId newId direction old new = .ok comparison) ∨
    (¬ boundsAreRepresentable old new = true ∧
      build sourceId targetId oldId newId direction old new = .error .boundTooLarge) := by
  unfold build
  by_cases hbounds : boundsAreRepresentable old new = true
  · exact .inl ⟨hbounds, _, if_pos hbounds⟩
  · exact .inr ⟨hbounds, if_neg hbounds⟩

/-- A cast between parties compares the two versions and then carries the content over. -/
theorem castBetween_cases (store : Store) (parties : CastParties) (instanceId targetId : String) :
    (parties.AreComparable targetId ∧ ∃ comparison,
      (castBetween store instanceId parties.sourceId targetId parties.entity.content
          parties.source.content parties.target.content).value =
        (castReport store comparison parties.entity.content parties.target.content).value) ∨
    (¬ parties.AreComparable targetId ∧
      (castBetween store instanceId parties.sourceId targetId parties.entity.content
          parties.source.content parties.target.content).value =
        .error (.comparison .boundTooLarge)) := by
  unfold castBetween CastParties.AreComparable CastParties.versions
  by_cases hdown : Direction.between parties.sourceId targetId = .down
  · simp only [if_pos hdown]
    rcases CompatibilityReport.build_cases instanceId targetId targetId parties.sourceId
        (Direction.between parties.sourceId targetId) parties.target.content parties.source.content
      with ⟨hbounds, comparison, hbuild⟩ | ⟨hbounds, hbuild⟩
    · exact .inl ⟨hbounds, comparison, by rw [hbuild]⟩
    · exact .inr ⟨hbounds, by rw [hbuild]; rfl⟩
  · simp only [if_neg hdown]
    rcases CompatibilityReport.build_cases instanceId targetId parties.sourceId targetId
        (Direction.between parties.sourceId targetId) parties.source.content parties.target.content
      with ⟨hbounds, comparison, hbuild⟩ | ⟨hbounds, hbuild⟩
    · exact .inl ⟨hbounds, comparison, by rw [hbuild]⟩
    · exact .inr ⟨hbounds, by rw [hbuild]; rfl⟩

/-- A cast between parties is reported on exactly if they can be compared and come to a verdict, and
the registry is not to blame if there is no report. -/
theorem castBetween_value (store : Store) (parties : CastParties) (instanceId targetId : String) :
    ((∃ report, (castBetween store instanceId parties.sourceId targetId parties.entity.content
          parties.source.content parties.target.content).value = .ok report) ↔
        parties.AreComparable targetId ∧ parties.AreJudged store) ∧
      ∀ fault, (castBetween store instanceId parties.sourceId targetId parties.entity.content
          parties.source.content parties.target.content).value ≠ .error (.registry fault) := by
  rcases castBetween_cases store parties instanceId targetId with
    ⟨hcomparable, comparison, hvalue⟩ | ⟨hbounds, hvalue⟩
  · rw [hvalue, and_iff_right hcomparable]
    exact castReport_value store comparison parties
  · rw [hvalue]
    simp [hbounds]

/-! ## The main statement -/

/-- Where the parties of a cast are found, it may be made exactly if the identifier of the instance is
not that of a type and both the source and the target are schemas. -/
theorem CastParties.AreFound.mayCast_iff {lookup : Lookup} {instanceId targetId : String}
    {parties : CastParties} (h : parties.AreFound lookup instanceId targetId) :
    MayCast lookup instanceId targetId ↔ Text.endsWith "~" instanceId = false ∧
      parties.source.isSchema = true ∧ parties.target.isSchema = true := by
  refine and_congr_right fun _ => ⟨?_, fun hschemas => ⟨parties, h, hschemas⟩⟩
  rintro ⟨others, hothers, hschemas⟩
  rwa [h.unique hothers]

/-- What a cast asks for.

- It is refused with a fault of the registry exactly for what it lacks: the instance, the target, an
  instance that is no schema, a governing schema or what is known under that, in this order.
- It returns a report exactly if its parties are found, the bounds of the two versions can be compared
  and the check of the content that was carried over comes to a verdict.
- So it returns a report exactly if it may be made, and is refused by the registry otherwise, unless
  its parties are found although the instance has the identifier of a type, or the source or the
  target is no schema, or they cannot be compared or come to no verdict. -/
theorem castInstance_preconditions (store : Store) (instanceId targetId : String) :
    (∀ fault, (castInstance store instanceId targetId).value = .error (.registry fault) ↔
      CastRefusal store.lookup? instanceId targetId fault) ∧
    ((∃ report, (castInstance store instanceId targetId).value = .ok report) ↔
      ∃ parties : CastParties, parties.AreFound store.lookup? instanceId targetId ∧
        parties.AreComparable targetId ∧ parties.AreJudged store) ∧
    ((((∃ report, (castInstance store instanceId targetId).value = .ok report) ↔
          MayCast store.lookup? instanceId targetId) ∧
        (¬ MayCast store.lookup? instanceId targetId →
          ∃ fault, (castInstance store instanceId targetId).value = .error (.registry fault))) ↔
      ∀ parties : CastParties, parties.AreFound store.lookup? instanceId targetId →
        Text.endsWith "~" instanceId = false ∧ parties.source.isSchema = true ∧
          parties.target.isSchema = true ∧ parties.AreComparable targetId ∧
          parties.AreJudged store) := by
  rcases castInstance_cases store instanceId targetId with
    ⟨fault, hrefusal, hvalue⟩ | ⟨parties, hfound, hvalue⟩
  case inl =>
    have hmay : ¬ MayCast store.lookup? instanceId targetId :=
      fun ⟨_, _, hfound, _⟩ => hrefusal.not_areFound hfound
    rw [hvalue]
    refine ⟨fun other => ⟨?_, ?_⟩, ?_, ?_⟩
    · intro hother
      obtain rfl := CastFault.registry.inj (Except.error.inj hother)
      exact hrefusal
    · intro hother
      rw [hrefusal.unique hother]
    · exact iff_of_false (by simp) fun ⟨_, hfound, _⟩ => hrefusal.not_areFound hfound
    · exact iff_of_true ⟨iff_of_false (by simp) hmay, fun _ => ⟨fault, rfl⟩⟩
        fun _ hfound => absurd hfound hrefusal.not_areFound
  case inr =>
    obtain ⟨hreport, hblameless⟩ := castBetween_value store parties instanceId targetId
    rw [hvalue, hreport, hfound.mayCast_iff]
    refine ⟨fun fault => ?_, ?_, ?_⟩
    · exact iff_of_false (hblameless fault) fun hrefusal => hrefusal.not_areFound hfound
    · constructor
      · intro h
        exact ⟨parties, hfound, h⟩
      · rintro ⟨others, hothers, h⟩
        rwa [hfound.unique hothers]
    · have hnone : ¬ ∃ fault, (castBetween store instanceId parties.sourceId targetId
          parties.entity.content parties.source.content parties.target.content).value =
          .error (.registry fault) := fun ⟨fault, h⟩ => hblameless fault h
      constructor
      · rintro ⟨hsame, hrefused⟩ others hothers
        obtain rfl := hfound.unique hothers
        have hmay := Classical.byContradiction fun hmay => hnone (hrefused hmay)
        obtain ⟨hcomparable, hjudged⟩ := hsame.2 hmay
        exact ⟨hmay.1, hmay.2.1, hmay.2.2, hcomparable, hjudged⟩
      · intro hall
        obtain ⟨htype, hsource, htarget, hcomparable, hjudged⟩ := hall parties hfound
        exact ⟨iff_of_true ⟨hcomparable, hjudged⟩ ⟨htype, hsource, htarget⟩,
          fun hmay => absurd ⟨htype, hsource, htarget⟩ hmay⟩

/-- The store that some documents are registered in, one after the other. -/
def storeOf (documents : List Json) : Store :=
  documents.foldl (fun store document =>
    (store.register (Entity.ofContent {} none document) none).2) {}

/-- Documents of an item and of a gift that is an instance of it, with further members. -/
def itemWith (members : Json.Members) : Json :=
  .obj (("$id", .str "gts://gts.acme.shop.cart.item.v1~") :: members)

def giftWith (members : Json.Members) : Json :=
  .obj (("id", .str "gts.acme.shop.cart.item.v1~acme.shop.cart.gift.v1") :: members)

/-- The member of a document that declares it a schema. -/
def dialectMember : String × Json :=
  ("$schema", .str "http://json-schema.org/draft-07/schema#")

/-- Whether a cast in a store of documents returns a report, and whether it may be made. -/
def castOutcome (documents : List Json) (instanceId targetId : String) : Bool × Bool :=
  let store := storeOf documents
  ((castInstance store instanceId targetId).value.toOption.isSome,
    decide (MayCast store.lookup? instanceId targetId))

/-- A gift is cast to its type, as it may be. -/
example :
    castOutcome [itemWith [dialectMember], giftWith []]
      "gts.acme.shop.cart.item.v1~acme.shop.cart.gift.v1" "gts.acme.shop.cart.item.v1~" =
        (true, true) := by
  decide +kernel

/-- A cast returns a report although it may not be made: to an instance, from an item that is no
schema, and of an instance with the identifier of a type.  It may be made and returns no report: with
a bound that has no double. -/
theorem castInstance_mistakes :
    castOutcome [itemWith [dialectMember], giftWith []]
        "gts.acme.shop.cart.item.v1~acme.shop.cart.gift.v1"
        "gts.acme.shop.cart.item.v1~acme.shop.cart.gift.v1" = (true, false) ∧
    castOutcome [itemWith [], giftWith [], .obj [("$id", .str "gts.acme.shop.cart.note.v1~"),
          dialectMember]]
        "gts.acme.shop.cart.item.v1~acme.shop.cart.gift.v1" "gts.acme.shop.cart.note.v1~" =
      (true, false) ∧
    castOutcome [itemWith [dialectMember], .obj [("id", .str "gts.acme.shop.cart.gift.v1~"),
          ("type", .str "gts.acme.shop.cart.item.v1~")]]
        "gts.acme.shop.cart.gift.v1~" "gts.acme.shop.cart.item.v1~" = (true, false) ∧
    castOutcome [itemWith [dialectMember, ("properties", .obj [("count", .obj
          [("type", .str "integer"), ("maximum", .int (10 ^ 400))])])], giftWith []]
        "gts.acme.shop.cart.item.v1~acme.shop.cart.gift.v1" "gts.acme.shop.cart.item.v1~" =
      (false, true) := by
  refine ⟨?_, ?_, ?_, ?_⟩
  all_goals decide +kernel

end TypeRegistry
