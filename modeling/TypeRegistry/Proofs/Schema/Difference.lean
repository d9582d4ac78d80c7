import TypeRegistry.Proofs.Json.Equality
import TypeRegistry.Proofs.Schema.Comparison
import TypeRegistry.Proofs.Schema.FullCompatibility
import TypeRegistry.Proofs.Sorting

/-!
# Differences from both sides

A difference is found level by level.  It goes into a common property whose schemas differ if both
are typed as objects, and otherwise names the property with its two types.  All that it looks at is
the same from both sides, so exchanging the versions exchanges what came and what went, and the two
types of every change.

A report tells the difference only if every bound has a double that is compared.  Which bounds are
compared is not the same from both sides: those of the type that the version declares that comes
first.

Main results:

- Theorem `differenceAt_converse`: exchanging the versions gives the converse, at every level.
- Theorem `boundsAreRepresentable_both_iff`: the bounds that have to have doubles for two reports.
- Theorem `reports_converse`: two reports, each way one, are converse to each other, and there are
  two as far as bounds have doubles.
-/

namespace TypeRegistry

open Dictionary

/-! ## Exchanging the versions -/

/-- A change, told from the new version to the old one. -/
def PropertyChange.converse (change : PropertyChange) : PropertyChange :=
  ⟨change.path, change.newType, change.oldType⟩

namespace Difference

/-- A difference, told from the new version to the old one. -/
def converse (found : Difference) : Difference :=
  ⟨found.removed, found.added, found.changed.map (·.converse)⟩

theorem converse_append (first second : Difference) :
    (first.append second).converse = first.converse.append second.converse := by
  simp [converse, append]

theorem converse_concat (parts : List Difference) :
    (concat parts).converse = concat (parts.map converse) := by
  induction parts with
  | nil => rfl
  | cons first rest ih =>
    rw [List.map_cons, concat, List.foldr_cons, ← concat, converse_append, ih]
    rfl

end Difference

/-- Common names are the same whichever version comes first. -/
theorem commonNames_comm (old new : FlatSchema) : commonNames old new = commonNames new old := by
  refine Text.sortedDistinct_congr fun name => ?_
  simp only [List.mem_filter, has_iff_mem_keys, and_comm]

/-- Exchanging the versions gives the converse of what differs at a property, if it does so below
the property. -/
theorem differenceUnder_converse {path name : String} {old new : Json.Members}
    (hold : (Json.obj old).WellFormed) (hnew : (Json.obj new).WellFormed)
    (h : differenceAt (path ++ name ++ ".") (.obj new) (.obj old) =
      (differenceAt (path ++ name ++ ".") (.obj old) (.obj new)).converse) :
    differenceUnder path name new old = (differenceUnder path name old new).converse := by
  -- what decides how a property is told is the same from both sides
  have htypes : (declaredType new = "object" ∧ declaredType old = "object") ↔
      (declaredType old = "object" ∧ declaredType new = "object") := and_comm
  simp only [differenceUnder, Json.sameValue_comm hnew hold, htypes]
  split
  · rfl
  · split
    · exact h
    · rfl

/-- Exchanging the versions gives the converse of what differs, at every level and in the same
order. -/
theorem differenceAt_converse {path : String} {old new : Json} (hold : old.WellFormed)
    (hnew : new.WellFormed) : differenceAt path new old = (differenceAt path old new).converse := by
  induction hsize : sizeOf old using Nat.strongRecOn generalizing path old new with
  | ind size ih =>
    subst hsize
    rw [differenceAt_eq, differenceAt_eq, Difference.converse_append, Difference.converse_concat,
      commonNames_comm, List.map_map]
    congr 2
    refine List.map_congr_left fun name _ => ?_
    refine onObjects_swap rfl fun inOld inNew hinOld hinNew => ?_
    have hwellOld := hold.inside (Json.inside_of_find?_flatten hinOld)
    have hwellNew := hnew.inside (Json.inside_of_find?_flatten hinNew)
    exact differenceUnder_converse hwellOld hwellNew
      (ih _ (Json.sizeOf_lt_of_find?_flatten hinOld) hwellOld hwellNew rfl)

/-- Exchanging the versions gives the converse of their difference. -/
theorem difference_converse {old new : Json} (hold : old.WellFormed) (hnew : new.WellFormed) :
    difference new old = (difference old new).converse := by
  rw [difference, difference, differenceAt_converse hold hnew]
  rfl

/-- There is a report exactly if the bounds can be compared, and it tells what the schemas say. -/
theorem CompatibilityReport.build_eq_ok_iff {sourceId targetId oldId newId : String}
    {direction : Direction} {old new : Json} {report : CompatibilityReport} :
    build sourceId targetId oldId newId direction old new = .ok report ↔
      boundsAreRepresentable old new = true ∧
        ofSchemas sourceId targetId oldId newId direction old new = report := by
  unfold build
  split
  next hbounds => simp [hbounds]
  next hbounds => simp [hbounds]

/-- The bounds of two versions can be compared both ways exactly if those of the types that either
version declares have doubles. -/
theorem boundsAreRepresentable_both_iff {old new : Json} :
    boundsAreRepresentable old new = true ∧ boundsAreRepresentable new old = true ↔
      ∀ name inOld inNew, ComparedProperty old new name inOld inNew →
        ∀ rangeEnd keyword,
          (boundKeyword? (declaredType inOld) rangeEnd = some keyword ∨
            boundKeyword? (declaredType inNew) rangeEnd = some keyword) →
          HasDouble keyword inOld ∧ HasDouble keyword inNew := by
  simp only [boundsAreRepresentable_iff, propertyBoundsAreRepresentable_iff]
  constructor
  · rintro ⟨hthere, hback⟩ name inOld inNew hcompared rangeEnd keyword (hkeyword | hkeyword)
    · exact hthere _ _ _ hcompared _ _ hkeyword
    · exact (hback _ _ _ hcompared.symm _ _ hkeyword).symm
  · intro h
    exact ⟨fun _ _ _ hcompared _ _ hkeyword => h _ _ _ hcompared _ _ (.inl hkeyword),
      fun _ _ _ hcompared _ _ hkeyword => (h _ _ _ hcompared.symm _ _ (.inr hkeyword)).symm⟩

/-- There are reports of two versions both ways exactly if every bound has a double that is compared
one way or the other, and then one report tells the converse of the other: what came is what went,
and the two types of every change are exchanged, in the same order. -/
theorem reports_converse {old new : Json} (hold : old.WellFormed) (hnew : new.WellFormed)
    (oldId newId : String) :
    (∀ there back, CompatibilityReport.ofVersions oldId newId old new = .ok there →
      CompatibilityReport.ofVersions newId oldId new old = .ok back →
        back.added = there.removed ∧ back.removed = there.added ∧
          back.changed = there.changed.map (·.converse)) ∧
    ((∃ there back, CompatibilityReport.ofVersions oldId newId old new = .ok there ∧
        CompatibilityReport.ofVersions newId oldId new old = .ok back) ↔
      ∀ name inOld inNew, ComparedProperty old new name inOld inNew →
        ∀ rangeEnd keyword,
          (boundKeyword? (declaredType inOld) rangeEnd = some keyword ∨
            boundKeyword? (declaredType inNew) rangeEnd = some keyword) →
          HasDouble keyword inOld ∧ HasDouble keyword inNew) := by
  constructor
  · intro there back hthere hback
    obtain ⟨-, rfl⟩ := CompatibilityReport.build_eq_ok_iff.1 hthere
    obtain ⟨-, rfl⟩ := CompatibilityReport.build_eq_ok_iff.1 hback
    have hconverse := difference_converse hold hnew
    exact ⟨congrArg Difference.added hconverse, congrArg Difference.removed hconverse,
      congrArg Difference.changed hconverse⟩
  · rw [← boundsAreRepresentable_both_iff]
    constructor
    · rintro ⟨there, back, hthere, hback⟩
      exact ⟨(CompatibilityReport.build_eq_ok_iff.1 hthere).1,
        (CompatibilityReport.build_eq_ok_iff.1 hback).1⟩
    · rintro ⟨hthere, hback⟩
      exact ⟨_, _, CompatibilityReport.build_eq_ok_iff.2 ⟨hthere, rfl⟩,
        CompatibilityReport.build_eq_ok_iff.2 ⟨hback, rfl⟩⟩

/-- A customer with an address of the given properties, and other properties. -/
def customerSchema (address properties : Json.Members) : Json :=
  .obj [("properties", .obj (("address", .obj [("type", .str "object"),
    ("properties", .obj address)]) :: properties))]

/-- The type of a city changes two levels down, a postcode comes and a name goes: the report back
tells it all the other way round. -/
theorem reports_converse_customers :
    let old := customerSchema [("city", .obj [("type", .str "string")])] [("name", .obj [])]
    let new := customerSchema [("postcode", .obj []), ("city", .obj [("type", .str "object")])] []
    ∃ there back, CompatibilityReport.ofVersions "" "" old new = .ok there ∧
      CompatibilityReport.ofVersions "" "" new old = .ok back ∧
      there.added = ["address.postcode"] ∧ there.removed = ["name"] ∧
      there.changed = [⟨"address.city", "string", "object"⟩] ∧
      back.added = there.removed ∧ back.removed = there.added ∧
      back.changed = there.changed.map (·.converse) := by
  intro old new
  have hold : old.WellFormed := by
    simp [old, customerSchema, Json.WellFormed, Json.WellFormedMembers, keys]
  have hnew : new.WellFormed := by
    simp [new, customerSchema, Json.WellFormed, Json.WellFormedMembers, keys]
  have hthere : CompatibilityReport.ofVersions "" "" old new = .ok _ :=
    CompatibilityReport.build_eq_ok_iff.2 ⟨by decide +kernel, rfl⟩
  have hback : CompatibilityReport.ofVersions "" "" new old = .ok _ :=
    CompatibilityReport.build_eq_ok_iff.2 ⟨by decide +kernel, rfl⟩
  exact ⟨_, _, hthere, hback, by decide +kernel, by decide +kernel, by decide +kernel,
    (reports_converse hold hnew "" "").1 _ _ hthere hback⟩

/-- A minimum beyond all doubles has to be compared only if the version that comes first declares a
type that has one: the report back tells the change, and there is no report that tells it the other
way. -/
theorem report_only_back :
    let huge := countSchema [("type", .str "number"), ("minimum", .int (10 ^ 400))]
    let anything := countSchema []
    CompatibilityReport.ofVersions "" "" huge anything = .error .boundTooLarge ∧
    (CompatibilityReport.ofVersions "" "" anything huge).toOption.map (·.changed) =
      some [⟨"count", "", "number"⟩] := by
  decide +kernel

end TypeRegistry
