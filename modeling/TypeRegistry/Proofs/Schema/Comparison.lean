import TypeRegistry.Schema.Difference

/-!
# One level of a comparison

Two schemas are compared level by level: their violations, the bounds that have to have doubles and
the difference of their properties are found by going through the common properties in turn.  What
is found at a property depends on the two schemas that stand there, and nothing is found if one of
them is no object.  Stated once, this is all that is needed of the three recursions.

Main results:

- Definition `onObjects`: the verdict on the two objects under a name, and a default if there are
  no two.
- Theorem `onObjects_ind`: what holds of the default and of every such verdict.
- Theorem `onObjects_swap`: verdicts on exchanged dictionaries.
- Theorems `violations_eq`, `boundsAreRepresentable_eq`, `differenceAt_eq`: what is found at a
  level.
- Definition `ComparedBelow`: the schemas that a comparison goes on to from a property.
- Theorems `violations_eq_nil_iff_level`, `boundsAreRepresentable_iff_level`: what it takes, level by
  level, that nothing is violated and that bounds have doubles.
-/

namespace TypeRegistry

open Dictionary

/-! ## Verdicts on objects -/

/-- The verdict on what stands under a name in two dictionaries, and a default if it is not an
object in one of them. -/
def onObjects {α : Type} (default : α) (judge : Json.Members → Json.Members → α) (name : String)
    (old new : Json.Members) : α :=
  match _hfound : find? name old, find? name new with
  | some (.obj inOld), some (.obj inNew) => judge inOld inNew
  | _, _ => default

section OnObjects

variable {α : Type} {default : α} {judge : Json.Members → Json.Members → α} {name : String}
  {old new : Json.Members}

theorem onObjects_of_objects {inOld inNew : Json.Members}
    (hold : find? name old = some (.obj inOld)) (hnew : find? name new = some (.obj inNew)) :
    onObjects default judge name old new = judge inOld inNew := by
  unfold onObjects
  split
  next ho hn =>
    obtain rfl := Json.obj.inj (Option.some.inj (hold.symm.trans ho))
    obtain rfl := Json.obj.inj (Option.some.inj (hnew.symm.trans hn))
    rfl
  next hother => exact absurd hnew (hother _ _ hold)

theorem onObjects_of_other (h : ∀ inOld inNew, find? name old = some (.obj inOld) →
    find? name new ≠ some (.obj inNew)) : onObjects default judge name old new = default := by
  unfold onObjects
  split
  next hold hnew => exact absurd hnew (h _ _ hold)
  next => rfl

/-- What holds of the default, and of every verdict on objects under the name. -/
theorem onObjects_ind {P : α → Prop} (hdefault : P default)
    (hjudge : ∀ inOld inNew, find? name old = some (.obj inOld) →
      find? name new = some (.obj inNew) → P (judge inOld inNew)) :
    P (onObjects default judge name old new) := by
  unfold onObjects
  split
  next hold hnew => exact hjudge _ _ hold hnew
  next => exact hdefault

/-- Where it holds of the default, it holds of the verdict exactly if it does of that on two objects.
-/
theorem onObjects_iff {P : α → Prop} (hdefault : P default) :
    P (onObjects default judge name old new) ↔
      ∀ inOld inNew, find? name old = some (.obj inOld) → find? name new = some (.obj inNew) →
        P (judge inOld inNew) := by
  constructor
  · intro h inOld inNew hold hnew
    rwa [onObjects_of_objects hold hnew] at h
  · exact onObjects_ind hdefault

/-- What is in a list that is empty unless there are two objects is in that of two objects. -/
theorem mem_onObjects_iff {β : Type} {judge : Json.Members → Json.Members → List β} {found : β} :
    found ∈ onObjects [] judge name old new ↔
      ∃ inOld inNew, find? name old = some (.obj inOld) ∧ find? name new = some (.obj inNew) ∧
        found ∈ judge inOld inNew := by
  constructor
  · exact onObjects_ind (P := fun all => found ∈ all → ∃ inOld inNew,
      find? name old = some (.obj inOld) ∧ find? name new = some (.obj inNew) ∧
        found ∈ judge inOld inNew) (fun h => absurd h List.not_mem_nil)
      fun inOld inNew hold hnew h => ⟨inOld, inNew, hold, hnew, h⟩
  · rintro ⟨inOld, inNew, hold, hnew, h⟩
    rwa [onObjects_of_objects hold hnew]

/-- Verdicts on exchanged dictionaries are related if those on exchanged objects are. -/
theorem onObjects_swap {β : Type} {f : α → β} {default' : β}
    {judge' : Json.Members → Json.Members → β} (hdefault : default' = f default)
    (hjudge : ∀ inOld inNew, find? name old = some (.obj inOld) →
      find? name new = some (.obj inNew) → judge' inNew inOld = f (judge inOld inNew)) :
    onObjects default' judge' name new old = f (onObjects default judge name old new) := by
  by_cases hobjects : ∃ inOld inNew, find? name old = some (.obj inOld) ∧
      find? name new = some (.obj inNew)
  · obtain ⟨inOld, inNew, hold, hnew⟩ := hobjects
    rw [onObjects_of_objects hold hnew, onObjects_of_objects hnew hold, hjudge _ _ hold hnew]
  · rw [onObjects_of_other fun inOld inNew hold hnew => hobjects ⟨inOld, inNew, hold, hnew⟩,
      onObjects_of_other fun inNew inOld hnew hold => hobjects ⟨inOld, inNew, hold, hnew⟩,
      hdefault]

end OnObjects

/-! ## What is found at a level -/

/-- The violations at a common property and below it. -/
def violationsAt (mode : Mode) (name : String) (old new : Json.Members) : List Violation :=
  propertyViolations mode name old new ++
    (if declaredType old = "object" ∧ declaredType new = "object" then
      (violations mode (.obj old) (.obj new)).map (.inObject name)
    else []) ++
    (if declaredType old = "array" ∧ declaredType new = "array" then
      onObjects [] (fun inOld inNew =>
        (violations mode (.obj inOld) (.obj inNew)).map (.inItems name)) "items" old new
    else [])

/-- Whether the bounds that are compared at a common property and below it have doubles. -/
def boundsAt (old new : Json.Members) : Bool :=
  propertyBoundsAreRepresentable old new &&
    (if declaredType old = "object" ∧ declaredType new = "object" then
      boundsAreRepresentable (.obj old) (.obj new)
    else true) &&
    (if declaredType old = "array" ∧ declaredType new = "array" then
      onObjects true (fun inOld inNew => boundsAreRepresentable (.obj inOld) (.obj inNew)) "items"
        old new
    else true)

/-- What differs at a common property and below it. -/
def differenceUnder (path name : String) (old new : Json.Members) : Difference :=
  if Json.sameValue (.obj old) (.obj new) then {}
  else if declaredType old = "object" ∧ declaredType new = "object" then
    differenceAt (path ++ name ++ ".") (.obj old) (.obj new)
  else ⟨[], [], [⟨path ++ name, declaredType old, declaredType new⟩]⟩

/-- Violations are found by required names and at every common property. -/
theorem violations_eq (mode : Mode) (old new : Json) :
    violations mode old new = requiredViolations mode old.flatten new.flatten ++
      (commonNames old.flatten new.flatten).flatMap fun name =>
        onObjects [] (violationsAt mode name) name old.flatten.properties
          new.flatten.properties := by
  rw [violations]
  rfl

/-- Bounds can be compared if those at every common property can. -/
theorem boundsAreRepresentable_eq (old new : Json) :
    boundsAreRepresentable old new = (commonNames old.flatten new.flatten).all fun name =>
      onObjects true boundsAt name old.flatten.properties new.flatten.properties := by
  rw [boundsAreRepresentable]
  rfl

/-- Differences are found by names that only one version has and at every common property. -/
theorem differenceAt_eq (path : String) (old new : Json) :
    differenceAt path old new = Difference.append
      ⟨pathsMissing path new.flatten.properties old.flatten.properties,
        pathsMissing path old.flatten.properties new.flatten.properties, []⟩
      (Difference.concat ((commonNames old.flatten new.flatten).map fun name =>
        onObjects {} (differenceUnder path name) name old.flatten.properties
          new.flatten.properties)) := by
  rw [differenceAt]
  rfl

/-! ## Going on below a property -/

/-- A property that both versions have is a common one. -/
theorem mem_commonNames {old new : FlatSchema} {name : String} {inOld inNew : Json}
    (hold : find? name old.properties = some inOld)
    (hnew : find? name new.properties = some inNew) : name ∈ commonNames old new := by
  rw [commonNames, Text.mem_sortedDistinct, List.mem_filter, ← has_iff_mem_keys]
  exact ⟨by simp [has, hold], by simp [has, hnew]⟩

/-- Something holds of the verdicts on all common properties exactly if it holds of those on all
names under which both versions have an object. -/
theorem forall_commonNames_iff {α : Type} {default : α}
    {judge : String → Json.Members → Json.Members → α} {P : α → Prop} (hdefault : P default)
    {old new : FlatSchema} :
    (∀ name ∈ commonNames old new,
        P (onObjects default (judge name) name old.properties new.properties)) ↔
      ∀ name inOld inNew, find? name old.properties = some (.obj inOld) →
        find? name new.properties = some (.obj inNew) → P (judge name inOld inNew) := by
  constructor
  · intro h name inOld inNew hold hnew
    exact (onObjects_iff hdefault).1 (h name (mem_commonNames hold hnew)) inOld inNew hold hnew
  · exact fun h name _ => (onObjects_iff hdefault).2 (h name)

/-- The schemas that a comparison goes on to from the versions of a property: these themselves, if
both are typed as objects, and their items, if both are typed as arrays and have objects there. -/
inductive ComparedBelow (old new : Json.Members) : Json.Members → Json.Members → Prop
  | object (hold : declaredType old = "object") (hnew : declaredType new = "object") :
      ComparedBelow old new old new
  | items {itemOld itemNew : Json.Members} (hold : declaredType old = "array")
      (hnew : declaredType new = "array") (holdItems : find? "items" old = some (.obj itemOld))
      (hnewItems : find? "items" new = some (.obj itemNew)) : ComparedBelow old new itemOld itemNew

/-- What is compared below a property is smaller than the schema that has the property. -/
theorem ComparedBelow.sizeOf_lt {old : Json} {name : String}
    {inOld inNew belowOld belowNew : Json.Members}
    (hbelow : ComparedBelow inOld inNew belowOld belowNew)
    (hold : find? name old.flatten.properties = some (.obj inOld)) :
    sizeOf (Json.obj belowOld) < sizeOf old := by
  have hproperty := Json.sizeOf_lt_of_find?_flatten hold
  cases hbelow with
  | object _ _ => exact hproperty
  | items _ _ holdItems _ =>
    have hitems := Json.sizeOf_lt_of_find? holdItems
    rw [Json.obj.sizeOf_spec] at hproperty
    omega

/-- Something is asked of all schemas below a property exactly if it is asked of those of objects and
of those of items. -/
theorem forall_comparedBelow_iff {old new : Json.Members} {P : Json.Members → Json.Members → Prop} :
    (∀ belowOld belowNew, ComparedBelow old new belowOld belowNew → P belowOld belowNew) ↔
      (declaredType old = "object" ∧ declaredType new = "object" → P old new) ∧
      (declaredType old = "array" ∧ declaredType new = "array" →
        ∀ itemOld itemNew, find? "items" old = some (.obj itemOld) →
          find? "items" new = some (.obj itemNew) → P itemOld itemNew) := by
  constructor
  · intro h
    exact ⟨fun htypes => h _ _ (.object htypes.1 htypes.2),
      fun htypes _ _ holdItems hnewItems => h _ _ (.items htypes.1 htypes.2 holdItems hnewItems)⟩
  · rintro ⟨hobject, hitems⟩ belowOld belowNew hbelow
    cases hbelow with
    | object hold hnew => exact hobject ⟨hold, hnew⟩
    | items hold hnew holdItems hnewItems => exact hitems ⟨hold, hnew⟩ _ _ holdItems hnewItems

/-- Nothing is violated at a property exactly if it violates nothing and nothing is below it. -/
theorem violationsAt_eq_nil_iff {mode : Mode} {name : String} {old new : Json.Members} :
    violationsAt mode name old new = [] ↔
      propertyViolations mode name old new = [] ∧
      ∀ belowOld belowNew, ComparedBelow old new belowOld belowNew →
        violations mode (.obj belowOld) (.obj belowNew) = [] := by
  rw [forall_comparedBelow_iff, violationsAt, List.append_eq_nil_iff, List.append_eq_nil_iff,
    and_assoc]
  refine and_congr_right' (and_congr ?_ ?_)
  · rw [ite_eq_right_iff, List.map_eq_nil_iff]
  · rw [ite_eq_right_iff, onObjects_iff (P := (· = [])) rfl]
    simp only [List.map_eq_nil_iff]

/-- Bounds at a property and below it have doubles exactly if those at the property do and those
below it do. -/
theorem boundsAt_iff {old new : Json.Members} :
    boundsAt old new = true ↔
      propertyBoundsAreRepresentable old new = true ∧
      ∀ belowOld belowNew, ComparedBelow old new belowOld belowNew →
        boundsAreRepresentable (.obj belowOld) (.obj belowNew) = true := by
  rw [forall_comparedBelow_iff, boundsAt, Bool.and_eq_true, Bool.and_eq_true, and_assoc]
  refine and_congr_right' (and_congr ?_ ?_)
  · rw [ite_eq_right_iff]
  · rw [ite_eq_right_iff, onObjects_iff (P := (· = true)) rfl]

/-- Nothing is violated between two schemas exactly if their required names violate nothing, and
neither does a common property, nor what is compared below it. -/
theorem violations_eq_nil_iff_level {mode : Mode} {old new : Json} :
    violations mode old new = [] ↔
      requiredViolations mode old.flatten new.flatten = [] ∧
      ∀ name inOld inNew, find? name old.flatten.properties = some (.obj inOld) →
        find? name new.flatten.properties = some (.obj inNew) →
          propertyViolations mode name inOld inNew = [] ∧
          ∀ belowOld belowNew, ComparedBelow inOld inNew belowOld belowNew →
            violations mode (.obj belowOld) (.obj belowNew) = [] := by
  rw [violations_eq, List.append_eq_nil_iff, List.flatMap_eq_nil_iff,
    forall_commonNames_iff (P := (· = [])) rfl]
  simp only [violationsAt_eq_nil_iff]

/-- The bounds of two schemas have doubles exactly if those at every common property do, and those
that are compared below it. -/
theorem boundsAreRepresentable_iff_level {old new : Json} :
    boundsAreRepresentable old new = true ↔
      ∀ name inOld inNew, find? name old.flatten.properties = some (.obj inOld) →
        find? name new.flatten.properties = some (.obj inNew) →
          propertyBoundsAreRepresentable inOld inNew = true ∧
          ∀ belowOld belowNew, ComparedBelow inOld inNew belowOld belowNew →
            boundsAreRepresentable (.obj belowOld) (.obj belowNew) = true := by
  rw [boundsAreRepresentable_eq, List.all_eq_true,
    forall_commonNames_iff (P := (· = true)) rfl]
  simp only [boundsAt_iff]

end TypeRegistry
