import TypeRegistry.Proofs.Schema.Duality
import TypeRegistry.Schema.Report

/-!
# The comparison of a schema with itself

A schema violates nothing of itself, in either mode and however it is composed: it requires what it
requires, its types and enumerations are what they are, and no bound is tighter than itself, not even
one that is no number.

Main results:

- Theorem `violations_self`: a schema compared with itself violates nothing.
- Theorem `CompatibilityReport.isFull_self`: a schema is fully compatible with itself.
-/

namespace TypeRegistry

open Dictionary

/-- No double is less than itself. -/
theorem Double.less_self (x : Double) : x.less x = false := by
  rw [Double.less]
  cases Exact.ofDouble x with
  | dyadic whole exponent => simp [Exact.lt]
  | infinite negative => cases negative <;> rfl
  | undefined => rfl

/-- A bound is no tighter than itself. -/
theorem tightens_self (rangeEnd : RangeEnd) (bound : Double) :
    tightens rangeEnd bound bound = false := by
  cases rangeEnd <;> exact bound.less_self

theorem newcomers_self (names : List String) : newcomers names names = [] :=
  (newcomers_eq_nil_iff names names).2 (List.Subset.refl names)

section Properties

variable (mode : Mode) (property : String) (members : Json.Members)

theorem typeViolations_self : typeViolations property members members = [] :=
  if_neg fun h => h.2.2 rfl

theorem enumViolations_self : enumViolations mode property members members = [] := by
  rw [enumViolations.eq_def]
  cases enumeration? members with
  | none => rfl
  | some values => cases mode <;> simp [newcomers_self]

theorem boundViolations_self (rangeEnd : RangeEnd) :
    boundViolations mode property members members rangeEnd = [] := by
  rw [boundViolations.eq_def]
  cases boundKeyword? (declaredType members) rangeEnd with
  | none => rfl
  | some keyword =>
    cases hbound : bound? members keyword with
    | none => cases mode <;> simp only [hbound]
    | some bound => cases mode <;> simp [hbound, tightens_self]

/-- A property violates nothing of itself. -/
theorem propertyViolations_self : propertyViolations mode property members members = [] := by
  rw [propertyViolations, typeViolations_self, enumViolations_self, boundViolations_self,
    boundViolations_self]
  rfl

end Properties

/-- A schema is compared with itself at every level. -/
theorem ComparedLevel.eq_of_eq {old new levelOld levelNew : Json}
    (h : ComparedLevel old new levelOld levelNew) (hsame : old = new) : levelOld = levelNew := by
  induction h with
  | self => exact hsame
  | object hold hnew _ _ _ ih =>
    subst hsame
    exact ih (Option.some.inj (hold.symm.trans hnew))
  | items hold hnew _ _ holdItems hnewItems _ ih =>
    subst hsame
    obtain rfl := Json.obj.inj (Option.some.inj (hold.symm.trans hnew))
    exact ih (Option.some.inj (holdItems.symm.trans hnewItems))

/-- A schema compared with itself violates nothing. -/
theorem violations_self (mode : Mode) (schema : Json) : violations mode schema schema = [] := by
  refine violations_eq_nil_iff.2 ⟨?_, ?_⟩
  · intro levelOld levelNew hlevel
    rw [hlevel.eq_of_eq rfl, requiredViolations_eq_nil_iff]
    cases mode <;> exact List.Subset.refl _
  · rintro name inOld inNew ⟨levelOld, levelNew, hlevel, hold, hnew⟩
    rw [hlevel.eq_of_eq rfl] at hold
    obtain rfl := Json.obj.inj (Option.some.inj (hold.symm.trans hnew))
    exact propertyViolations_self mode name inOld

/-- A schema whose bounds can be compared is fully compatible with itself. -/
theorem CompatibilityReport.isFull_self {schema : Json}
    (hbounds : boundsAreRepresentable schema schema = true)
    (sourceId targetId oldId newId : String) (direction : Direction) :
    ∃ report, build sourceId targetId oldId newId direction schema schema = .ok report ∧
      report.isBackward = true ∧ report.isForward = true := by
  refine ⟨_, if_pos hbounds, ?_, ?_⟩
  · show (List.map _ (violations .backward schema schema)).isEmpty = true
    rw [violations_self]
    rfl
  · show (List.map _ (violations .forward schema schema)).isEmpty = true
    rw [violations_self]
    rfl

end TypeRegistry
