import TypeRegistry.Proofs.Schema.Duality
import TypeRegistry.Schema.Report

/-!
# Full compatibility

A report finds two versions of a schema fully compatible if neither mode finds a violation.  Each
mode forbids one half of every difference, so together they leave no difference at all in what they
compare: the names that are required, and of every property the type, the keys of the enumeration
and the bounds.  The two comparisons are of one form at every level, and so is what they leave.

What is not compared may differ.  An empty type counts as none, and an undefined bound, which is
neither less nor greater than any other, agrees with every bound.  A bound without a double is
compared with none: then there is no report.

Main results:

- Definition `SameBound`, `SameConstraints`: bounds, and all that is compared at a property, are the
  same.
- Theorem `Exact.not_lt_both_iff`: values neither of which is less are equal, or one is undefined.
- Theorem `propertyViolations_both_iff`: no mode finds a violation at a property exactly if what is
  compared there is the same.
- Theorem `boundsAreRepresentable_iff`: the bounds that have to have doubles.
- Theorem `isFull_iff`: two versions are fully compatible exactly if their bounds have doubles and
  what is compared is the same at every level.
- Theorem `isFull_of_different`: fully compatible versions with different types and bounds.
-/

namespace TypeRegistry

open Dictionary

/-! ## Equal bounds -/

/-- Values neither of which is less than the other are equal, or one of them is undefined. -/
theorem Exact.not_lt_both_iff (x y : Exact) :
    x.lt y = false ∧ y.lt x = false ↔ x.eq y = true ∨ x = .undefined ∨ y = .undefined := by
  cases x with
  | dyadic m d =>
    cases y with
    | dyadic n e =>
      simp only [lt, eq, min_comm e d, decide_eq_false_iff_not, decide_eq_true_eq, reduceCtorEq,
        or_false]
      omega
    | infinite negative => cases negative <;> simp [lt, eq]
    | undefined => simp [lt]
  | infinite negative =>
    cases y with
    | dyadic n e => cases negative <;> simp [lt, eq]
    | infinite other => cases negative <;> cases other <;> simp [lt, eq]
    | undefined => simp [lt]
  | undefined => simp [lt]

/-- Only a double that is not a number has an undefined value. -/
theorem Exact.ofDouble_eq_undefined_iff {x : Double} : ofDouble x = .undefined ↔ x = .nan := by
  cases x <;> simp [ofDouble]

/-- Doubles neither of which is less than the other are equal, or one of them is not a number. -/
theorem Double.not_less_both_iff (x y : Double) :
    x.less y = false ∧ y.less x = false ↔
      (Exact.ofDouble x).eq (Exact.ofDouble y) = true ∨ x = .nan ∨ y = .nan := by
  rw [less, less, Exact.not_lt_both_iff, Exact.ofDouble_eq_undefined_iff,
    Exact.ofDouble_eq_undefined_iff]

/-- A bound is the same in two versions of a property: both have none, or both have one and these
are equal numbers, or one of them is not a number. -/
inductive SameBound (keyword : String) (old new : Json.Members) : Prop
  | absent (hold : bound? old keyword = none) (hnew : bound? new keyword = none)
  | equal {x y : Double} (hold : bound? old keyword = some x) (hnew : bound? new keyword = some y)
      (hequal : (Exact.ofDouble x).eq (Exact.ofDouble y) = true)
  | undefined {x y : Double} (hold : bound? old keyword = some x)
      (hnew : bound? new keyword = some y) (hundefined : x = .nan ∨ y = .nan)

/-- A bound that gets tighter neither way is the same. -/
theorem tightens_both_iff (rangeEnd : RangeEnd) (x y : Double) :
    tightens rangeEnd x y = false ∧ tightens rangeEnd y x = false ↔
      x.less y = false ∧ y.less x = false := by
  cases rangeEnd with
  | lower => rfl
  | upper => exact and_comm

/-- Both versions keep a bound of the other exactly if it is the same. -/
theorem boundKept_both_iff {keyword : String} (rangeEnd : RangeEnd) {old new : Json.Members} :
    BoundKept keyword rangeEnd new old ∧ BoundKept keyword rangeEnd old new ↔
      SameBound keyword old new := by
  constructor
  · rintro ⟨hbackward, hforward⟩
    cases hold : bound? old keyword with
    | none =>
      cases hnew : bound? new keyword with
      | none => exact .absent hold hnew
      | some y =>
        obtain ⟨x, hx, -⟩ := hbackward y hnew
        cases hold.symm.trans hx
    | some x =>
      obtain ⟨y, hnew, hless⟩ := hforward x hold
      obtain ⟨x', hx', hgreater⟩ := hbackward y hnew
      obtain rfl := Option.some.inj (hold.symm.trans hx')
      have hneither := (tightens_both_iff rangeEnd x y).1 ⟨hgreater, hless⟩
      obtain hequal | hundefined := (Double.not_less_both_iff x y).1 hneither
      · exact .equal hold hnew hequal
      · exact .undefined hold hnew hundefined
  · have hkept {x y : Double} (hold : bound? old keyword = some x)
        (hnew : bound? new keyword = some y)
        (hsame : (Exact.ofDouble x).eq (Exact.ofDouble y) = true ∨ x = .nan ∨ y = .nan) :
        BoundKept keyword rangeEnd new old ∧ BoundKept keyword rangeEnd old new := by
      have hneither := (tightens_both_iff rangeEnd x y).2 ((Double.not_less_both_iff x y).2 hsame)
      constructor
      · intro bound hbound
        obtain rfl := Option.some.inj (hnew.symm.trans hbound)
        exact ⟨x, hold, hneither.1⟩
      · intro bound hbound
        obtain rfl := Option.some.inj (hold.symm.trans hbound)
        exact ⟨y, hnew, hneither.2⟩
    intro hsame
    cases hsame with
    | absent hold hnew =>
      constructor
      · intro bound hbound
        cases hnew.symm.trans hbound
      · intro bound hbound
        cases hold.symm.trans hbound
    | equal hold hnew hequal => exact hkept hold hnew (.inl hequal)
    | undefined hold hnew hundefined => exact hkept hold hnew (.inr hundefined)

/-! ## Equal constraints of a property -/

/-- What is compared at two versions of a property is the same: the types, as far as both declare
one that is not empty, the keys of the enumerations, if both have one, and the bounds of the type
that the old version declares. -/
structure SameConstraints (old new : Json.Members) : Prop where
  types : ∀ oldType newType, Json.getString? "type" old = some oldType →
    Json.getString? "type" new = some newType → oldType ≠ "" → newType ≠ "" → oldType = newType
  values : ∀ oldValues newValues, enumeration? old = some oldValues →
    enumeration? new = some newValues →
      ∀ key, key ∈ oldValues.map valueKey ↔ key ∈ newValues.map valueKey
  bounds : ∀ rangeEnd keyword, boundKeyword? (declaredType old) rangeEnd = some keyword →
    SameBound keyword old new

/-- Declared types differ exactly if both are given, neither is empty, and they are not the same. -/
theorem declaredType_agree_iff {old new : Json.Members} :
    (declaredType old = "" ∨ declaredType new = "" ∨ declaredType old = declaredType new) ↔
      ∀ oldType newType, Json.getString? "type" old = some oldType →
        Json.getString? "type" new = some newType →
          oldType ≠ "" → newType ≠ "" → oldType = newType := by
  unfold declaredType
  cases Json.getString? "type" old with
  | none => simp
  | some oldType =>
    cases Json.getString? "type" new with
    | none => simp
    | some newType =>
      rw [Option.getD_some, Option.getD_some]
      constructor
      · rintro h _ _ ⟨⟩ ⟨⟩ hold hnew
        exact (h.resolve_left hold).resolve_left hnew
      · intro h
        by_cases hold : oldType = ""
        · exact .inl hold
        · by_cases hnew : newType = ""
          · exact .inr (.inl hnew)
          · exact .inr (.inr (h _ _ rfl rfl hold hnew))

/-- No mode finds a violation at a property exactly if what is compared there is the same. -/
theorem propertyViolations_both_iff (property : String) {old new : Json.Members} :
    propertyViolations .backward property old new = [] ∧
        propertyViolations .forward property old new = [] ↔
      SameConstraints old new := by
  have hvalues : enumViolations .backward property old new = [] ∧
      enumViolations .forward property old new = [] ↔
        ∀ oldValues newValues, enumeration? old = some oldValues →
          enumeration? new = some newValues →
            ∀ key, key ∈ oldValues.map valueKey ↔ key ∈ newValues.map valueKey := by
    rw [enumViolations_eq_nil_iff, enumViolations_eq_nil_iff]
    constructor
    · rintro ⟨hbackward, hforward⟩ oldValues newValues hold hnew key
      exact ⟨fun h => hforward _ _ hold hnew h, fun h => hbackward _ _ hnew hold h⟩
    · intro hsame
      exact ⟨fun read written hread hwritten key => (hsame _ _ hwritten hread key).2,
        fun read written hread hwritten key => (hsame _ _ hread hwritten key).1⟩
  have hbound (rangeEnd : RangeEnd) : boundViolations .backward property old new rangeEnd = [] ∧
      boundViolations .forward property old new rangeEnd = [] ↔
        ∀ keyword, boundKeyword? (declaredType old) rangeEnd = some keyword →
          SameBound keyword old new := by
    rw [boundViolations_eq_nil_iff, boundViolations_eq_nil_iff, ← forall_and]
    simp only [← forall_and, ← boundKept_both_iff rangeEnd, Mode.reader, Mode.writer]
  simp only [propertyViolations, List.append_eq_nil_iff]
  constructor
  · rintro ⟨⟨⟨⟨htypes, hold⟩, hlower⟩, hupper⟩, ⟨⟨-, hold'⟩, hlower'⟩, hupper'⟩
    refine ⟨declaredType_agree_iff.1 ((typeViolations_eq_nil_iff property).1 htypes),
      hvalues.1 ⟨hold, hold'⟩, fun rangeEnd => (hbound rangeEnd).1 ?_⟩
    cases rangeEnd with
    | lower => exact ⟨hlower, hlower'⟩
    | upper => exact ⟨hupper, hupper'⟩
  · rintro ⟨htypes, hsame, hbounds⟩
    have htypes := (typeViolations_eq_nil_iff property).2 (declaredType_agree_iff.2 htypes)
    obtain ⟨hold, hold'⟩ := hvalues.2 hsame
    obtain ⟨hlower, hlower'⟩ := (hbound .lower).2 (hbounds .lower)
    obtain ⟨hupper, hupper'⟩ := (hbound .upper).2 (hbounds .upper)
    exact ⟨⟨⟨⟨htypes, hold⟩, hlower⟩, hupper⟩, ⟨⟨htypes, hold'⟩, hlower'⟩, hupper'⟩

/-- No mode finds a violation by required names exactly if the same names are required. -/
theorem requiredViolations_both_iff {old new : FlatSchema} :
    requiredViolations .backward old new = [] ∧ requiredViolations .forward old new = [] ↔
      ∀ name, name ∈ old.requiredNames ↔ name ∈ new.requiredNames := by
  rw [requiredViolations_eq_nil_iff, requiredViolations_eq_nil_iff]
  constructor
  · rintro ⟨hbackward, hforward⟩ name
    exact ⟨fun h => hforward h, fun h => hbackward h⟩
  · intro hsame
    exact ⟨fun name => (hsame name).2, fun name => (hsame name).1⟩

/-! ## Bounds that have to have doubles -/

/-- The bounds of two schemas can be compared exactly if those of every property can that is
compared. -/
theorem boundsAreRepresentable_iff {old new : Json} :
    boundsAreRepresentable old new = true ↔
      ∀ name inOld inNew, ComparedProperty old new name inOld inNew →
        propertyBoundsAreRepresentable inOld inNew = true := by
  have hall := iff_forall_compared (Q := fun old new => boundsAreRepresentable old new = true)
    (L := fun _ _ => True)
    (P := fun _ inOld inNew => propertyBoundsAreRepresentable inOld inNew = true)
    (fun old new => by rw [true_and]; exact boundsAreRepresentable_iff_level) old new
  exact hall.trans (and_iff_right fun _ _ _ => trivial)

/-- A bound has a double unless it is an integer beyond all of them. -/
def HasDouble (keyword : String) (members : Json.Members) : Prop :=
  ∀ n, find? keyword members = some (.int n) → ∃ x, Double.ofInt? n = some x

/-- Whether a bound has a double is told by whether its integer has one. -/
theorem isRepresentable_iff {keyword : String} {members : Json.Members} :
    isRepresentable members keyword = true ↔ HasDouble keyword members := by
  rw [isRepresentable, HasDouble]
  split
  next n hfound =>
    rw [Option.isSome_iff_exists]
    refine ⟨fun hdouble other hother => ?_, fun h => h n hfound⟩
    obtain rfl := Json.int.inj (Option.some.inj (hfound.symm.trans hother))
    exact hdouble
  next hother => exact iff_of_true rfl fun n hn => absurd hn (hother n)

/-- The bounds at a property can be compared exactly if those of the type that the old version
declares have doubles in both versions. -/
theorem propertyBoundsAreRepresentable_iff {old new : Json.Members} :
    propertyBoundsAreRepresentable old new = true ↔
      ∀ rangeEnd keyword, boundKeyword? (declaredType old) rangeEnd = some keyword →
        HasDouble keyword old ∧ HasDouble keyword new := by
  rw [propertyBoundsAreRepresentable, List.all_eq_true]
  constructor
  · intro h rangeEnd keyword hkeyword
    have hend := h rangeEnd (by cases rangeEnd <;> decide)
    rwa [hkeyword, Bool.and_eq_true, isRepresentable_iff, isRepresentable_iff] at hend
  · intro h rangeEnd _
    split
    next keyword hkeyword =>
      rw [Bool.and_eq_true, isRepresentable_iff, isRepresentable_iff]
      exact h rangeEnd keyword hkeyword
    next => rfl

/-! ## Full compatibility -/

/-- What is compared between two versions is the same: at every level that is compared the names
that are required, and at every property what is compared there. -/
structure SameComparedConstraints (old new : Json) : Prop where
  required : ∀ levelOld levelNew, ComparedLevel old new levelOld levelNew →
    ∀ name, name ∈ levelOld.flatten.requiredNames ↔ name ∈ levelNew.flatten.requiredNames
  properties : ∀ name inOld inNew, ComparedProperty old new name inOld inNew →
    SameConstraints inOld inNew

/-- No mode finds a violation exactly if what is compared is the same. -/
theorem violations_both_iff {old new : Json} :
    violations .backward old new = [] ∧ violations .forward old new = [] ↔
      SameComparedConstraints old new := by
  rw [violations_eq_nil_iff, violations_eq_nil_iff]
  constructor
  · rintro ⟨⟨hrequired, hproperties⟩, hrequired', hproperties'⟩
    constructor
    · intro levelOld levelNew hlevel
      exact requiredViolations_both_iff.1 ⟨hrequired _ _ hlevel, hrequired' _ _ hlevel⟩
    · intro name inOld inNew hcompared
      exact (propertyViolations_both_iff name).1
        ⟨hproperties _ _ _ hcompared, hproperties' _ _ _ hcompared⟩
  · rintro ⟨hrequired, hproperties⟩
    have hlevels levelOld levelNew (hlevel : ComparedLevel old new levelOld levelNew) :=
      requiredViolations_both_iff.2 (hrequired levelOld levelNew hlevel)
    have hcompared name inOld inNew (h : ComparedProperty old new name inOld inNew) :=
      (propertyViolations_both_iff name).2 (hproperties name inOld inNew h)
    exact ⟨⟨fun _ _ h => (hlevels _ _ h).1, fun _ _ _ h => (hcompared _ _ _ h).1⟩,
      fun _ _ h => (hlevels _ _ h).2, fun _ _ _ h => (hcompared _ _ _ h).2⟩

/-- Two versions are fully compatible, with whatever identifiers and direction, exactly if every
bound that is compared has a double and what is compared between them is the same at every level. -/
theorem isFull_iff (sourceId targetId oldId newId : String) (direction : Direction)
    (old new : Json) :
    (∃ report, CompatibilityReport.build sourceId targetId oldId newId direction old new =
        .ok report ∧ report.isFull = true) ↔
      (∀ name inOld inNew, ComparedProperty old new name inOld inNew →
        ∀ rangeEnd keyword, boundKeyword? (declaredType inOld) rangeEnd = some keyword →
          HasDouble keyword inOld ∧ HasDouble keyword inNew) ∧
      SameComparedConstraints old new := by
  have hbounds : boundsAreRepresentable old new = true ↔
      ∀ name inOld inNew, ComparedProperty old new name inOld inNew →
        ∀ rangeEnd keyword, boundKeyword? (declaredType inOld) rangeEnd = some keyword →
          HasDouble keyword inOld ∧ HasDouble keyword inNew := by
    simp only [boundsAreRepresentable_iff, propertyBoundsAreRepresentable_iff]
  have hfull : (CompatibilityReport.ofSchemas sourceId targetId oldId newId direction old
      new).isFull = true ↔ SameComparedConstraints old new := by
    rw [← violations_both_iff]
    simp [CompatibilityReport.isFull, CompatibilityReport.ofSchemas]
  rw [← hbounds, ← hfull, CompatibilityReport.build]
  constructor
  · rintro ⟨report, hreport, hisFull⟩
    split at hreport
    next hrepresentable =>
      cases hreport
      exact ⟨hrepresentable, hisFull⟩
    next => cases hreport
  · rintro ⟨hrepresentable, hisFull⟩
    exact ⟨_, if_pos hrepresentable, hisFull⟩

/-- A type that is empty agrees with every type, and a bound that is not a number with every bound;
a bound without a double is no bound to compare, and is not even the same as itself. -/
theorem isFull_of_different :
    let isFull (old new : Json.Members) : Option Bool :=
      (CompatibilityReport.build "" "" "" "" .unknown (countSchema old)
        (countSchema new)).toOption.map (·.isFull)
    isFull [("type", .str "")] [("type", .str "string")] = some true ∧
    isFull [("type", .str "number"), ("minimum", .float .nan)]
      [("type", .str "number"), ("minimum", .int 5)] = some true ∧
    isFull [("type", .str "number"), ("minimum", .int (10 ^ 400))]
      [("type", .str "number"), ("minimum", .int (10 ^ 400))] = none := by
  decide +kernel

end TypeRegistry
