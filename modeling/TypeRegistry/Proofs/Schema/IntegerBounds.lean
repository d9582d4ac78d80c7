import TypeRegistry.Proofs.Number.Order
import TypeRegistry.Proofs.Schema.Enumerations
import TypeRegistry.Proofs.Schema.FullCompatibility

/-!
# What the comparison says about integer bounds

Bounds are compared as doubles, also where both are integers.  A bound that moves is found in the
mode that its direction belongs to, with the way to the property in front, as long as the two
integers have different doubles; from 54 bits on neighbours need not, and then a bound can move and
nothing is found.  One integer that is rounded beyond all finite doubles, at whatever property that
is compared, and there is no comparison.

Main results:

- Definition `RangeEnd.Tighter`: an integer bound is tighter than another.
- Definitions `ReportsTightened`, `ReportsRelaxed`: what the two modes find at a bound.
- Theorem `boundsAreRepresentable_eq_false_iff`: the integer bounds that keep two schemas from being
  compared.
- Theorem `boundViolations_of_moved`: of two bounds the mode finds the one direction that it looks
  for.
- Theorem `integer_bounds_judged`: integer bounds that get tighter are found backward and those that
  get looser forward, if they have different doubles.
- Theorem `integer_bounds_misjudged`: a minimum that moves by one and is found in neither mode, and
  one that is not compared.
-/

namespace TypeRegistry

open Dictionary

/-! ## Directions -/

/-- The other end of a range. -/
def RangeEnd.opposite : RangeEnd → RangeEnd
  | lower => upper
  | upper => lower

/-- An integer bound at an end of a range is tighter than a past one. -/
def RangeEnd.Tighter (rangeEnd : RangeEnd) (past now : Int) : Prop :=
  match rangeEnd with
  | lower => past < now
  | upper => now < past

instance (rangeEnd : RangeEnd) (past now : Int) : Decidable (rangeEnd.Tighter past now) :=
  match rangeEnd with
  | .lower => inferInstanceAs (Decidable (past < now))
  | .upper => inferInstanceAs (Decidable (now < past))

/-- The violation by a bound that gets tighter if it is at this end of its range, and looser if it
is at the other. -/
def Violation.tightened (rangeEnd : RangeEnd) (property keyword : String) (old new : Double) :
    Violation :=
  match rangeEnd with
  | .lower => .boundIncreased property keyword old new
  | .upper => .boundDecreased property keyword old new

/-- The direction that a mode looks for, as the end of a range at which it is the tighter one. -/
def Mode.towards (mode : Mode) (rangeEnd : RangeEnd) : RangeEnd :=
  match mode with
  | .backward => rangeEnd
  | .forward => rangeEnd.opposite

/-- Backward comparison finds, with the way to the property in front, that a bound at an end of the
range of the property gets tighter. -/
def ReportsTightened (old new : Json) (way : List LevelStep) (name keyword : String)
    (rangeEnd : RangeEnd) : Prop :=
  ∃ x y, (Violation.tightened rangeEnd name keyword x y).along way ∈ violations .backward old new

/-- Forward comparison finds, with the way to the property in front, that a bound at an end of the
range of the property gets looser. -/
def ReportsRelaxed (old new : Json) (way : List LevelStep) (name keyword : String)
    (rangeEnd : RangeEnd) : Prop :=
  ∃ x y, (Violation.tightened rangeEnd.opposite name keyword x y).along way ∈
    violations .forward old new

/-- A bound gets tighter at the other end exactly if it does at this end on the way back. -/
theorem tightens_opposite (rangeEnd : RangeEnd) (past now : Double) :
    tightens rangeEnd.opposite past now = tightens rangeEnd now past := by
  cases rangeEnd <;> rfl

/-- Integers are tighter at the other end exactly if they are at this end on the way back. -/
theorem RangeEnd.tighter_opposite (rangeEnd : RangeEnd) (past now : Int) :
    rangeEnd.opposite.Tighter past now ↔ rangeEnd.Tighter now past := by
  cases rangeEnd <;> rfl

/-- Of two values at most one is less than the other. -/
theorem Exact.lt_asymm {x y : Exact} (h : x.lt y = true) : y.lt x = false := by
  cases x with
  | dyadic m d =>
    cases y with
    | dyadic n e =>
      simp only [lt, min_comm e d, decide_eq_true_eq, decide_eq_false_iff_not] at h ⊢
      omega
    | infinite negative => simpa [lt] using h
    | undefined => rfl
  | infinite negative =>
    cases y with
    | dyadic n e => simpa [lt] using h
    | infinite other => cases negative <;> cases other <;> simp_all [lt]
    | undefined => rfl
  | undefined => cases h

/-- The violation by a bound that moved tells in which direction. -/
theorem boundMoved_eq {rangeEnd : RangeEnd} {past now : Double}
    (h : tightens rangeEnd past now = true) (property keyword : String) :
    boundMoved property keyword past now =
      .tightened rangeEnd property keyword past now := by
  rw [boundMoved]
  cases rangeEnd with
  | lower =>
    rw [if_pos (show past.less now = true from h)]
    rfl
  | upper =>
    have hnot : past.less now = false := Exact.lt_asymm h
    rw [hnot]
    rfl

/-- Of two bounds the mode finds the one direction that it looks for. -/
theorem boundViolations_of_moved {mode : Mode} {property keyword : String}
    {old new : Json.Members} {rangeEnd : RangeEnd} {x y : Double}
    (hkeyword : boundKeyword? (declaredType old) rangeEnd = some keyword)
    (hold : bound? old keyword = some x) (hnew : bound? new keyword = some y) :
    boundViolations mode property old new rangeEnd =
      if tightens (mode.towards rangeEnd) x y then
        [.tightened (mode.towards rangeEnd) property keyword x y] else [] := by
  have hfound : boundViolations mode property old new rangeEnd =
      if tightens (mode.towards rangeEnd) x y then [boundMoved property keyword x y] else [] := by
    cases mode with
    | backward =>
      simp only [boundViolations, hkeyword, hold, hnew]
      rfl
    | forward =>
      simp only [boundViolations, hkeyword, hold, hnew, ← tightens_opposite rangeEnd x y]
      rfl
  rw [hfound]
  split
  next htightens => rw [boundMoved_eq htightens]
  next => rfl

/-! ## Violations about a bound -/

/-- The keyword of a violation about a bound. -/
def Violation.keyword? : Violation → Option String
  | boundIncreased _ keyword _ _ | boundDecreased _ keyword _ _ | boundAdded _ keyword _
  | boundRemoved _ keyword => some keyword
  | _ => none

section Bounds

variable {mode : Mode} {name keyword : String} {inOld inNew : Json.Members} {rangeEnd : RangeEnd}
  {violation : Violation}

/-- The two ends of a range have different keywords. -/
theorem boundKeyword?_upper_ne {typeName : String}
    (h : boundKeyword? typeName .lower = some keyword) :
    boundKeyword? typeName .upper ≠ some keyword := by
  simp only [boundKeyword?] at h ⊢
  split_ifs at h ⊢ <;>
    · cases h
      decide

/-- A keyword is that of one end of a range. -/
theorem boundKeyword?_injective {typeName : String} {first second : RangeEnd}
    (hfirst : boundKeyword? typeName first = some keyword)
    (hsecond : boundKeyword? typeName second = some keyword) : first = second := by
  cases first with
  | lower =>
    cases second with
    | lower => rfl
    | upper => exact absurd hsecond (boundKeyword?_upper_ne hfirst)
  | upper =>
    cases second with
    | lower => exact absurd hfirst (boundKeyword?_upper_ne hsecond)
    | upper => rfl

/-- Bounds give violations with the keyword of their end of the range. -/
theorem keyword?_of_mem_bound (h : violation ∈ boundViolations mode name inOld inNew rangeEnd) :
    ∃ keyword, boundKeyword? (declaredType inOld) rangeEnd = some keyword ∧
      violation.keyword? = some keyword := by
  obtain ⟨keyword, hkeyword, hviolation⟩ := eq_of_mem_bound h
  refine ⟨keyword, hkeyword, ?_⟩
  obtain ⟨past, now, rfl | rfl⟩ | ⟨now, rfl⟩ | rfl := hviolation <;> rfl

/-- Of what is found at a property only what the bounds at one end of its range give is about that
bound. -/
theorem foundAt_iff_of_bound (hmatter : violation.matter = .bound name)
    (hkeyword : boundKeyword? (declaredType inOld) rangeEnd = some keyword)
    (hown : violation.keyword? = some keyword) :
    FoundAt mode name inOld inNew violation ↔
      violation ∈ boundViolations mode name inOld inNew rangeEnd := by
  have hsame {other : RangeEnd} (h : violation ∈ boundViolations mode name inOld inNew other) :
      other = rangeEnd := by
    obtain ⟨keyword', hother, hkeyword'⟩ := keyword?_of_mem_bound h
    obtain rfl := Option.some.inj (hown.symm.trans hkeyword')
    exact boundKeyword?_injective hother hkeyword
  constructor
  · intro h
    cases h with
    | itself h =>
      simp only [propertyViolations, List.mem_append] at h
      rcases h with ((h | h) | h) | h
      · cases hmatter.symm.trans (matter_of_mem_type h)
      · cases hmatter.symm.trans (matter_of_mem_enum h)
      · exact hsame h ▸ h
      · exact hsame h ▸ h
    | inObject _ _ _ => cases hmatter
    | inItems _ _ _ _ _ => cases hmatter
  · intro h
    apply FoundAt.itself
    simp only [propertyViolations, List.mem_append]
    cases rangeEnd with
    | lower => exact .inl (.inr h)
    | upper => exact .inr h

/-- A bound that moves is a matter of its property. -/
@[simp]
theorem matter_tightened (rangeEnd : RangeEnd) (name keyword : String) (x y : Double) :
    (Violation.tightened rangeEnd name keyword x y).matter = .bound name := by
  cases rangeEnd <;> rfl

/-- A bound that moves is found under its keyword. -/
@[simp]
theorem keyword?_tightened (rangeEnd : RangeEnd) (name keyword : String) (x y : Double) :
    (Violation.tightened rangeEnd name keyword x y).keyword? = some keyword := by
  cases rangeEnd <;> rfl

/-- A mode finds a bound that moves in the direction that it looks for exactly if the doubles of the
two bounds do. -/
theorem exists_tightened_mem_violations_iff (mode : Mode) {old new levelOld levelNew : Json}
    {way : List LevelStep} {x y : Double}
    (hlevel : ComparedLevelAt way old new levelOld levelNew)
    (hold : find? name levelOld.flatten.properties = some (.obj inOld))
    (hnew : find? name levelNew.flatten.properties = some (.obj inNew))
    (hkeyword : boundKeyword? (declaredType inOld) rangeEnd = some keyword)
    (hx : bound? inOld keyword = some x) (hy : bound? inNew keyword = some y) :
    (∃ past now, (Violation.tightened (mode.towards rangeEnd) name keyword past now).along way ∈
        violations mode old new) ↔
      tightens (mode.towards rangeEnd) x y = true := by
  have hiff (past now : Double) :
      (Violation.tightened (mode.towards rangeEnd) name keyword past now).along way ∈
          violations mode old new ↔
        Violation.tightened (mode.towards rangeEnd) name keyword past now ∈
          boundViolations mode name inOld inNew rangeEnd := by
    have hmatter := matter_tightened (mode.towards rangeEnd) name keyword past now
    rw [along_mem_violations_iff hlevel,
      mem_violations_at_iff hold hnew (congrArg Matter.property? hmatter),
      foundAt_iff_of_bound hmatter hkeyword (keyword?_tightened _ _ _ _ _)]
  simp only [hiff, boundViolations_of_moved hkeyword hx hy]
  constructor
  · rintro ⟨past, now, h⟩
    by_contra hnot
    rw [if_neg hnot] at h
    cases h
  · intro htightens
    rw [if_pos htightens]
    exact ⟨x, y, List.mem_singleton_self _⟩

end Bounds

/-! ## Integer bounds -/

/-- An integer bound with a double is compared as that double. -/
theorem bound?_of_int {members : Json.Members} {keyword : String} {n : Int} {x : Double}
    (h : find? keyword members = some (.int n)) (hx : Double.ofInt? n = some x) :
    bound? members keyword = some x := by
  simp only [bound?, h, hx, Option.getD_some]

/-- The double of a bound gets tighter exactly if the integer does, unless both have the same
double. -/
theorem tightens_of_ofInt? {rangeEnd : RangeEnd} {o n : Int} {x y : Double}
    (hx : Double.ofInt? o = some x) (hy : Double.ofInt? n = some y) :
    tightens rangeEnd x y = true ↔
      rangeEnd.Tighter o n ∧ Double.ofInt? o ≠ Double.ofInt? n := by
  have hne : Double.ofInt? o ≠ Double.ofInt? n ↔ x ≠ y := by
    rw [hx, hy, Ne, Option.some_inj]
  rw [hne]
  cases rangeEnd with
  | lower => exact Double.lt_of_ofInt? hx hy
  | upper =>
    rw [ne_comm]
    exact Double.lt_of_ofInt? hy hx

/-- A bound has no double exactly if it is an integer beyond all doubles. -/
theorem not_hasDouble_iff {keyword : String} {members : Json.Members} :
    ¬ HasDouble keyword members ↔
      ∃ n, find? keyword members = some (.int n) ∧ Double.beyondDoubles ≤ n.natAbs := by
  simp only [HasDouble, not_forall, exists_prop, ← Option.isSome_iff_exists,
    Option.not_isSome_iff_eq_none, Double.ofInt?_eq_none_iff]

/-- An integer bound beyond all doubles, in either version, where bounds are compared. -/
def HasBoundBeyondDoubles (old new : Json) : Prop :=
  ∃ name inOld inNew rangeEnd keyword n, ComparedProperty old new name inOld inNew ∧
    boundKeyword? (declaredType inOld) rangeEnd = some keyword ∧
    (find? keyword inOld = some (.int n) ∨ find? keyword inNew = some (.int n)) ∧
    Double.beyondDoubles ≤ n.natAbs

/-- Two schemas are kept from being compared by an integer bound beyond all doubles, and by nothing
else. -/
theorem boundsAreRepresentable_eq_false_iff {old new : Json} :
    boundsAreRepresentable old new = false ↔ HasBoundBeyondDoubles old new := by
  have heither {keyword : String} {inOld inNew : Json.Members} :
      ¬ (HasDouble keyword inOld ∧ HasDouble keyword inNew) ↔
        ∃ n, (find? keyword inOld = some (.int n) ∨ find? keyword inNew = some (.int n)) ∧
          Double.beyondDoubles ≤ n.natAbs := by
    rw [not_and_or, not_hasDouble_iff, not_hasDouble_iff]
    simp only [or_and_right, exists_or]
  rw [← Bool.not_eq_true, boundsAreRepresentable_iff]
  simp only [propertyBoundsAreRepresentable_iff, not_forall, heither, exists_prop]
  constructor
  · rintro ⟨name, inOld, inNew, hcompared, rangeEnd, keyword, hkeyword, n, hn, hbeyond⟩
    exact ⟨name, inOld, inNew, rangeEnd, keyword, n, hcompared, hkeyword, hn, hbeyond⟩
  · rintro ⟨name, inOld, inNew, rangeEnd, keyword, n, hcompared, hkeyword, hn, hbeyond⟩
    exact ⟨name, inOld, inNew, hcompared, rangeEnd, keyword, hkeyword, n, hn, hbeyond⟩

/-- Both versions of a property that is compared at the end of a way have an integer bound at one
end of the range of the type that the old version declares. -/
inductive IntegerBoundsAt (old new : Json) (way : List LevelStep) (name keyword : String)
    (rangeEnd : RangeEnd) (o n : Int) : Prop
  | intro {levelOld levelNew : Json} {inOld inNew : Json.Members}
      (hlevel : ComparedLevelAt way old new levelOld levelNew)
      (hold : find? name levelOld.flatten.properties = some (.obj inOld))
      (hnew : find? name levelNew.flatten.properties = some (.obj inNew))
      (hkeyword : boundKeyword? (declaredType inOld) rangeEnd = some keyword)
      (ho : find? keyword inOld = some (.int o)) (hn : find? keyword inNew = some (.int n))

/-- Where no bound is beyond all doubles, integer bounds that are compared have doubles. -/
theorem IntegerBoundsAt.exists_doubles {old new : Json} {way : List LevelStep}
    {name keyword : String} {rangeEnd : RangeEnd} {o n : Int}
    (h : IntegerBoundsAt old new way name keyword rangeEnd o n)
    (hwithin : ¬ HasBoundBeyondDoubles old new) :
    (∃ x, Double.ofInt? o = some x) ∧ ∃ y, Double.ofInt? n = some y := by
  obtain ⟨hlevel, hold, hnew, hkeyword, ho, hn⟩ := h
  have hcompared : ComparedProperty old new name _ _ :=
    ⟨_, _, comparedLevel_iff_exists_way.2 ⟨way, hlevel⟩, hold, hnew⟩
  constructor
  · rw [← Option.ne_none_iff_exists', Ne, Double.ofInt?_eq_none_iff]
    exact fun hbeyond => hwithin ⟨_, _, _, _, _, o, hcompared, hkeyword, .inl ho, hbeyond⟩
  · rw [← Option.ne_none_iff_exists', Ne, Double.ofInt?_eq_none_iff]
    exact fun hbeyond => hwithin ⟨_, _, _, _, _, n, hcompared, hkeyword, .inr hn, hbeyond⟩

/-- Backward comparison finds an integer bound that gets tighter, and forward comparison one that
gets looser, if the two integers have different doubles. -/
theorem IntegerBoundsAt.reports_iff {old new : Json} {way : List LevelStep}
    {name keyword : String} {rangeEnd : RangeEnd} {o n : Int}
    (h : IntegerBoundsAt old new way name keyword rangeEnd o n)
    (hwithin : ¬ HasBoundBeyondDoubles old new) :
    (ReportsTightened old new way name keyword rangeEnd ↔
      rangeEnd.Tighter o n ∧ Double.ofInt? o ≠ Double.ofInt? n) ∧
    (ReportsRelaxed old new way name keyword rangeEnd ↔
      rangeEnd.Tighter n o ∧ Double.ofInt? o ≠ Double.ofInt? n) := by
  obtain ⟨⟨x, hx⟩, y, hy⟩ := h.exists_doubles hwithin
  obtain ⟨hlevel, hold, hnew, hkeyword, ho, hn⟩ := h
  have hmoved (mode : Mode) := exists_tightened_mem_violations_iff mode hlevel hold hnew hkeyword
    (bound?_of_int ho hx) (bound?_of_int hn hy)
  constructor
  · exact (hmoved .backward).trans (tightens_of_ofInt? hx hy)
  · rw [← rangeEnd.tighter_opposite]
    exact (hmoved .forward).trans (tightens_of_ofInt? hx hy)

/-- A bound that is tighter than another is another integer. -/
theorem RangeEnd.Tighter.ne {rangeEnd : RangeEnd} {past now : Int}
    (h : rangeEnd.Tighter past now) : past ≠ now := by
  cases rangeEnd with
  | lower => exact ne_of_lt h
  | upper => exact ne_of_gt h

/-- Two schemas are not compared exactly if an integer bound is beyond all doubles where bounds are
compared.  Otherwise backward comparison finds, with the way in front, an integer bound exactly if
it gets tighter, and forward comparison exactly if it gets looser, unless both integers have the
same double; integers of at most 53 bits have doubles of their own. -/
theorem integer_bounds_judged (old new : Json) :
    (∀ sourceId targetId oldId newId direction,
      CompatibilityReport.build sourceId targetId oldId newId direction old new =
        .error .boundTooLarge ↔ HasBoundBeyondDoubles old new) ∧
    ∀ way name keyword rangeEnd o n, IntegerBoundsAt old new way name keyword rangeEnd o n →
      ¬ HasBoundBeyondDoubles old new →
        (ReportsTightened old new way name keyword rangeEnd ↔
          rangeEnd.Tighter o n ∧ Double.ofInt? o ≠ Double.ofInt? n) ∧
        (ReportsRelaxed old new way name keyword rangeEnd ↔
          rangeEnd.Tighter n o ∧ Double.ofInt? o ≠ Double.ofInt? n) ∧
        (o.natAbs ≤ 2 ^ 53 → n.natAbs ≤ 2 ^ 53 →
          (ReportsTightened old new way name keyword rangeEnd ↔ rangeEnd.Tighter o n) ∧
          (ReportsRelaxed old new way name keyword rangeEnd ↔ rangeEnd.Tighter n o)) := by
  constructor
  · intro sourceId targetId oldId newId direction
    rw [← boundsAreRepresentable_eq_false_iff, CompatibilityReport.build]
    cases boundsAreRepresentable old new <;> simp
  · intro way name keyword rangeEnd o n hbounds hwithin
    obtain ⟨htightened, hrelaxed⟩ := hbounds.reports_iff hwithin
    refine ⟨htightened, hrelaxed, fun ho hn => ?_⟩
    rw [htightened, hrelaxed]
    constructor
    · exact and_iff_left_of_imp fun htighter => Double.ofInt?_ne ho hn htighter.ne
    · exact and_iff_left_of_imp fun htighter => Double.ofInt?_ne ho hn htighter.ne.symm

/-- An order whose lines have a count that is bounded from above. -/
def boundedLines (maximum : Int) : Json :=
  .obj [("properties", .obj [("lines", .obj [("type", .str "array"),
    ("items", countSchema [("type", .str "integer"), ("maximum", .int maximum)])])])]

/-- A greatest count of the lines of an order that goes down from `2 ^ 60` is found backward and not
forward. -/
theorem integer_bounds_judged_lines :
    let old := boundedLines (2 ^ 60)
    let new := boundedLines (2 ^ 60 - 2 ^ 10)
    IntegerBoundsAt old new [.intoItems "lines"] "count" "maximum" .upper (2 ^ 60)
        (2 ^ 60 - 2 ^ 10) ∧
      ¬ HasBoundBeyondDoubles old new ∧
      ReportsTightened old new [.intoItems "lines"] "count" "maximum" .upper ∧
      ¬ ReportsRelaxed old new [.intoItems "lines"] "count" "maximum" .upper := by
  intro old new
  have hlevel : ComparedLevelAt [.intoItems "lines"] old new
      (countSchema [("type", .str "integer"), ("maximum", .int (2 ^ 60))])
      (countSchema [("type", .str "integer"), ("maximum", .int (2 ^ 60 - 2 ^ 10))]) :=
    .intoItems rfl rfl rfl rfl rfl rfl .here
  have hbounds : IntegerBoundsAt old new [.intoItems "lines"] "count" "maximum" .upper (2 ^ 60)
      (2 ^ 60 - 2 ^ 10) := .intro hlevel rfl rfl rfl rfl rfl
  have hwithin : ¬ HasBoundBeyondDoubles old new := by
    rw [← boundsAreRepresentable_eq_false_iff]
    decide +kernel
  have hjudged := (integer_bounds_judged old new).2 _ _ _ _ _ _ hbounds hwithin
  have hdoubles : Double.ofInt? (2 ^ 60) ≠ Double.ofInt? (2 ^ 60 - 2 ^ 10) := by decide +kernel
  refine ⟨hbounds, hwithin, ?_, ?_⟩
  · rw [hjudged.1]
    exact ⟨by decide, hdoubles⟩
  · rw [hjudged.2.1]
    exact fun h => absurd h.1 (by decide)

/-- A minimum that goes up by one from `2 ^ 53`, or down to it, is found in neither mode; one of
four hundred digits is not compared. -/
theorem integer_bounds_misjudged :
    let atLeast (minimum : Int) : Json :=
      countSchema [("type", .str "integer"), ("minimum", .int minimum)]
    RangeEnd.lower.Tighter (2 ^ 53) (2 ^ 53 + 1) ∧
    boundsAreRepresentable (atLeast (2 ^ 53)) (atLeast (2 ^ 53 + 1)) = true ∧
    violations .backward (atLeast (2 ^ 53)) (atLeast (2 ^ 53 + 1)) = [] ∧
    violations .forward (atLeast (2 ^ 53 + 1)) (atLeast (2 ^ 53)) = [] ∧
    CompatibilityReport.ofVersions "" "" (atLeast 0) (atLeast (10 ^ 400)) =
      .error .boundTooLarge := by
  refine ⟨by decide, ?_⟩
  decide +kernel

end TypeRegistry
