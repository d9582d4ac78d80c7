import TypeRegistry.Proofs.Schema.Soundness

/-!
# Comparison in both directions

Comparing two versions forward asks of the new one as a writer and the old one as a reader what
comparing them backward, with their places exchanged, asks: both modes only name the writer and the
reader.  The one rule that looks at the places is that on bounds.  It takes the bounds of the type that
the *old* version declares, and so skips those of a property for which only the new version declares
a type.

Main results:

- Theorem `iff_forall_compared`: what is asked level by level is asked of every level and property
  that is compared.
- Theorem `violations_eq_nil_iff`: nothing is violated exactly if nothing is at any level that is
  compared.
- Theorem `propertyViolations_eq_nil_iff`: what a property asks of its writer and its reader, if no
  bound is skipped.
- Theorem `forward_iff_backward`: forward comparison is backward comparison with the places
  exchanged, save for bounds that are skipped.
-/

namespace TypeRegistry

open Dictionary

/-- The other mode. -/
def Mode.converse : Mode → Mode
  | .backward => .forward
  | .forward => .backward

/-- The writer is the same in the other mode if the versions change places. -/
@[simp]
theorem Mode.writer_converse {α : Type} (mode : Mode) (old new : α) :
    mode.converse.writer new old = mode.writer old new := by
  cases mode <;> rfl

/-- The reader is the same in the other mode if the versions change places. -/
@[simp]
theorem Mode.reader_converse {α : Type} (mode : Mode) (old new : α) :
    mode.converse.reader new old = mode.reader old new := by
  cases mode <;> rfl

/-! ## Levels of a comparison -/

/-- The levels at which two schemas are compared: they themselves, and those below a property that is
an object for both, or an array of objects. -/
inductive ComparedLevel : (old new inOld inNew : Json) → Prop
  | self {old new : Json} : ComparedLevel old new old new
  | object {old new levelOld levelNew : Json} {name : String} {inOld inNew : Json.Members}
      (hold : find? name old.flatten.properties = some (.obj inOld))
      (hnew : find? name new.flatten.properties = some (.obj inNew))
      (holdType : declaredType inOld = "object") (hnewType : declaredType inNew = "object")
      (hlevel : ComparedLevel (.obj inOld) (.obj inNew) levelOld levelNew) :
      ComparedLevel old new levelOld levelNew
  | items {old new levelOld levelNew : Json} {name : String}
      {inOld inNew itemOld itemNew : Json.Members}
      (hold : find? name old.flatten.properties = some (.obj inOld))
      (hnew : find? name new.flatten.properties = some (.obj inNew))
      (holdType : declaredType inOld = "array") (hnewType : declaredType inNew = "array")
      (holdItems : find? "items" inOld = some (.obj itemOld))
      (hnewItems : find? "items" inNew = some (.obj itemNew))
      (hlevel : ComparedLevel (.obj itemOld) (.obj itemNew) levelOld levelNew) :
      ComparedLevel old new levelOld levelNew

/-- The same levels are compared if the versions change places. -/
theorem ComparedLevel.symm {old new levelOld levelNew : Json}
    (h : ComparedLevel old new levelOld levelNew) : ComparedLevel new old levelNew levelOld := by
  induction h with
  | self => exact .self
  | object hold hnew holdType hnewType _ ih => exact .object hnew hold hnewType holdType ih
  | items hold hnew holdType hnewType holdItems hnewItems _ ih =>
    exact .items hnew hold hnewType holdType hnewItems holdItems ih

/-- The versions of a property that are compared, at whatever level. -/
def ComparedProperty (old new : Json) (name : String) (inOld inNew : Json.Members) : Prop :=
  ∃ levelOld levelNew, ComparedLevel old new levelOld levelNew ∧
    find? name levelOld.flatten.properties = some (.obj inOld) ∧
    find? name levelNew.flatten.properties = some (.obj inNew)

/-- The same properties are compared if the versions change places. -/
theorem ComparedProperty.symm {old new : Json} {name : String} {inOld inNew : Json.Members}
    (h : ComparedProperty old new name inOld inNew) :
    ComparedProperty new old name inNew inOld := by
  obtain ⟨levelOld, levelNew, hlevel, hold, hnew⟩ := h
  exact ⟨levelNew, levelOld, hlevel.symm, hnew, hold⟩

/-- The levels below a property are levels of the schemas that have the property. -/
theorem ComparedBelow.level {old new levelOld levelNew : Json} {name : String}
    {inOld inNew belowOld belowNew : Json.Members}
    (hbelow : ComparedBelow inOld inNew belowOld belowNew)
    (hold : find? name old.flatten.properties = some (.obj inOld))
    (hnew : find? name new.flatten.properties = some (.obj inNew))
    (hlevel : ComparedLevel (.obj belowOld) (.obj belowNew) levelOld levelNew) :
    ComparedLevel old new levelOld levelNew := by
  cases hbelow with
  | object holdType hnewType => exact .object hold hnew holdType hnewType hlevel
  | items holdType hnewType holdItems hnewItems =>
    exact .items hold hnew holdType hnewType holdItems hnewItems hlevel

/-- A verdict that a level passes on its flattened schemas, on its common properties and, by the same
verdict, on what is compared below these, is one on all levels and properties that are compared. -/
theorem iff_forall_compared {Q : Json → Json → Prop} {L : FlatSchema → FlatSchema → Prop}
    {P : String → Json.Members → Json.Members → Prop}
    (hverdict : ∀ old new, Q old new ↔ L old.flatten new.flatten ∧
      ∀ name inOld inNew, find? name old.flatten.properties = some (.obj inOld) →
        find? name new.flatten.properties = some (.obj inNew) → P name inOld inNew ∧
          ∀ belowOld belowNew, ComparedBelow inOld inNew belowOld belowNew →
            Q (.obj belowOld) (.obj belowNew)) (old new : Json) :
    Q old new ↔
      (∀ levelOld levelNew, ComparedLevel old new levelOld levelNew →
        L levelOld.flatten levelNew.flatten) ∧
      ∀ name inOld inNew, ComparedProperty old new name inOld inNew → P name inOld inNew := by
  constructor
  · intro h
    have hlevels : ∀ levelOld levelNew, ComparedLevel old new levelOld levelNew →
        Q levelOld levelNew := by
      intro levelOld levelNew hlevel
      induction hlevel with
      | self => exact h
      | object hold hnew holdType hnewType _ ih =>
        exact ih ((((hverdict _ _).1 h).2 _ _ _ hold hnew).2 _ _ (.object holdType hnewType))
      | items hold hnew holdType hnewType holdItems hnewItems _ ih =>
        exact ih ((((hverdict _ _).1 h).2 _ _ _ hold hnew).2 _ _
          (.items holdType hnewType holdItems hnewItems))
    constructor
    · exact fun levelOld levelNew hlevel => ((hverdict _ _).1 (hlevels _ _ hlevel)).1
    · rintro name inOld inNew ⟨levelOld, levelNew, hlevel, hold, hnew⟩
      exact (((hverdict _ _).1 (hlevels _ _ hlevel)).2 _ _ _ hold hnew).1
  · -- The schemas that a comparison goes on to are smaller.
    intro h
    induction hsize : sizeOf old using Nat.strongRecOn generalizing old new with
    | ind size ih =>
      subst hsize
      obtain ⟨hlevels, hproperties⟩ := h
      refine (hverdict old new).2 ⟨hlevels _ _ .self, fun name inOld inNew hold hnew => ?_⟩
      refine ⟨hproperties _ _ _ ⟨old, new, .self, hold, hnew⟩, fun belowOld belowNew hbelow => ?_⟩
      refine ih _ (hbelow.sizeOf_lt hold) _ _ ⟨?_, ?_⟩ rfl
      · exact fun levelOld levelNew hlevel => hlevels _ _ (hbelow.level hold hnew hlevel)
      · rintro other inBelowOld inBelowNew ⟨levelOld, levelNew, hlevel, hfound⟩
        exact hproperties _ _ _ ⟨_, _, hbelow.level hold hnew hlevel, hfound⟩

/-- Nothing is violated exactly if the required names violate nothing at any level that is compared,
and no property does. -/
theorem violations_eq_nil_iff {mode : Mode} {old new : Json} :
    violations mode old new = [] ↔
      (∀ levelOld levelNew, ComparedLevel old new levelOld levelNew →
        requiredViolations mode levelOld.flatten levelNew.flatten = []) ∧
      ∀ name inOld inNew, ComparedProperty old new name inOld inNew →
        propertyViolations mode name inOld inNew = [] :=
  iff_forall_compared (L := fun old new => requiredViolations mode old new = [])
    (fun _ _ => violations_eq_nil_iff_level) old new

/-! ## Rules at a property -/

/-- Types violate nothing unless both versions declare one and these differ. -/
theorem typeViolations_eq_nil_iff (property : String) {old new : Json.Members} :
    typeViolations property old new = [] ↔
      declaredType old = "" ∨ declaredType new = "" ∨ declaredType old = declaredType new := by
  simp only [typeViolations, ite_eq_right_iff, reduceCtorEq, imp_false, ne_eq]
  tauto

/-- Enumerations violate nothing if the reader's values are among the writer's. -/
theorem enumViolations_eq_nil_iff {mode : Mode} (property : String) {old new : Json.Members} :
    enumViolations mode property old new = [] ↔
      ∀ read written, enumeration? (mode.reader old new) = some read →
        enumeration? (mode.writer old new) = some written →
          read.map valueKey ⊆ written.map valueKey := by
  cases mode <;> cases hold : enumeration? old <;> cases hnew : enumeration? new <;>
    simp [enumViolations, hold, hnew, Mode.reader, Mode.writer, newcomers_eq_nil_iff]

/-- A bound of the reader, if it has one, is no tighter than one that the writer has. -/
def BoundKept (keyword : String) (rangeEnd : RangeEnd) (reader writer : Json.Members) : Prop :=
  ∀ bound, bound? reader keyword = some bound →
    ∃ other, bound? writer keyword = some other ∧ tightens rangeEnd other bound = false

/-- Bounds violate nothing exactly if the reader keeps the bounds of the type that the old version
declares. -/
theorem boundViolations_eq_nil_iff {mode : Mode} {property : String} {old new : Json.Members}
    {rangeEnd : RangeEnd} :
    boundViolations mode property old new rangeEnd = [] ↔
      ∀ keyword, boundKeyword? (declaredType old) rangeEnd = some keyword →
        BoundKept keyword rangeEnd (mode.reader old new) (mode.writer old new) := by
  constructor
  · intro h keyword hkeyword bound hbound
    exact boundViolations_eq_nil hkeyword h hbound
  · intro h
    rw [boundViolations]
    cases hkeyword : boundKeyword? (declaredType old) rangeEnd with
    | none => rfl
    | some keyword =>
      have hkept := h keyword hkeyword
      unfold BoundKept at hkept
      cases mode <;> cases hold : bound? old keyword <;> cases hnew : bound? new keyword <;>
        simp_all [Mode.reader, Mode.writer]

/-! ## Skipped bounds -/

/-- The old version of a property, as if it declared the type that the new version declares. -/
def typedLike (new old : Json.Members) : Json.Members :=
  ("type", .str (declaredType new)) :: old

/-- The bound violations at a property that are skipped because the old version declares no type:
those that there are by the type that the new version declares. -/
def skippedBounds (mode : Mode) (property : String) (old new : Json.Members) : List Violation :=
  if declaredType old = "" then
    boundViolations mode property (typedLike new old) new .lower ++
      boundViolations mode property (typedLike new old) new .upper
  else []

/-- No bound is skipped at any property that is compared. -/
def SkipsNoBound (mode : Mode) (old new : Json) : Prop :=
  ∀ name inOld inNew, ComparedProperty old new name inOld inNew →
    skippedBounds mode name inOld inNew = []

@[simp]
theorem declaredType_typedLike (new old : Json.Members) :
    declaredType (typedLike new old) = declaredType new := by
  simp [declaredType, typedLike, Json.getString?, find?]

/-- A type that is declared in addition leaves the bounds as they are. -/
theorem bound?_typedLike {typeName keyword : String} {rangeEnd : RangeEnd}
    (hkeyword : boundKeyword? typeName rangeEnd = some keyword) (new old : Json.Members) :
    bound? (typedLike new old) keyword = bound? old keyword := by
  have hne : "type" ≠ keyword := by
    rcases boundKeyword?_cases hkeyword with ⟨-, rfl⟩ | ⟨-, rfl⟩ | ⟨-, rfl⟩
    all_goals cases rangeEnd <;> decide
  simp [bound?, typedLike, find?, hne]

/-- The type by which the bounds of a property are compared if none are skipped: that of the old
version, or that of the new one if the old version declares none. -/
def sharedType (old new : Json.Members) : String :=
  if declaredType old = "" then declaredType new else declaredType old

/-- Where the types violate nothing, the versions may change places. -/
theorem sharedType_comm {property : String} {old new : Json.Members}
    (h : typeViolations property old new = []) : sharedType old new = sharedType new old := by
  unfold sharedType
  rcases (typeViolations_eq_nil_iff property).1 h with hold | hnew | hsame
  · by_cases hnew : declaredType new = ""
    · simp [hold, hnew]
    · simp [hold, hnew]
  · by_cases hold : declaredType old = ""
    · simp [hold, hnew]
    · simp [hold, hnew]
  · rw [hsame]

/-- Bounds violate nothing, skipped or not, exactly if the reader keeps the bounds of the type that
the versions share. -/
theorem bounds_eq_nil_iff {mode : Mode} {property : String} {old new : Json.Members} :
    ((∀ rangeEnd, boundViolations mode property old new rangeEnd = []) ∧
      skippedBounds mode property old new = []) ↔
      ∀ rangeEnd keyword, boundKeyword? (sharedType old new) rangeEnd = some keyword →
        BoundKept keyword rangeEnd (mode.reader old new) (mode.writer old new) := by
  by_cases htype : declaredType old = ""
  · have hkept {rangeEnd : RangeEnd} {keyword : String}
        (hkeyword : boundKeyword? (declaredType new) rangeEnd = some keyword) :
        BoundKept keyword rangeEnd (mode.reader (typedLike new old) new)
            (mode.writer (typedLike new old) new) ↔
          BoundKept keyword rangeEnd (mode.reader old new) (mode.writer old new) := by
      cases mode <;> simp only [BoundKept, Mode.reader, Mode.writer, bound?_typedLike hkeyword]
    have hnone (rangeEnd : RangeEnd) : boundViolations mode property old new rangeEnd = [] := by
      rw [boundViolations_eq_nil_iff, htype]
      intro keyword hkeyword
      simp [boundKeyword?] at hkeyword
    simp only [hnone, implies_true, true_and, skippedBounds, sharedType, if_pos htype,
      List.append_eq_nil_iff, boundViolations_eq_nil_iff, declaredType_typedLike]
    constructor
    · rintro ⟨hlower, hupper⟩ rangeEnd keyword hkeyword
      cases rangeEnd with
      | lower => exact (hkept hkeyword).1 (hlower keyword hkeyword)
      | upper => exact (hkept hkeyword).1 (hupper keyword hkeyword)
    · intro h
      constructor
      · exact fun keyword hkeyword => (hkept hkeyword).2 (h _ keyword hkeyword)
      · exact fun keyword hkeyword => (hkept hkeyword).2 (h _ keyword hkeyword)
  · simp only [skippedBounds, sharedType, if_neg htype, and_true, boundViolations_eq_nil_iff]

/-- A property violates nothing, and no bound of it is skipped, exactly if its types agree, the
reader's values are among the writer's, and the reader keeps the bounds of the type they share. -/
theorem propertyViolations_eq_nil_iff {mode : Mode} {property : String}
    {old new : Json.Members} :
    (propertyViolations mode property old new = [] ∧ skippedBounds mode property old new = []) ↔
      (declaredType old = "" ∨ declaredType new = "" ∨ declaredType old = declaredType new) ∧
      (∀ read written, enumeration? (mode.reader old new) = some read →
        enumeration? (mode.writer old new) = some written →
          read.map valueKey ⊆ written.map valueKey) ∧
      ∀ rangeEnd keyword, boundKeyword? (sharedType old new) rangeEnd = some keyword →
        BoundKept keyword rangeEnd (mode.reader old new) (mode.writer old new) := by
  have hends : (∀ rangeEnd, boundViolations mode property old new rangeEnd = []) ↔
      boundViolations mode property old new .lower = [] ∧
        boundViolations mode property old new .upper = [] := by
    constructor
    · exact fun h => ⟨h .lower, h .upper⟩
    · rintro ⟨hlower, hupper⟩ rangeEnd
      cases rangeEnd with
      | lower => exact hlower
      | upper => exact hupper
  rw [← bounds_eq_nil_iff, ← enumViolations_eq_nil_iff property,
    ← typeViolations_eq_nil_iff property, hends]
  simp only [propertyViolations, List.append_eq_nil_iff, and_assoc]

/-! ## Changing places -/

/-- A property that violates nothing and of which no bound is skipped does so in the other mode if
the versions change places. -/
theorem propertyViolations_converse {mode : Mode} {property : String} {old new : Json.Members} :
    (propertyViolations mode property old new = [] ∧ skippedBounds mode property old new = []) ↔
      (propertyViolations mode.converse property new old = [] ∧
        skippedBounds mode.converse property new old = []) := by
  rw [propertyViolations_eq_nil_iff, propertyViolations_eq_nil_iff, Mode.reader_converse,
    Mode.writer_converse]
  have htypes : (declaredType new = "" ∨ declaredType old = "" ∨
      declaredType new = declaredType old) ↔
        (declaredType old = "" ∨ declaredType new = "" ∨ declaredType old = declaredType new) := by
    rw [eq_comm (a := declaredType new) (b := declaredType old)]
    tauto
  rw [htypes]
  refine and_congr_right fun hagree => ?_
  rw [sharedType_comm ((typeViolations_eq_nil_iff property).2 hagree)]

/-- Required names violate nothing in the other mode if the versions change places. -/
theorem requiredViolations_converse {mode : Mode} {old new : FlatSchema} :
    requiredViolations mode old new = [] ↔ requiredViolations mode.converse new old = [] := by
  rw [requiredViolations_eq_nil_iff, requiredViolations_eq_nil_iff, Mode.reader_converse,
    Mode.writer_converse]

/-- What violates nothing and skips no bound does so in the other mode if the versions change
places. -/
theorem violations_converse {mode : Mode} {old new : Json}
    (h : violations mode old new = [] ∧ SkipsNoBound mode old new) :
    violations mode.converse new old = [] ∧ SkipsNoBound mode.converse new old := by
  obtain ⟨hnil, hskips⟩ := h
  obtain ⟨hrequired, hproperties⟩ := violations_eq_nil_iff.1 hnil
  have hboth : ∀ name inOld inNew, ComparedProperty new old name inOld inNew →
      propertyViolations mode.converse name inOld inNew = [] ∧
        skippedBounds mode.converse name inOld inNew = [] := by
    intro name inOld inNew hcompared
    exact propertyViolations_converse.1
      ⟨hproperties _ _ _ hcompared.symm, hskips _ _ _ hcompared.symm⟩
  refine ⟨violations_eq_nil_iff.2 ⟨?_, ?_⟩, ?_⟩
  · intro levelOld levelNew hlevel
    exact requiredViolations_converse.1 (hrequired _ _ hlevel.symm)
  · exact fun name inOld inNew hcompared => (hboth name inOld inNew hcompared).1
  · exact fun name inOld inNew hcompared => (hboth name inOld inNew hcompared).2

/-- No bound is skipped if every property that is compared has a type in the old version, or none
in the new one. -/
theorem skipsNoBound_of_typed {mode : Mode} {old new : Json}
    (h : ∀ name inOld inNew, ComparedProperty old new name inOld inNew →
      declaredType inOld = "" → declaredType inNew = "") : SkipsNoBound mode old new := by
  intro name inOld inNew hcompared
  unfold skippedBounds
  split
  next hold =>
    have hnone (rangeEnd : RangeEnd) :
        boundViolations mode name (typedLike inNew inOld) inNew rangeEnd = [] := by
      rw [boundViolations_eq_nil_iff, declaredType_typedLike, h _ _ _ hcompared hold]
      intro keyword hkeyword
      simp [boundKeyword?] at hkeyword
    rw [hnone, hnone]
    rfl
  next => rfl

/-- Forward comparison finds nothing and skips no bound exactly if backward comparison does with
the places of the versions exchanged.  So the two give the same verdict wherever every property that
is compared, at whatever depth, has a type in both versions or in neither. -/
theorem forward_iff_backward (old new : Json) :
    (violations .forward old new = [] ∧ SkipsNoBound .forward old new ↔
      violations .backward new old = [] ∧ SkipsNoBound .backward new old) ∧
    ((∀ name inOld inNew, ComparedProperty old new name inOld inNew →
        (declaredType inOld = "" ↔ declaredType inNew = "")) →
      (violations .forward old new = [] ↔ violations .backward new old = [])) := by
  have hiff : violations .forward old new = [] ∧ SkipsNoBound .forward old new ↔
      violations .backward new old = [] ∧ SkipsNoBound .backward new old :=
    ⟨violations_converse, violations_converse⟩
  refine ⟨hiff, fun htyped => ?_⟩
  have hforward : SkipsNoBound .forward old new :=
    skipsNoBound_of_typed fun name inOld inNew hcompared => (htyped _ _ _ hcompared).1
  have hbackward : SkipsNoBound .backward new old :=
    skipsNoBound_of_typed fun name inOld inNew hcompared => (htyped _ _ _ hcompared.symm).2
  simpa only [hforward, hbackward, and_true] using hiff

/-- Lines of an order with a greatest length of their size. -/
def sizedLine (maxLength : Int) : Json.Members :=
  [("type", .str "object"), ("properties", .obj
    [("size", .obj [("type", .str "string"), ("maxLength", .int maxLength)])])]

/-- Orders with a least count and a line. -/
def sizedOrder (minimum maxLength : Int) : Json :=
  .obj [("properties", .obj
    [("count", .obj [("type", .str "number"), ("minimum", .int minimum)]),
      ("line", .obj (sizedLine maxLength))])]

/-- The property of a line is a text. -/
theorem declaredType_of_sizedLine {maxLength : Int} {name : String} {members : Json.Members}
    (h : find? name (Json.obj (sizedLine maxLength)).flatten.properties = some (.obj members)) :
    declaredType members = "string" := by
  have hmem : (name, Json.obj members) ∈ [("size",
      Json.obj [("type", .str "string"), ("maxLength", .int maxLength)])] := mem_of_find? h
  rw [List.mem_singleton] at hmem
  obtain ⟨-, rfl⟩ := hmem
  rfl

/-- The properties of an order are a number and a line. -/
theorem eq_sizedLine_of_sizedOrder {minimum maxLength : Int} {name : String}
    {members : Json.Members}
    (h : find? name (sizedOrder minimum maxLength).flatten.properties = some (.obj members)) :
    declaredType members = "number" ∨ members = sizedLine maxLength := by
  have hmem : (name, Json.obj members) ∈
      [("count", Json.obj [("type", .str "number"), ("minimum", .int minimum)]),
        ("line", .obj (sizedLine maxLength))] := mem_of_find? h
  simp only [List.mem_cons, Prod.mk.injEq, Json.obj.injEq, List.not_mem_nil, or_false] at hmem
  rcases hmem with ⟨-, rfl⟩ | ⟨-, rfl⟩
  · exact .inl rfl
  · exact .inr rfl

/-- Every property that is compared between sized orders has a type in both. -/
theorem typed_sizedOrder {minimum minimum' maxLength maxLength' : Int} {name : String}
    {inOld inNew : Json.Members}
    (h : ComparedProperty (sizedOrder minimum maxLength) (sizedOrder minimum' maxLength') name
      inOld inNew) : declaredType inOld ≠ "" ∧ declaredType inNew ≠ "" := by
  have htyped {members : Json.Members} {maxLength : Int}
      (h : declaredType members = "number" ∨ members = sizedLine maxLength) :
      declaredType members ≠ "" ∧ declaredType members ≠ "array" := by
    rcases h with htype | rfl
    · simp [htype]
    · simp [declaredType, sizedLine, Json.getString?, find?]
  obtain ⟨levelOld, levelNew, hlevel, hold, hnew⟩ := h
  cases hlevel with
  | self =>
    exact ⟨(htyped (eq_sizedLine_of_sizedOrder hold)).1,
      (htyped (eq_sizedLine_of_sizedOrder hnew)).1⟩
  | object hline hline' holdType hnewType hbelow =>
    obtain rfl := (eq_sizedLine_of_sizedOrder hline).resolve_left (by simp [holdType])
    obtain rfl := (eq_sizedLine_of_sizedOrder hline').resolve_left (by simp [hnewType])
    cases hbelow with
    | self =>
      rw [declaredType_of_sizedLine hold, declaredType_of_sizedLine hnew]
      decide
    | object hsize _ htype _ _ =>
      rw [declaredType_of_sizedLine hsize] at htype
      exact absurd htype (by decide)
    | items hsize _ htype _ _ _ _ =>
      rw [declaredType_of_sizedLine hsize] at htype
      exact absurd htype (by decide)
  | items hline _ holdType _ _ _ _ =>
    exact absurd holdType (htyped (eq_sizedLine_of_sizedOrder hline)).2

/-- A greater minimum is compatible forward with a smaller one, which is compatible backward with
it. -/
theorem forward_iff_backward_sizedOrder :
    (∀ name inOld inNew, ComparedProperty (sizedOrder 1 5) (sizedOrder 2 4) name inOld inNew →
      (declaredType inOld = "" ↔ declaredType inNew = "")) ∧
    violations .forward (sizedOrder 1 5) (sizedOrder 2 4) = [] ∧
    violations .backward (sizedOrder 2 4) (sizedOrder 1 5) = [] := by
  have hforward : violations .forward (sizedOrder 1 5) (sizedOrder 2 4) = [] := by decide +kernel
  have htyped : ∀ name inOld inNew,
      ComparedProperty (sizedOrder 1 5) (sizedOrder 2 4) name inOld inNew →
        (declaredType inOld = "" ↔ declaredType inNew = "") := by
    intro name inOld inNew hcompared
    obtain ⟨hold, hnew⟩ := typed_sizedOrder hcompared
    exact iff_of_false hold hnew
  exact ⟨htyped, hforward, ((forward_iff_backward _ _).2 htyped).1 hforward⟩

/-- A schema with one property, a count. -/
def countSchema (count : Json.Members) : Json :=
  .obj [("properties", .obj [("count", .obj count)])]

/-- A minimum that goes as a type comes is skipped forward but found backward with the places
exchanged, and a type and a minimum that go together are found forward but skipped backward. -/
theorem forward_backward_differ :
    let untyped := countSchema [("minimum", .int 5)]
    let number := countSchema [("type", .str "number")]
    let atLeast := countSchema [("type", .str "number"), ("minimum", .int 5)]
    let anything := countSchema []
    boundsAreRepresentable untyped number = true ∧ boundsAreRepresentable number untyped = true ∧
    violations .forward untyped number = [] ∧
    (violations .backward number untyped).map (·.message) =
      ["Property 'count' added minimum constraint: 5"] ∧
    (violations .forward atLeast anything).map (·.message) =
      ["Property 'count' removed minimum constraint"] ∧
    violations .backward anything atLeast = [] := by
  decide +kernel

end TypeRegistry
