import TypeRegistry.Cast
import TypeRegistry.Proofs.Lookup

/-!
# One level of a cast

A cast works on the members of one object in passes: defaults for required and for other
properties, identifiers that are pinned, properties that are dropped.  An object on which none of
the passes has anything to do is *settled*.  A level is settled once it was cast, and a settled
level is cast to itself.

Main results:

- Theorem `isSettled_castLevel`: the passes leave a settled level behind.
- Theorem `IsSettled.castLevel`: the passes change nothing on a settled level and note neither
  additions nor removals.
-/

namespace TypeRegistry

open Dictionary

/-- A level of an object on which a cast has nothing to do: what is missing has no default, no
identifier is to be exchanged, and no property is to be dropped. -/
structure IsSettled (schema : FlatSchema) (members : Json.Members) : Prop where
  required : ∀ name ∈ schema.requiredNames,
    has name members = true ∨ default? (find? name schema.properties) = none
  optional : ∀ entry ∈ schema.properties,
    entry.1 ∈ schema.requiredNames ∨ has entry.1 members = true ∨ default? (some entry.2) = none
  pinned : ∀ member ∈ members,
    (find? member.1 schema.properties).bind (pinnedIdentifier? · member.2) = none
  declared : isClosed schema = true → ∀ member ∈ members, has member.1 schema.properties = true

/-- Notes of nothing added and nothing removed. -/
def CastNotes.IsQuiet (notes : CastNotes) : Prop :=
  notes.added = [] ∧ notes.removed = []

/-- Quiet notes after quiet notes are quiet. -/
theorem CastNotes.IsQuiet.append {first second : CastNotes} (hfirst : first.IsQuiet)
    (hsecond : second.IsQuiet) : (first.append second).IsQuiet := by
  simp only [IsQuiet, CastNotes.append, hfirst.1, hfirst.2, hsecond.1, hsecond.2]
  exact ⟨rfl, rfl⟩

/-- The notes of parts with quiet notes are quiet. -/
theorem CastNotes.isQuiet_concat {parts : List CastNotes} (h : ∀ notes ∈ parts, notes.IsQuiet) :
    (concat parts).IsQuiet := by
  induction parts with
  | nil => exact ⟨rfl, rfl⟩
  | cons first rest ih =>
    have hrest := ih fun notes hnotes => h notes (List.mem_cons_of_mem _ hnotes)
    exact (h first List.mem_cons_self).append hrest

/-! ## Defaults of required properties -/

/-- Filling in required properties loses no member. -/
theorem has_fillRequired {properties : Json.Members} {path name : String} {casting : Casting}
    {names : List String} (h : has name casting.members = true) :
    has name (fillRequired properties path casting names).members = true := by
  induction names generalizing casting with
  | nil => exact h
  | cons first rest ih =>
    simp only [fillRequired]
    split
    · exact ih h
    · split
      · apply ih
        simp [has_put, h]
      · exact ih h

/-- A required property is there in the end, unless it has no default. -/
theorem fillRequired_fills {properties : Json.Members} {path : String} {casting : Casting}
    {names : List String} :
    ∀ name ∈ names, has name (fillRequired properties path casting names).members = true ∨
      default? (find? name properties) = none := by
  induction names generalizing casting with
  | nil => simp
  | cons first rest ih =>
    intro name hname
    simp only [fillRequired]
    rcases List.mem_cons.1 hname with rfl | hname
    · split
      next hhas => exact .inl (has_fillRequired hhas)
      next =>
        split
        next value _ =>
          left
          apply has_fillRequired
          simp [has]
        next hnone => exact .inr hnone
    · split
      · exact ih name hname
      · split
        · exact ih name hname
        · exact ih name hname

/-- Where no required property can be filled in, only missing ones are noted. -/
theorem fillRequired_of_filled {properties : Json.Members} {path : String} {casting : Casting}
    {names : List String}
    (h : ∀ name ∈ names, has name casting.members = true ∨
      default? (find? name properties) = none) :
    (fillRequired properties path casting names).members = casting.members ∧
      (casting.notes.IsQuiet →
        (fillRequired properties path casting names).notes.IsQuiet) := by
  induction names generalizing casting with
  | nil => exact ⟨rfl, id⟩
  | cons name rest ih =>
    have hrest : ∀ other ∈ rest,
        has other casting.members = true ∨ default? (find? other properties) = none :=
      fun other hother => h other (List.mem_cons_of_mem _ hother)
    simp only [fillRequired]
    split
    · exact ih hrest
    next hhas =>
      rw [(h name List.mem_cons_self).resolve_left hhas]
      obtain ⟨hmembers, hquiet⟩ := @ih
        ⟨casting.members, casting.notes.append { missing := [memberPath path name] }⟩ hrest
      exact ⟨hmembers, fun hnotes => hquiet (hnotes.append ⟨rfl, rfl⟩)⟩

/-! ## Defaults of other properties -/

/-- Filling in other properties loses no member. -/
theorem has_fillOptional {required : List String} {path name : String} {casting : Casting}
    {properties : Json.Members} (h : has name casting.members = true) :
    has name (fillOptional required path casting properties).members = true := by
  induction properties generalizing casting with
  | nil => exact h
  | cons entry rest ih =>
    obtain ⟨key, property⟩ := entry
    simp only [fillOptional]
    split
    · exact ih h
    · split
      · apply ih
        simp [has_put, h]
      · exact ih h

/-- A property that is not required is there in the end, unless it has no default. -/
theorem fillOptional_fills {required : List String} {path : String} {casting : Casting}
    {properties : Json.Members} :
    ∀ entry ∈ properties, entry.1 ∈ required ∨
      has entry.1 (fillOptional required path casting properties).members = true ∨
      default? (some entry.2) = none := by
  induction properties generalizing casting with
  | nil => simp
  | cons first rest ih =>
    obtain ⟨key, property⟩ := first
    intro entry hentry
    simp only [fillOptional]
    rcases List.mem_cons.1 hentry with rfl | hentry
    · split
      next hskip =>
        rw [Bool.or_eq_true, decide_eq_true_eq] at hskip
        rcases hskip with hrequired | hhas
        · exact .inl hrequired
        · exact .inr (.inl (has_fillOptional hhas))
      next =>
        split
        next value _ =>
          right
          left
          apply has_fillOptional
          simp [has]
        next hnone => exact .inr (.inr hnone)
    · split
      · exact ih entry hentry
      · split
        · exact ih entry hentry
        · exact ih entry hentry

/-- Where no other property can be filled in, nothing is. -/
theorem fillOptional_of_filled {required : List String} {path : String} {casting : Casting}
    {properties : Json.Members}
    (h : ∀ entry ∈ properties, entry.1 ∈ required ∨ has entry.1 casting.members = true ∨
      default? (some entry.2) = none) :
    fillOptional required path casting properties = casting := by
  induction properties with
  | nil => rfl
  | cons entry rest ih =>
    obtain ⟨key, property⟩ := entry
    have hrest := ih fun other hother => h other (List.mem_cons_of_mem _ hother)
    simp only [fillOptional]
    split
    · exact hrest
    next hskip =>
      rw [Bool.or_eq_true, decide_eq_true_eq, not_or] at hskip
      have hnone := ((h _ List.mem_cons_self).resolve_left hskip.1).resolve_left hskip.2
      rw [hnone]
      exact hrest

/-! ## Pinned identifiers -/

/-- The identifier that a property schema pins. -/
def pinned? (property : Json) : Option String :=
  match property.get? "const" with
  | some (.str id) => if Identifier.isValid id then some id else none
  | _ => none

/-- Only an identifier is pinned. -/
theorem isValid_of_pinned {property : Json} {id : String} (h : pinned? property = some id) :
    Identifier.isValid id = true := by
  unfold pinned? at h
  split at h
  next pinned hconst =>
    split at h
    next hvalid => exact Option.some.inj h ▸ hvalid
    next => cases h
  next => cases h

/-- An exchange of identifiers shows what the property schema pins and that the value is an
identifier. -/
theorem pinnedIdentifier?_eq_some {property value : Json} {id : String}
    (h : pinnedIdentifier? property value = some id) :
    pinned? property = some id ∧
      ∃ current, value = .str current ∧ Identifier.isValid current = true := by
  unfold pinnedIdentifier? at h
  split at h
  next pinned current hconst =>
    split at h
    next hexchange =>
      obtain rfl := Option.some.inj h
      simp only [Bool.and_eq_true] at hexchange
      refine ⟨?_, current, rfl, hexchange.2⟩
      simp only [pinned?, hconst, hexchange.1.2, if_true]
    next => cases h
  next => cases h

/-- Under a property schema that pins an identifier, every other identifier is exchanged for that
one. -/
theorem pinnedIdentifier?_of_pinned {property : Json} {id current : String}
    (hpinned : pinned? property = some id) (hcurrent : Identifier.isValid current = true) :
    pinnedIdentifier? property (.str current) = if current = id then none else some id := by
  unfold pinned? at hpinned
  split at hpinned
  next pinned hconst =>
    split at hpinned
    next hvalid =>
      obtain rfl := Option.some.inj hpinned
      simp only [pinnedIdentifier?, hconst, hvalid, hcurrent]
      by_cases heq : current = pinned
      · simp [heq]
      · simp [heq]
    next => cases hpinned
  next => cases hpinned

/-- The value of a member once the identifier that its property schema pins is exchanged. -/
def pinnedValue (properties : Json.Members) (name : String) (value : Json) : Json :=
  match (find? name properties).bind (pinnedIdentifier? · value) with
  | some pinned => .str pinned
  | none => value

/-- Exchanging identifiers changes values only. -/
theorem pinIdentifiers_eq (properties members : Json.Members) :
    pinIdentifiers properties members =
      members.map fun member => (member.1, pinnedValue properties member.1 member.2) := by
  unfold pinIdentifiers
  apply List.map_congr_left
  rintro ⟨name, value⟩ _
  simp only [pinnedValue]
  cases (find? name properties).bind (pinnedIdentifier? · value) <;> rfl

/-- An identifier that was exchanged is the pinned one, so it is not exchanged again. -/
theorem pinnedIdentifier?_pinnedValue (properties : Json.Members) (name : String) (value : Json) :
    (find? name properties).bind (pinnedIdentifier? · (pinnedValue properties name value)) =
      none := by
  cases hfind : find? name properties with
  | none => rfl
  | some property =>
    simp only [pinnedValue, hfind, Option.bind_some]
    cases hpinned : pinnedIdentifier? property value with
    | none => exact hpinned
    | some pinned =>
      obtain ⟨hown, -⟩ := pinnedIdentifier?_eq_some hpinned
      show pinnedIdentifier? property (.str pinned) = none
      rw [pinnedIdentifier?_of_pinned hown (isValid_of_pinned hown), if_pos rfl]

/-- Where no identifier is to be exchanged, the members stay. -/
theorem pinIdentifiers_of_pinned {properties members : Json.Members}
    (h : ∀ member ∈ members,
      (find? member.1 properties).bind (pinnedIdentifier? · member.2) = none) :
    pinIdentifiers properties members = members := by
  have hvalue : ∀ member ∈ members,
      (member.1, pinnedValue properties member.1 member.2) = id member := by
    rintro ⟨name, value⟩ hmember
    simp [pinnedValue, h _ hmember]
  rw [pinIdentifiers_eq, List.map_congr_left hvalue, List.map_id]

/-- Exchanging identifiers keeps the names. -/
theorem has_pinIdentifiers (name : String) (properties members : Json.Members) :
    has name (pinIdentifiers properties members) = has name members := by
  rw [pinIdentifiers_eq, has, find?_mapValues, Option.isSome_map, has]

/-! ## Dropped properties -/

/-- A property that stays was there, and is declared if the schema is closed. -/
theorem has_dropUndeclared {schema : FlatSchema} {path name : String} {casting : Casting}
    (h : has name schema.properties = true) :
    has name (dropUndeclared schema path casting).members = has name casting.members := by
  unfold dropUndeclared
  split
  · rw [has_filter_names (fun key => has key schema.properties), h, Bool.true_and]
  · rfl

/-- What stays was there. -/
theorem mem_of_mem_dropUndeclared {schema : FlatSchema} {path : String} {casting : Casting}
    {member : String × Json} (h : member ∈ (dropUndeclared schema path casting).members) :
    member ∈ casting.members := by
  unfold dropUndeclared at h
  split at h
  · exact (List.mem_filter.1 h).1
  · exact h

/-- What stays under a closed schema is declared. -/
theorem declared_of_mem_dropUndeclared {schema : FlatSchema} {path : String} {casting : Casting}
    {member : String × Json} (hclosed : isClosed schema = true)
    (h : member ∈ (dropUndeclared schema path casting).members) :
    has member.1 schema.properties = true := by
  rw [dropUndeclared, if_pos hclosed] at h
  exact (List.mem_filter.1 h).2

/-- Where every property is declared or the schema is open, nothing is dropped. -/
theorem dropUndeclared_of_declared {schema : FlatSchema} {path : String} {casting : Casting}
    (h : isClosed schema = true → ∀ member ∈ casting.members,
      has member.1 schema.properties = true) :
    (dropUndeclared schema path casting).members = casting.members ∧
      (casting.notes.IsQuiet → (dropUndeclared schema path casting).notes.IsQuiet) := by
  unfold dropUndeclared
  split
  next hclosed =>
    have hall := h hclosed
    constructor
    · exact List.filter_eq_self.2 hall
    · intro hnotes
      refine hnotes.append ⟨rfl, ?_⟩
      rw [List.map_eq_nil_iff, List.filter_eq_nil_iff]
      intro name hname
      obtain ⟨member, hmember, rfl⟩ := List.mem_map.1 hname
      simp [hall member hmember]
  next => exact ⟨rfl, id⟩

/-! ## All passes -/

/-- The object with defaults of both kinds, before identifiers are exchanged. -/
def filled (schema : FlatSchema) (path : String) (members : Json.Members) : Casting :=
  let required := Text.distinct schema.requiredNames
  fillOptional required path (fillRequired schema.properties path ⟨members, {}⟩ required)
    schema.properties

/-- A level is filled in first; then identifiers are exchanged and properties dropped. -/
theorem castLevel_eq (schema : FlatSchema) (path : String) (members : Json.Members) :
    castLevel schema path members = dropUndeclared schema path
      ⟨pinIdentifiers schema.properties (filled schema path members).members,
        (filled schema path members).notes⟩ :=
  rfl

/-- Where no default is left to fill in, nothing is. -/
theorem filled_of_defaults {schema : FlatSchema} {members : Json.Members}
    (hrequired : ∀ name ∈ schema.requiredNames,
      has name members = true ∨ default? (find? name schema.properties) = none)
    (hoptional : ∀ entry ∈ schema.properties,
      entry.1 ∈ schema.requiredNames ∨ has entry.1 members = true ∨
        default? (some entry.2) = none) (path : String) :
    (filled schema path members).members = members ∧
      (filled schema path members).notes.IsQuiet := by
  obtain ⟨hmembers, hquiet⟩ := @fillRequired_of_filled schema.properties path ⟨members, {}⟩
    (Text.distinct schema.requiredNames)
    (fun name hname => hrequired name (Text.mem_distinct.1 hname))
  have hfilled : filled schema path members =
      fillRequired schema.properties path ⟨members, {}⟩ (Text.distinct schema.requiredNames) := by
    apply fillOptional_of_filled
    intro entry hentry
    rw [hmembers, Text.mem_distinct]
    exact hoptional entry hentry
  rw [hfilled]
  exact ⟨hmembers, hquiet ⟨rfl, rfl⟩⟩

/-- The passes leave a settled level behind. -/
theorem isSettled_castLevel (schema : FlatSchema) (path : String) (members : Json.Members) :
    IsSettled schema (castLevel schema path members).members := by
  have hcast := castLevel_eq schema path members
  have hkept {name : String} (hdeclared : has name schema.properties = true) :
      has name (castLevel schema path members).members =
        has name (filled schema path members).members := by
    rw [hcast, has_dropUndeclared hdeclared, has_pinIdentifiers]
  constructor
  case required =>
    intro name hname
    by_cases hdeclared : has name schema.properties = true
    · rw [hkept hdeclared]
      exact (fillRequired_fills name (Text.mem_distinct.2 hname)).imp_left has_fillOptional
    · right
      rw [has, Bool.not_eq_true, Option.isSome_eq_false_iff, Option.isNone_iff_eq_none]
        at hdeclared
      rw [hdeclared]
      rfl
  case optional =>
    intro entry hentry
    rw [hkept (has_of_mem hentry)]
    exact (fillOptional_fills entry hentry).imp_left Text.mem_distinct.1
  case pinned =>
    intro member hmember
    rw [hcast] at hmember
    have hpinned := mem_of_mem_dropUndeclared hmember
    rw [pinIdentifiers_eq] at hpinned
    obtain ⟨⟨name, value⟩, _, rfl⟩ := List.mem_map.1 hpinned
    exact pinnedIdentifier?_pinnedValue schema.properties name value
  case declared =>
    intro hclosed member hmember
    exact declared_of_mem_dropUndeclared hclosed hmember

/-- On a settled level the passes change nothing. -/
theorem IsSettled.castLevel {schema : FlatSchema} {members : Json.Members}
    (h : IsSettled schema members) (path : String) :
    (castLevel schema path members).members = members ∧
      (castLevel schema path members).notes.IsQuiet := by
  obtain ⟨hfilled, hquiet⟩ := filled_of_defaults h.required h.optional path
  obtain ⟨hmembers, hnotes⟩ := @dropUndeclared_of_declared schema path
    ⟨members, (filled schema path members).notes⟩ h.declared
  rw [castLevel_eq, hfilled, pinIdentifiers_of_pinned h.pinned]
  exact ⟨hmembers, hnotes hquiet⟩

end TypeRegistry
