import TypeRegistry.Proofs.Cast.Members
import TypeRegistry.Proofs.Json.Locations

/-!
# What becomes of a location

A location of a document is a way of names and places into it.  A cast accounts for every location
of the object and for every location of its outcome: what stood somewhere still stands there, or the
notes name a member on the way that was dropped, or it is an identifier for which another one is
pinned; and what stands somewhere in the outcome only lies at or below a member that the notes name
as added.  The path of a location is the one that the cast writes: the names and places on the way,
one behind the other.

Main results:

- Definition `LevelAt`: the schema of the level that a cast meets at a location.
- Definition `Fate`: what becomes of the value at a location.
- Definition `CameIn`: a location lies at or below a member that came in.
- Theorem `castObject_accounts`: every location of an object has its fate, and every other location
  of the outcome came in.
-/

namespace TypeRegistry

open Dictionary

/-! ## What a cast accounts for -/

/-- A value is as another one, or they are containers of one kind, arrays being of one length. -/
inductive SameKind : Json → Json → Prop
  | same (value : Json) : SameKind value value
  | arrays {items others : List Json} : items.length = others.length →
    SameKind (.arr items) (.arr others)
  | objects (members others : Json.Members) : SameKind (.obj members) (.obj others)

/-- At a location of an object that is cast to a schema, the cast meets an object and casts it to
the schema of the level. -/
inductive LevelAt : (schema : Json) → List PathStep → (level : Json) → Prop
  /-- The object itself. -/
  | here (schema : Json) : LevelAt schema [] schema
  /-- An object under a schema of objects. -/
  | member {schema property level : Json} {inner : Json.Members} {name : String}
    {rest : List PathStep} : find? name schema.flatten.properties = some property →
      nested? .object property = some inner → LevelAt (.obj inner) rest level →
      LevelAt schema (.name name :: rest) level
  /-- An object in an array under a schema of arrays of objects. -/
  | item {schema property level : Json} {inner : Json.Members} {name : String} {place : Nat}
    {rest : List PathStep} : find? name schema.flatten.properties = some property →
      nested? .items property = some inner → LevelAt (.obj inner) rest level →
      LevelAt schema (.name name :: .place place :: rest) level

/-- What becomes of the value at a location of an object that is cast. -/
inductive Fate (schema : Json) (path : String) (casting : Casting) (location : List PathStep)
    (value : Json) : Prop
  /-- At the same location there is the same value or a container of the same kind. -/
  | kept {result : Json} : Json.at? location (.obj casting.members) = some result →
    SameKind value result → Fate schema path casting location value
  /-- A member on the way is not declared by the closed schema of its level.  It is not there any
  more, and its path is noted. -/
  | dropped (front : List PathStep) (name : String) (rest : List PathStep) {level : Json} :
    location = front ++ .name name :: rest → LevelAt schema front level →
      isClosed level.flatten = true → has name level.flatten.properties = false →
      Json.at? (front ++ [.name name]) (.obj casting.members) = none →
      locationPath path (front ++ [.name name]) ∈ casting.notes.removed →
      Fate schema path casting location value
  /-- The value is an identifier.  The schema of its level pins another one, which is there now. -/
  | exchanged (front : List PathStep) (name : String) {current pinned : String}
    {level property : Json} :
    location = front ++ [.name name] → LevelAt schema front level →
      find? name level.flatten.properties = some property →
      property.get? "const" = some (.str pinned) → Identifier.isValid pinned = true →
      value = .str current → Identifier.isValid current = true → current ≠ pinned →
      Json.at? location (.obj casting.members) = some (.str pinned) →
      Fate schema path casting location value

/-- A location lies at or below a member that the object did not have and that is noted as added. -/
def CameIn (path : String) (members : Json.Members) (casting : Casting)
    (location : List PathStep) : Prop :=
  ∃ front name rest, location = front ++ .name name :: rest ∧
    Json.at? (front ++ [.name name]) (.obj members) = none ∧
    locationPath path (front ++ [.name name]) ∈ casting.notes.added

/-- A cast of an object to a schema accounts for all locations of the object and of the outcome. -/
def AccountsFor (schema : Json) : Prop :=
  ∀ path members,
    (∀ location value, Json.at? location (.obj members) = some value →
      Fate schema path (castObject schema path members) location value) ∧
    ∀ location value,
      Json.at? location (.obj (castObject schema path members).members) = some value →
      Json.at? location (.obj members) = none →
      CameIn path members (castObject schema path members) location

/-! ## Casts further down -/

section Further

variable {schema : Json} {inner : Json.Members} {path : String} {location : List PathStep}
  {casting nested : Casting} {value : Json}

/-- What becomes of a location of an object further down becomes of it in the whole. -/
theorem Fate.further (steps : List PathStep)
    (hlevel : ∀ {front level}, LevelAt (.obj inner) front level →
      LevelAt schema (steps ++ front) level)
    (hat : Json.at? steps (.obj casting.members) = some (.obj nested.members))
    (hnotes : casting.notes.Covers nested.notes)
    (h : Fate (.obj inner) (locationPath path steps) nested location value) :
    Fate schema path casting (steps ++ location) value := by
  have hbelow : ∀ rest, Json.at? (steps ++ rest) (.obj casting.members) =
      Json.at? rest (.obj nested.members) := by
    intro rest
    rw [Json.at?_append, hat, Option.bind_some]
  cases h with
  | kept hresult hkind => exact .kept ((hbelow location).trans hresult) hkind
  | dropped front name rest hlocation hschema hclosed hdeclared hnone hremoved =>
    refine .dropped (steps ++ front) name rest (by rw [hlocation, List.append_assoc])
      (hlevel hschema) hclosed hdeclared ?_ ?_
    · rw [List.append_assoc, hbelow, hnone]
    · rw [List.append_assoc, locationPath, List.foldl_append]
      exact hnotes.removed hremoved
  | exchanged front name hlocation hschema hproperty hconst hpinned hvalue hcurrent hne hresult =>
    exact .exchanged (steps ++ front) name (by rw [hlocation, List.append_assoc])
      (hlevel hschema) hproperty hconst hpinned hvalue hcurrent hne
      ((hbelow location).trans hresult)

/-- What came in further down came in in the whole. -/
theorem CameIn.further (steps : List PathStep) {members object : Json.Members}
    (hat : Json.at? steps (.obj members) = some (.obj object))
    (hnotes : casting.notes.Covers nested.notes)
    (h : CameIn (locationPath path steps) object nested location) :
    CameIn path members casting (steps ++ location) := by
  obtain ⟨front, name, rest, rfl, hnone, hadded⟩ := h
  refine ⟨steps ++ front, name, rest, by rw [List.append_assoc], ?_, ?_⟩
  · rw [List.append_assoc, Json.at?_append, hat, Option.bind_some, hnone]
  · rw [List.append_assoc, locationPath, List.foldl_append]
    exact hnotes.added hadded

end Further

/-- A schema of objects or items that a cast follows is no greater than the property schema. -/
theorem sizeOf_le_of_nested? {nesting : Nesting} {property : Json} {inner : Json.Members}
    (h : nested? nesting property = some inner) : sizeOf (Json.obj inner) ≤ sizeOf property := by
  cases nesting with
  | object =>
    obtain ⟨rfl, -⟩ := nested?_object h
    exact Nat.le_refl _
  | items =>
    obtain ⟨array, rfl, -, hitems, -⟩ := nested?_items h
    have hsmaller := Json.sizeOf_lt_of_find? hitems
    simp only [Json.obj.sizeOf_spec] at hsmaller ⊢
    omega

/-- What stands below a place among the items of a cast array stands there in the cast item. -/
theorem at?_castItems (inner : Json.Members) (path : String) (items : List Json) (place : Nat)
    (steps : List PathStep) :
    Json.at? (.place place :: steps) (.arr ((castItems inner path 0 items).map (·.value))) =
      items[place]?.bind fun item => Json.at? steps (castItem inner path place item).value := by
  rw [Json.at?_place, List.getElem?_map, getElem?_castItems, Option.map_map, Option.bind_map]
  rfl

/-! ## Members -/

/-- An exchange takes place between two different identifiers, one of which is pinned. -/
theorem const_of_pinnedIdentifier? {property : Json} {current pinned : String}
    (h : pinnedIdentifier? property (.str current) = some pinned) :
    property.get? "const" = some (.str pinned) ∧ Identifier.isValid pinned = true ∧
      Identifier.isValid current = true ∧ current ≠ pinned := by
  unfold pinnedIdentifier? at h
  split at h
  next const text hconst htext =>
    obtain rfl := Json.str.inj htext
    split at h
    next hexchange =>
      obtain rfl := Option.some.inj h
      simp only [Bool.and_eq_true, decide_eq_true_eq] at hexchange
      exact ⟨hconst, hexchange.1.2, hexchange.2, hexchange.1.1⟩
    next => cases h
  next => cases h

section Members

variable {schema : Json} {path name : String} {members : Json.Members} {before after : Json}
  (hbelow : ∀ {property inner} {nesting : Nesting},
    find? name schema.flatten.properties = some property → nested? nesting property = some inner →
      AccountsFor (.obj inner))
  (hbefore : find? name members = some before)
  (hafter : find? name (castObject schema path members).members = some after)
  (h : CarriedOver schema path name (castObject schema path members).notes before after)
include hbelow hbefore hafter h

omit hbefore in
/-- Whatever is at or below a member that is carried over has its fate. -/
theorem fate_of_carriedOver {rest : List PathStep} {value : Json}
    (hat : Json.at? rest before = some value) :
    Fate schema path (castObject schema path members) (.name name :: rest) value := by
  have hresult : ∀ steps, Json.at? (.name name :: steps)
      (.obj (castObject schema path members).members) = Json.at? steps after := by
    intro steps
    rw [Json.at?_name, hafter, Option.bind_some]
  cases h with
  | same => exact .kept ((hresult rest).trans hat) (.same value)
  | exchanged hproperty hpinned =>
    obtain ⟨rfl, rfl⟩ := Json.at?_str hat
    obtain ⟨hconst, hvalid, hcurrent, hne⟩ := const_of_pinnedIdentifier? hpinned
    exact .exchanged [] name rfl (.here schema) hproperty hconst hvalid rfl hcurrent hne
      (hresult [])
  | @object _ _ object hproperty hnested hnotes =>
    have hfate := (hbelow hproperty hnested (memberPath path name) object).1 rest value hat
    exact hfate.further [.name name] (.member hproperty hnested) (hresult []) hnotes
  | @items _ inner items hproperty hnested hnotes =>
    cases rest with
    | nil =>
      obtain rfl := Option.some.inj hat
      exact .kept (hresult []) (.arrays (by simp [castItems]))
    | cons step rest =>
      cases step with
      | name => cases hat
      | place place =>
        rw [Json.at?_place] at hat
        obtain ⟨item, hitem, hat⟩ := Option.bind_eq_some_iff.1 hat
        have hplace : ∀ steps, Json.at? (.name name :: .place place :: steps)
            (.obj (castObject schema path members).members) =
              Json.at? steps (castItem inner (memberPath path name) place item).value := by
          intro steps
          rw [hresult, at?_castItems, hitem, Option.bind_some]
        cases item with
        | obj object =>
          have hfate := (hbelow hproperty hnested (itemPath (memberPath path name) place)
            object).1 rest value hat
          exact hfate.further [.name name, .place place] (.item hproperty hnested) (hplace [])
            (hnotes hitem)
        | null | bool _ | int _ | float _ | str _ | arr _ =>
          exact .kept ((hplace rest).trans hat) (.same value)

omit hafter in
/-- Whatever is below a member that is carried over, and was not there before, came in. -/
theorem cameIn_of_carriedOver {rest : List PathStep} {value : Json}
    (hat : Json.at? rest after = some value) (hnone : Json.at? rest before = none) :
    CameIn path members (castObject schema path members) (.name name :: rest) := by
  have hsource : ∀ steps, Json.at? (.name name :: steps) (.obj members) =
      Json.at? steps before := by
    intro steps
    rw [Json.at?_name, hbefore, Option.bind_some]
  cases h with
  | same =>
    rw [hat] at hnone
    cases hnone
  | exchanged =>
    obtain ⟨rfl, -⟩ := Json.at?_str hat
    cases hnone
  | @object _ _ object hproperty hnested hnotes =>
    have hcame :=
      (hbelow hproperty hnested (memberPath path name) object).2 rest value hat hnone
    exact hcame.further [.name name] (hsource []) hnotes
  | @items _ inner items hproperty hnested hnotes =>
    cases rest with
    | nil => cases hnone
    | cons step rest =>
      cases step with
      | name => cases hat
      | place place =>
        rw [at?_castItems] at hat
        obtain ⟨item, hitem, hat⟩ := Option.bind_eq_some_iff.1 hat
        rw [Json.at?_place, hitem, Option.bind_some] at hnone
        cases item with
        | obj object =>
          have hcame := (hbelow hproperty hnested (itemPath (memberPath path name) place)
            object).2 rest value hat hnone
          refine hcame.further [.name name, .place place] ?_ (hnotes hitem)
          rw [hsource, Json.at?_place, hitem]
          rfl
        | null | bool _ | int _ | float _ | str _ | arr _ =>
          rw [castItem] at hat
          · rw [hat] at hnone
            cases hnone
          · simp

end Members

/-! ## The main statement -/

/-- A cast accounts for all locations if the casts of what is nested in its properties do. -/
theorem accountsFor_of_below {schema : Json}
    (hbelow : ∀ {name property inner} {nesting : Nesting},
      find? name schema.flatten.properties = some property →
        nested? nesting property = some inner → AccountsFor (.obj inner)) :
    AccountsFor schema := by
  intro path members
  constructor
  · intro location value hat
    cases location with
    | nil =>
      obtain rfl := Option.some.inj hat
      exact .kept (Json.at?_nil _) (.objects _ _)
    | cons step rest =>
      cases step with
      | place => cases hat
      | name name =>
        rw [Json.at?_name] at hat
        obtain ⟨before, hbefore, hat⟩ := Option.bind_eq_some_iff.1 hat
        have hname := castObject_name schema path name members
        rw [hbefore] at hname
        generalize hafter : find? name (castObject schema path members).members = after at hname
        cases hname with
        | dropped _ hclosed hdeclared hremoved =>
          refine .dropped [] name rest rfl (.here schema) hclosed hdeclared ?_ hremoved
          rw [List.nil_append, Json.at?_name, hafter]
          rfl
        | carried hcarried => exact fate_of_carriedOver hbelow hafter hcarried hat
  · intro location value hat hnone
    cases location with
    | nil => cases hnone
    | cons step rest =>
      cases step with
      | place => cases hat
      | name name =>
        rw [Json.at?_name] at hat hnone
        obtain ⟨after, hafter, hat⟩ := Option.bind_eq_some_iff.1 hat
        have hname := castObject_name schema path name members
        rw [hafter] at hname
        generalize hbefore : find? name members = before at hname
        cases hname with
        | gained _ hadded =>
          refine ⟨[], name, rest, rfl, ?_, hadded⟩
          rw [List.nil_append, Json.at?_name, hbefore]
          rfl
        | carried hcarried =>
          rw [hbefore, Option.bind_some] at hnone
          exact cameIn_of_carriedOver hbelow hbefore hcarried hat hnone

/-- A cast of an object to a schema loses and invents nothing that it does not note.  At every
location of the object the same value stands in the outcome, or a container of the same kind, unless
the notes name a member on the way that its level does not allow, or the value is an identifier for
which its level pins another one, which stands there then.  Every location that is in the outcome
only lies at or below a member that the notes name as added. -/
theorem castObject_accounts (schema : Json) (path : String) (members : Json.Members) :
    (∀ location value, Json.at? location (.obj members) = some value →
      Fate schema path (castObject schema path members) location value) ∧
    ∀ location value,
      Json.at? location (.obj (castObject schema path members).members) = some value →
      Json.at? location (.obj members) = none →
      CameIn path members (castObject schema path members) location := by
  suffices haccounts : AccountsFor schema from haccounts path members
  clear path members
  induction hsize : sizeOf schema using Nat.strongRecOn generalizing schema with
  | ind size ih =>
    subst hsize
    apply accountsFor_of_below
    intro name property inner nesting hproperty hnested
    have hsmaller := Json.sizeOf_lt_of_find?_flatten hproperty
    have hinner := sizeOf_le_of_nested? hnested
    exact ih _ (by omega) _ rfl

end TypeRegistry
