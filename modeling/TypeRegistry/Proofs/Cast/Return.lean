import TypeRegistry.Proofs.Cast.Idempotence

/-!
# Casting back

A cast to a newer version of a schema fills in defaults, exchanges identifiers and does the same in
the objects below.  If the newer version *extends* an older one, which allows no properties but its
own, a cast back undoes this: what came in is unknown to the older version and is dropped, the
identifiers that it pins are put back, and all else is where it was.

Main results:

- Definition `FlatSchema.Extends`: a flattened schema that asks no more of the properties of an older
  closed one, at every level.
- Theorem `castLevel_gains`, `castLevel_drops`: what a level gains on the way and loses on the way
  back.
- Theorem `castMember_return`: a member comes back if what is nested in it does.
- Theorem `returns_of_below`: an object comes back if the objects below it do.
- Theorem `castObject_return`: an object that a cast to the older version leaves alone comes back
  from the newer version as it was.
-/

namespace TypeRegistry

open Dictionary

/-! ## Schemas that extend others -/

/-- Where a cast follows a property schema: into an object, or into the items of an array. -/
inductive Nesting where
  | object
  | items

/-- The schema of the objects that a cast finds there. -/
def nested? : Nesting → Json → Option Json.Members
  | .object, .obj property => if declaredType property = "object" then some property else none
  | .items, .obj property =>
    if declaredType property = "array" then
      match find? "items" property with
      | some (.obj inner) => if declaredType inner = "object" then some inner else none
      | _ => none
    else none
  | _, _ => none

/-- A newer schema of a property gives it a default, pins it or leads a cast further down only where
the older one does. -/
structure AsksNoMore (new old : Json) : Prop where
  default : (default? (some new)).isSome = true → (default? (some old)).isSome = true
  pinned : (pinned? new).isSome = true → (pinned? old).isSome = true
  nested : ∀ nesting, (nested? nesting new).isSome = true → (nested? nesting old).isSome = true

/-- A flattened schema extends an older one that is closed: it declares the properties of the older
one and asks no more of them, and where a property leads both into objects, its schema of these
extends that of the older one. -/
inductive FlatSchema.Extends : (new old : FlatSchema) → Prop
  | intro {new old : FlatSchema} (closed : isClosed old = true)
      (declared : ∀ {name}, has name old.properties = true → has name new.properties = true)
      (asks : ∀ {name inNew inOld}, find? name new.properties = some inNew →
        find? name old.properties = some inOld → AsksNoMore inNew inOld)
      (below : ∀ {name inNew inOld nesting belowNew belowOld},
        find? name new.properties = some inNew → find? name old.properties = some inOld →
        nested? nesting inNew = some belowNew → nested? nesting inOld = some belowOld →
        Extends (Json.obj belowNew).flatten (Json.obj belowOld).flatten) :
      Extends new old

/-- A property schema that leads into an object is one of objects. -/
theorem nested?_object {property : Json} {below : Json.Members}
    (h : nested? .object property = some below) :
    property = .obj below ∧ declaredType below = "object" := by
  cases property with
  | obj members =>
    simp only [nested?] at h
    split at h
    next htype =>
      obtain rfl := Option.some.inj h
      exact ⟨rfl, htype⟩
    next => cases h
  | null | bool _ | int _ | float _ | str _ | arr _ => cases h

/-- A property schema that leads into items is one of arrays of objects. -/
theorem nested?_items {property : Json} {below : Json.Members}
    (h : nested? .items property = some below) :
    ∃ members, property = .obj members ∧ declaredType members = "array" ∧
      find? "items" members = some (.obj below) ∧ declaredType below = "object" := by
  cases property with
  | obj members =>
    simp only [nested?] at h
    split at h
    next htype =>
      split at h
      next inner hitems =>
        split at h
        next hobject =>
          obtain rfl := Option.some.inj h
          exact ⟨members, rfl, htype, hitems, hobject⟩
        next => cases h
      next => cases h
    next => cases h
  | null | bool _ | int _ | float _ | str _ | arr _ => cases h

/-! ## What a level gains -/

/-- Members that come in under new names, each of which has a default. -/
def Gained (properties members gained : Json.Members) : Prop :=
  ∀ entry ∈ gained, has entry.1 members = false ∧
    (default? (find? entry.1 properties)).isSome = true

/-- A default that is put in is a gain. -/
theorem Gained.put {properties members gained : Json.Members} {name : String} {value : Json}
    (hfresh : has name members = false)
    (hdefault : (default? (find? name properties)).isSome = true)
    (h : Gained properties (put name value members) gained) :
    Dictionary.put name value members ++ gained = members ++ (name, value) :: gained ∧
      Gained properties members ((name, value) :: gained) := by
  have hnew : name ∉ keys members := by
    rw [← has_iff_mem_keys, hfresh]
    exact Bool.false_ne_true
  constructor
  · rw [put_of_not_mem hnew, List.append_assoc, List.singleton_append]
  · intro entry hentry
    rcases List.mem_cons.1 hentry with rfl | hentry
    · exact ⟨hfresh, hdefault⟩
    · obtain ⟨hhas, hother⟩ := h entry hentry
      rw [has_put, Bool.or_eq_false_iff] at hhas
      exact ⟨hhas.2, hother⟩

/-- Gains one after the other are a gain. -/
theorem Gained.append {properties members first second : Json.Members}
    (hfirst : Gained properties members first)
    (hsecond : Gained properties (members ++ first) second) :
    Gained properties members (first ++ second) := by
  intro entry hentry
  rcases List.mem_append.1 hentry with hentry | hentry
  · exact hfirst entry hentry
  · obtain ⟨hhas, hdefault⟩ := hsecond entry hentry
    rw [has_append, Bool.or_eq_false_iff] at hhas
    exact ⟨hhas.1, hdefault⟩

/-- Required properties come in behind the members that are there. -/
theorem fillRequired_gains (properties : Json.Members) (path : String) (casting : Casting)
    (names : List String) :
    ∃ gained, (fillRequired properties path casting names).members = casting.members ++ gained ∧
      Gained properties casting.members gained := by
  induction names generalizing casting with
  | nil => exact ⟨[], (List.append_nil _).symm, by simp [Gained]⟩
  | cons name rest ih =>
    simp only [fillRequired]
    split
    · exact ih casting
    next hfresh =>
      split
      next value hdefault =>
        obtain ⟨gained, hmembers, hgained⟩ := ih
          ⟨put name value casting.members,
            casting.notes.append { added := [memberPath path name] }⟩
        obtain ⟨hput, hgained⟩ := Gained.put (Bool.not_eq_true _ ▸ hfresh)
          (Option.isSome_of_eq_some hdefault) hgained
        exact ⟨(name, value) :: gained, hmembers.trans hput, hgained⟩
      next =>
        exact ih
          ⟨casting.members, casting.notes.append { missing := [memberPath path name] }⟩

/-- Other properties come in behind the members that are there. -/
theorem fillOptional_gains {properties entries : Json.Members}
    (hentries : ∀ entry ∈ entries, find? entry.1 properties = some entry.2)
    (required : List String) (path : String) (casting : Casting) :
    ∃ gained, (fillOptional required path casting entries).members = casting.members ++ gained ∧
      Gained properties casting.members gained := by
  induction entries generalizing casting with
  | nil => exact ⟨[], (List.append_nil _).symm, by simp [Gained]⟩
  | cons entry rest ih =>
    obtain ⟨name, property⟩ := entry
    have hrest := ih fun other hother => hentries other (List.mem_cons_of_mem _ hother)
    simp only [fillOptional]
    split
    · exact hrest casting
    next hskip =>
      rw [Bool.or_eq_true, not_or, Bool.not_eq_true, Bool.not_eq_true] at hskip
      split
      next value hdefault =>
        have hfound : find? name properties = some property :=
          hentries (name, property) List.mem_cons_self
        obtain ⟨gained, hmembers, hgained⟩ := hrest
          ⟨put name value casting.members,
            casting.notes.append { added := [memberPath path name] }⟩
        obtain ⟨hput, hgained⟩ := Gained.put hskip.2
          (hfound ▸ Option.isSome_of_eq_some hdefault) hgained
        exact ⟨(name, value) :: gained, hmembers.trans hput, hgained⟩
      next => exact hrest casting

/-- Defaults of both kinds come in behind the members that are there. -/
theorem filled_gains {schema : FlatSchema} (hnodup : (keys schema.properties).Nodup)
    (path : String) (members : Json.Members) :
    ∃ gained, (filled schema path members).members = members ++ gained ∧
      Gained schema.properties members gained := by
  obtain ⟨first, hrequired, hfirst⟩ := fillRequired_gains schema.properties path ⟨members, {}⟩
    (Text.distinct schema.requiredNames)
  obtain ⟨second, hoptional, hsecond⟩ := fillOptional_gains
    (fun entry hentry => (find?_eq_some_iff_mem hnodup).2 hentry)
    (Text.distinct schema.requiredNames) path
    (fillRequired schema.properties path ⟨members, {}⟩ (Text.distinct schema.requiredNames))
  rw [hrequired, List.append_assoc] at hoptional
  rw [hrequired] at hsecond
  exact ⟨first ++ second, hoptional, hfirst.append hsecond⟩

/-- Gained members are declared. -/
theorem Gained.declared {properties members gained : Json.Members}
    (h : Gained properties members gained) {member : String × Json} (hmember : member ∈ gained) :
    has member.1 properties = true := by
  obtain ⟨-, hdefault⟩ := h member hmember
  cases hfound : find? member.1 properties with
  | none =>
    rw [hfound] at hdefault
    cases hdefault
  | some property => rw [has, hfound, Option.isSome_some]

/-- Exchanging identifiers in what was gained leaves a gain. -/
theorem Gained.pinIdentifiers {properties members gained : Json.Members}
    (h : Gained properties members gained) :
    Gained properties members (pinIdentifiers properties gained) := by
  intro member hmember
  rw [pinIdentifiers_eq] at hmember
  obtain ⟨entry, hentry, rfl⟩ := List.mem_map.1 hmember
  exact h entry hentry

/-- Exchanging identifiers member by member, before and behind. -/
theorem pinIdentifiers_append (properties front behind : Json.Members) :
    pinIdentifiers properties (front ++ behind) =
      pinIdentifiers properties front ++ pinIdentifiers properties behind :=
  List.map_append

/-- A member of what is left by exchanging identifiers has an old name. -/
theorem name_mem_of_mem_pinIdentifiers {properties members : Json.Members}
    {member : String × Json} (h : member ∈ pinIdentifiers properties members) :
    member.1 ∈ keys members := by
  rw [pinIdentifiers_eq] at h
  rw [← keys_mapValues (pinnedValue properties)]
  exact List.mem_map_of_mem h

/-- A level whose members are all declared keeps them, with pinned identifiers exchanged, and gains
defaults behind them. -/
theorem castLevel_gains {schema : FlatSchema} {members : Json.Members}
    (hnodup : (keys schema.properties).Nodup)
    (hdeclared : ∀ name ∈ keys members, has name schema.properties = true) (path : String) :
    ∃ gained, (castLevel schema path members).members =
        pinIdentifiers schema.properties members ++ gained ∧
      Gained schema.properties members gained := by
  obtain ⟨gained, hfilled, hgained⟩ := filled_gains hnodup path members
  refine ⟨pinIdentifiers schema.properties gained, ?_, hgained.pinIdentifiers⟩
  rw [castLevel_eq, hfilled, pinIdentifiers_append]
  refine (dropUndeclared_of_declared fun _ member hmember => ?_).1
  rcases List.mem_append.1 hmember with hmember | hmember
  · exact hdeclared _ (name_mem_of_mem_pinIdentifiers hmember)
  · exact hgained.pinIdentifiers.declared hmember

/-! ## What a level loses -/

/-- On a settled level every property with a default is there. -/
theorem IsSettled.has_of_default {schema : FlatSchema} {members : Json.Members}
    (h : IsSettled schema members) {name : String} {property : Json}
    (hproperty : find? name schema.properties = some property)
    (hdefault : (default? (some property)).isSome = true) : has name members = true := by
  have hsome : default? (some property) ≠ none := Option.isSome_iff_ne_none.1 hdefault
  rcases h.optional _ (mem_of_find? hproperty) with hrequired | hhas | hnone
  · refine (h.required name hrequired).resolve_right ?_
    rw [hproperty]
    exact hsome
  · exact hhas
  · exact absurd hnone hsome

/-- What a settled level gains is unknown to its own schema, if that one has all the defaults of its
properties too. -/
theorem Gained.foreign {properties members gained : Json.Members} {old : FlatSchema}
    (h : Gained properties members gained) (hsettled : IsSettled old members)
    (hdefault : ∀ {name inNew inOld}, find? name properties = some inNew →
      find? name old.properties = some inOld → (default? (some inNew)).isSome = true →
        (default? (some inOld)).isSome = true) :
    ∀ name ∈ keys gained, has name old.properties = false := by
  intro name hname
  obtain ⟨member, hmember, rfl⟩ := List.mem_map.1 hname
  obtain ⟨hfresh, hgiven⟩ := h member hmember
  obtain ⟨inNew, hnew⟩ := Option.isSome_iff_exists.1 (h.declared hmember)
  cases hold : find? member.1 old.properties with
  | none => rw [has, hold, Option.isSome_none]
  | some inOld =>
    rw [hnew] at hgiven
    rw [hsettled.has_of_default hold (hdefault hnew hold hgiven)] at hfresh
    cases hfresh

/-- A closed level on which no default is left to fill in loses the members that are not declared,
and has pinned identifiers exchanged in those before them. -/
theorem castLevel_drops {schema : FlatSchema} {kept foreign : Json.Members} {path : String}
    (hclosed : isClosed schema = true)
    (hfilled : (filled schema path (kept ++ foreign)).members = kept ++ foreign)
    (hkept : ∀ name ∈ keys kept, has name schema.properties = true)
    (hforeign : ∀ name ∈ keys foreign, has name schema.properties = false) :
    (castLevel schema path (kept ++ foreign)).members =
      pinIdentifiers schema.properties kept := by
  have hkeep : ∀ member ∈ pinIdentifiers schema.properties kept,
      has member.1 schema.properties = true :=
    fun member hmember => hkept _ (name_mem_of_mem_pinIdentifiers hmember)
  have hdrop : ∀ member ∈ pinIdentifiers schema.properties foreign,
      ¬ has member.1 schema.properties = true := by
    intro member hmember
    rw [hforeign _ (name_mem_of_mem_pinIdentifiers hmember)]
    exact Bool.false_ne_true
  rw [castLevel_eq, hfilled, pinIdentifiers_append, dropUndeclared, if_pos hclosed]
  simp only [List.filter_append]
  rw [List.filter_eq_self.2 hkeep, List.filter_eq_nil_iff.2 hdrop, List.append_nil]

/-- Members behind those of a settled level leave no default to fill in. -/
theorem IsSettled.filled_append {schema : FlatSchema} {members front : Json.Members}
    (h : IsSettled schema members) (hnames : keys front = keys members)
    (behind : Json.Members) (path : String) :
    (filled schema path (front ++ behind)).members = front ++ behind := by
  have hhas {name : String} (hname : has name members = true) :
      has name (front ++ behind) = true := by
    rw [has_iff_mem_keys, ← hnames, ← has_iff_mem_keys] at hname
    rw [has_append, hname, Bool.true_or]
  refine (filled_of_defaults ?_ ?_ path).1
  · intro name hname
    exact (h.required name hname).imp_left hhas
  · intro entry hentry
    exact (h.optional entry hentry).imp_right (Or.imp_left hhas)

/-! ## Members that come back -/

/-- Under a name that occurs twice stands the same value. -/
def SingleValued (members : Json.Members) : Prop :=
  ∀ member ∈ members, find? member.1 members = some member.2

/-- A change of the values by their names leaves the same value under a name that occurs twice. -/
theorem SingleValued.mapValues {members : Json.Members} (h : SingleValued members)
    (change : String → Json → Json) :
    SingleValued (members.map fun member => (member.1, change member.1 member.2)) := by
  intro member hmember
  obtain ⟨⟨name, value⟩, hentry, rfl⟩ := List.mem_map.1 hmember
  rw [find?_mapValues, h _ hentry, Option.map_some]

/-- The value of a member that is carried over to a schema. -/
def castMember (schema : Json) (path name : String) (value : Json) : Json :=
  match find? name schema.flatten.properties with
  | some property =>
    (castValue property (memberPath path name)
      (pinnedValue schema.flatten.properties name value)).value
  | none => value

/-- A cast carries over the members that its level has from an object, whatever comes behind. -/
theorem castObject_members_of_level {schema : Json} {path : String}
    {members front behind : Json.Members}
    (hlevel : (castLevel schema.flatten path members).members =
      pinIdentifiers schema.flatten.properties front ++ behind)
    (hfront : SingleValued front) :
    ∃ rest, (castObject schema path members).members =
        (front.map fun member => (member.1, castMember schema path member.1 member.2)) ++ rest ∧
      keys rest = keys behind := by
  rw [castObject_members, hlevel, List.map_append, pinIdentifiers_eq, List.map_map]
  refine ⟨_, congrArg (· ++ _) (List.map_congr_left ?_), by simp [keys]⟩
  rintro ⟨name, value⟩ hmember
  have hfound := hfront _ hmember
  simp only [Function.comp_apply, castMember, carriedValue, find?_append, find?_mapValues, hfound,
    Option.map_some, Option.some_or]
  cases hproperty : find? name schema.flatten.properties with
  | none => simp [pinnedValue, hproperty]
  | some property => rfl

section Alone

variable {schema : Json} {path : String} {members : Json.Members}
  (hclosed : isClosed schema.flatten = true)
  (halone : (castObject schema path members).members = members)
include hclosed halone

/-- Of an object that a cast to a closed schema leaves alone, every member is declared and carried
over to itself. -/
theorem exists_castValue_of_alone {name : String} {value : Json}
    (hmember : (name, value) ∈ members) :
    ∃ property, find? name schema.flatten.properties = some property ∧
      find? name members = some value ∧
      (castValue property (memberPath path name) value).value = value := by
  have hsettled : IsSettled schema.flatten members :=
    halone ▸ isSettled_castObject schema path members
  obtain ⟨property, hproperty⟩ :=
    Option.isSome_iff_exists.1 (hsettled.declared hclosed _ hmember)
  have hcarried : ∀ member ∈ members,
      carriedValue schema.flatten.properties path members member.1 member.2 = member.2 := by
    have hmembers := castObject_members schema path members
    rw [halone, (hsettled.castLevel path).1] at hmembers
    intro member hmem
    have hmap := List.map_inj_left.1 ((List.map_id members).trans hmembers) member hmem
    exact (congrArg Prod.snd hmap).symm
  obtain ⟨first, hfirst⟩ := Option.isSome_iff_exists.1 (has_of_mem hmember)
  have hvalue := hcarried _ hmember
  have hagain := hcarried _ (mem_of_find? hfirst)
  simp only at hproperty hfirst
  simp only [carriedValue, hproperty, hfirst] at hvalue hagain
  -- The value is what the first one under the name is carried over to, which is that one itself.
  obtain rfl : first = value := hagain.symm.trans hvalue
  exact ⟨property, hproperty, hfirst, hvalue⟩

/-- An object that a cast to a closed schema leaves alone has one value under a name. -/
theorem singleValued_of_alone : SingleValued members := by
  rintro ⟨name, value⟩ hmember
  obtain ⟨_, -, hfound, -⟩ := exists_castValue_of_alone hclosed halone hmember
  exact hfound

end Alone

/-! ## The way there and back -/

/-- What a cast to an older version leaves alone comes back from a newer version. -/
def Returns (new old : Json) : Prop :=
  ∀ path members, (castObject old path members).members = members →
    (castObject old path (castObject new path members).members).members = members

/-- Items that an older version leaves alone come back from a newer version if objects do. -/
theorem castItems_return {new old : Json.Members} (h : Returns (.obj new) (.obj old))
    {path : String} {place : Nat} {items : List Json}
    (halone : (castItems old path place items).map (·.value) = items) :
    (castItems old path place ((castItems new path place items).map (·.value))).map (·.value) =
      items := by
  induction items generalizing place with
  | nil => rfl
  | cons item rest ih =>
    simp only [castItems, List.zipIdx_cons, List.map_cons, List.cons.injEq] at halone ⊢
    refine ⟨?_, ih halone.2⟩
    cases item with
    | obj members => exact congrArg Json.obj (h _ _ (Json.obj.inj halone.1))
    | null | bool _ | int _ | float _ | str _ | arr _ => rfl

/-- A value that an older version leaves alone comes back from a newer version that leads a cast
further down only where the older one does, if the objects below do. -/
theorem castValue_return {inNew inOld : Json}
    (hnested : ∀ nesting, (nested? nesting inNew).isSome = true →
      (nested? nesting inOld).isSome = true)
    (hbelow : ∀ {nesting belowNew belowOld}, nested? nesting inNew = some belowNew →
      nested? nesting inOld = some belowOld → Returns (.obj belowNew) (.obj belowOld))
    {path : String} {value : Json} (halone : (castValue inOld path value).value = value) :
    (castValue inOld path (castValue inNew path value).value).value = value := by
  rcases castValue_cases inNew value with
    ⟨belowNew, members, rfl, rfl, htype⟩ |
    ⟨property, belowNew, items, rfl, rfl, htype, hitems, hobject⟩ | hstays
  · have hnew : nested? .object (.obj belowNew) = some belowNew := by
      simp only [nested?, htype, if_true]
    obtain ⟨belowOld, hold⟩ :=
      Option.isSome_iff_exists.1 (hnested _ (Option.isSome_of_eq_some hnew))
    have hreturns := hbelow hnew hold
    obtain ⟨rfl, holdType⟩ := nested?_object hold
    rw [castValue_object holdType] at halone
    rw [castValue_object htype, castValue_object holdType]
    exact congrArg Json.obj (hreturns _ _ (Json.obj.inj halone))
  · have hnew : nested? .items (.obj property) = some belowNew := by
      simp only [nested?, htype, hitems, hobject, if_true]
    obtain ⟨belowOld, hold⟩ :=
      Option.isSome_iff_exists.1 (hnested _ (Option.isSome_of_eq_some hnew))
    have hreturns := hbelow hnew hold
    obtain ⟨propertyOld, rfl, holdType, holdItems, holdObject⟩ := nested?_items hold
    rw [castValue_array holdType holdItems holdObject] at halone
    rw [castValue_array htype hitems hobject, castValue_array holdType holdItems holdObject]
    exact congrArg Json.arr (castItems_return hreturns (Json.arr.inj halone))
  · rw [hstays]
    exact halone

/-- Under a declared name the identifier that is pinned there or else the value is carried over. -/
theorem castMember_eq {schema property : Json} {name : String}
    (h : find? name schema.flatten.properties = some property) (path : String) (value : Json) :
    castMember schema path name value = (castValue property (memberPath path name)
      ((pinnedIdentifier? property value).elim value .str)).value := by
  simp only [castMember, h, pinnedValue, Option.bind_some]
  cases pinnedIdentifier? property value <;> rfl

/-- A member that an older version leaves alone comes back from a newer one that asks no more of it,
if the objects below do. -/
theorem castMember_return {new old inNew inOld : Json} {path name : String} {value : Json}
    (hnew : find? name new.flatten.properties = some inNew)
    (hold : find? name old.flatten.properties = some inOld) (hasks : AsksNoMore inNew inOld)
    (hbelow : ∀ {nesting belowNew belowOld}, nested? nesting inNew = some belowNew →
      nested? nesting inOld = some belowOld → Returns (.obj belowNew) (.obj belowOld))
    (hpinned : pinnedIdentifier? inOld value = none)
    (halone : (castValue inOld (memberPath path name) value).value = value) :
    castMember old path name (castMember new path name value) = value := by
  rw [castMember_eq hnew, castMember_eq hold]
  cases hexchange : pinnedIdentifier? inNew value with
  | none =>
    rw [Option.elim_none, pinnedIdentifier?_castValue, hpinned, Option.elim_none]
    exact castValue_return hasks.nested hbelow halone
  | some id =>
    obtain ⟨hpinnedNew, current, rfl, hcurrent⟩ := pinnedIdentifier?_eq_some hexchange
    obtain ⟨own, hpinnedOld⟩ :=
      Option.isSome_iff_exists.1 (hasks.pinned (Option.isSome_of_eq_some hpinnedNew))
    -- The older version leaves only its own identifier alone, and puts that one back.
    have hown : current = own := by
      rw [pinnedIdentifier?_of_pinned hpinnedOld hcurrent] at hpinned
      split at hpinned
      next heq => exact heq
      next => cases hpinned
    have hid := isValid_of_pinned hpinnedNew
    rw [Option.elim_some, castValue_str, pinnedIdentifier?_of_pinned hpinnedOld hid, hown]
    by_cases heq : id = own
    · rw [if_pos heq, Option.elim_none, castValue_str, heq]
    · rw [if_neg heq, Option.elim_some, castValue_str]

/-- An object that an older version leaves alone comes back from a newer one if its members do. -/
theorem castObject_return_of_members {new old : Json} {path : String} {members : Json.Members}
    (hclosed : isClosed old.flatten = true)
    (hdeclared : ∀ {name}, has name old.flatten.properties = true →
      has name new.flatten.properties = true)
    (hdefault : ∀ {name inNew inOld}, find? name new.flatten.properties = some inNew →
      find? name old.flatten.properties = some inOld → (default? (some inNew)).isSome = true →
        (default? (some inOld)).isSome = true)
    (halone : (castObject old path members).members = members)
    (hmembers : ∀ member ∈ members,
      castMember old path member.1 (castMember new path member.1 member.2) = member.2) :
    (castObject old path (castObject new path members).members).members = members := by
  have hsettled : IsSettled old.flatten members := halone ▸ isSettled_castObject old path members
  have hsingle := singleValued_of_alone hclosed halone
  have hown : ∀ name ∈ keys members, has name old.flatten.properties = true :=
    List.forall_mem_map.2 (hsettled.declared hclosed)
  -- On the way there every member is carried over, and defaults come in behind.
  obtain ⟨gained, hlevel, hgained⟩ := castLevel_gains (Json.nodup_keys_flatten new)
    (fun name hname => hdeclared (hown name hname)) path
  obtain ⟨foreign, hthere, hkeys⟩ := castObject_members_of_level hlevel hsingle
  -- On the way back what came in is dropped, and every member is carried over again.
  have hnames := keys_mapValues (castMember new path) members
  have hback : (castLevel old.flatten path (castObject new path members).members).members =
      pinIdentifiers old.flatten.properties
        (members.map fun member => (member.1, castMember new path member.1 member.2)) := by
    rw [hthere]
    refine castLevel_drops hclosed (hsettled.filled_append hnames foreign path) ?_ ?_
    · rw [hnames]
      exact hown
    · rw [hkeys]
      exact hgained.foreign hsettled hdefault
  rw [← List.append_nil (pinIdentifiers _ _)] at hback
  obtain ⟨rest, hreturned, hrest⟩ := castObject_members_of_level hback
    (hsingle.mapValues (castMember new path))
  obtain rfl : rest = [] := List.map_eq_nil_iff.1 hrest
  rw [hreturned, List.append_nil, List.map_map]
  refine (List.map_congr_left fun member hmember => ?_).trans (List.map_id members)
  exact Prod.ext rfl (hmembers member hmember)

/-- What a closed schema leaves alone comes back from a schema that declares its properties and asks
no more of them, if the objects below do. -/
theorem returns_of_below {new old : Json} (hclosed : isClosed old.flatten = true)
    (hdeclared : ∀ {name}, has name old.flatten.properties = true →
      has name new.flatten.properties = true)
    (hasks : ∀ {name inNew inOld}, find? name new.flatten.properties = some inNew →
      find? name old.flatten.properties = some inOld → AsksNoMore inNew inOld)
    (hbelow : ∀ {name inNew inOld nesting belowNew belowOld},
      find? name new.flatten.properties = some inNew →
      find? name old.flatten.properties = some inOld → nested? nesting inNew = some belowNew →
        nested? nesting inOld = some belowOld → Returns (.obj belowNew) (.obj belowOld)) :
    Returns new old := by
  intro path members halone
  have hsettled : IsSettled old.flatten members := halone ▸ isSettled_castObject old path members
  refine castObject_return_of_members hclosed hdeclared
    (fun hnew hold => (hasks hnew hold).default) halone ?_
  rintro ⟨name, value⟩ hmember
  obtain ⟨inOld, hold, -, hvalue⟩ := exists_castValue_of_alone hclosed halone hmember
  obtain ⟨inNew, hnew⟩ :=
    Option.isSome_iff_exists.1 (hdeclared (Option.isSome_of_eq_some hold))
  have hpinned := hsettled.pinned _ hmember
  rw [hold] at hpinned
  exact castMember_return hnew hold (hasks hnew hold) (hbelow hnew hold) hpinned hvalue

/-- An object that a cast to an older version leaves alone comes back from a newer version that
extends it: a cast to the newer version and a cast back leave every member with its value and in its
place, at every level. -/
theorem castObject_return {new old : Json} (hextends : new.flatten.Extends old.flatten)
    {path : String} {members : Json.Members}
    (halone : (castObject old path members).members = members) :
    (castObject old path (castObject new path members).members).members = members := by
  generalize hnew : new.flatten = newFlat at hextends
  generalize hold : old.flatten = oldFlat at hextends
  induction hextends generalizing new old path members with
  | intro closed declared asks _ ih =>
    subst hnew hold
    have hreturns : Returns new old := by
      apply returns_of_below closed declared asks
      intro name inNew inOld nesting belowNew belowOld hnew hold hbelowNew hbelowOld path members
        halone
      exact ih hnew hold hbelowNew hbelowOld halone rfl rfl
    exact hreturns path members halone

/-! ## Carts -/

/-- A closed schema of the lines in a cart. -/
def lineType : Json.Members :=
  [("type", .str "object"), ("properties", .obj [("count", .obj [("type", .str "integer")])]),
    ("additionalProperties", .bool false)]

/-- A newer schema of lines, with a unit. -/
def measuredLineType : Json.Members :=
  [("type", .str "object"),
    ("properties", .obj [("unit", .obj [("default", .str "piece")]), ("count", .obj [])])]

/-- A closed schema of carts with lines. -/
def cartType : Json.Members :=
  [("properties", .obj
      [("kind", .obj [("const", .str "gts.acme.shop.cart.order.v1.0~")]),
        ("lines", .obj [("type", .str "array"), ("items", .obj lineType)])]),
    ("additionalProperties", .bool false)]

/-- A newer schema of carts with measured lines, of another kind and with a currency. -/
def pricedCartType : Json.Members :=
  [("allOf", .arr [.obj [("properties", .obj
      [("kind", .obj [("const", .str "gts.acme.shop.cart.order.v1.1~")]),
        ("currency", .obj [("default", .str "EUR")])])]]),
    ("properties", .obj
      [("lines", .obj [("type", .str "array"), ("items", .obj measuredLineType)])]),
    ("required", .arr [.str "currency"])]

/-- A cart with a line. -/
def cart : Json.Members :=
  [("lines", .arr [.obj [("count", .int 2)]]), ("kind", .str "gts.acme.shop.cart.order.v1.0~")]

/-- The cart under the newer schema. -/
def pricedCart : Json.Members :=
  [("lines", .arr [.obj [("count", .int 2), ("unit", .str "piece")]]),
    ("kind", .str "gts.acme.shop.cart.order.v1.1~"), ("currency", .str "EUR")]

/-- A line stays as it is under the older schema, and gets a unit under the newer one. -/
theorem castObject_line (path : String) :
    (castObject (.obj lineType) path [("count", .int 2)]).members = [("count", .int 2)] ∧
    (castObject (.obj measuredLineType) path [("count", .int 2)]).members =
      [("count", .int 2), ("unit", .str "piece")] := by
  have hlevel : (castLevel (Json.obj lineType).flatten path [("count", .int 2)]).members =
      [("count", .int 2)] := rfl
  have hmeasured :
      (castLevel (Json.obj measuredLineType).flatten path [("count", .int 2)]).members =
        [("count", .int 2), ("unit", .str "piece")] := rfl
  constructor
  · rw [castObject_members, hlevel]
    show [("count", (castValue _ _ (.int 2)).value)] = _
    simp [castValue]
  · rw [castObject_members, hmeasured]
    show [("count", (castValue _ _ (.int 2)).value), ("unit", (castValue _ _ (.str _)).value)] = _
    simp [castValue]

/-- The cart stays as it is under the older schema. -/
theorem castObject_cart : (castObject (.obj cartType) "" cart).members = cart := by
  have hlevel : (castLevel (Json.obj cartType).flatten "" cart).members = cart := rfl
  rw [castObject_members, hlevel]
  show [("lines", (castValue _ _ (.arr _)).value), ("kind", (castValue _ _ (.str _)).value)] = _
  rw [castValue_array rfl rfl rfl, castValue_str]
  show [("lines", Json.arr [.obj (castObject _ _ _).members]), _] = _
  rw [(castObject_line _).1]
  rfl

/-- Under the newer schema the cart is of another kind, and it gets a currency. -/
theorem castObject_cart_priced :
    (castObject (.obj pricedCartType) "" cart).members = pricedCart := by
  have hfilled : (filled (Json.obj pricedCartType).flatten "" cart).members =
      cart ++ [("currency", .str "EUR")] := rfl
  have hkind : pinnedValue (Json.obj pricedCartType).flatten.properties "kind"
      (.str "gts.acme.shop.cart.order.v1.0~") = .str "gts.acme.shop.cart.order.v1.1~" := by
    have hproperty : find? "kind" (Json.obj pricedCartType).flatten.properties =
        some (.obj [("const", .str "gts.acme.shop.cart.order.v1.1~")]) := rfl
    have hexchange : pinnedIdentifier? (.obj [("const", .str "gts.acme.shop.cart.order.v1.1~")])
        (.str "gts.acme.shop.cart.order.v1.0~") = some "gts.acme.shop.cart.order.v1.1~" := by
      decide +kernel
    rw [pinnedValue, hproperty, Option.bind_some, hexchange]
  have hlevel : (castLevel (Json.obj pricedCartType).flatten "" cart).members =
      [("lines", .arr [.obj [("count", .int 2)]]),
        ("kind", .str "gts.acme.shop.cart.order.v1.1~"), ("currency", .str "EUR")] := by
    rw [castLevel_eq, hfilled, pinIdentifiers_eq]
    show [("lines", _), ("kind", pinnedValue _ _ _), ("currency", _)] = _
    rw [hkind]
    rfl
  rw [castObject_members, hlevel]
  show [("lines", (castValue _ _ (.arr _)).value), ("kind", (castValue _ _ (.str _)).value),
    ("currency", (castValue _ _ (.str _)).value)] = _
  rw [castValue_array rfl rfl rfl, castValue_str, castValue_str]
  show [("lines", Json.arr [.obj (castObject _ _ _).members]), _, _] = _
  rw [(castObject_line _).2]
  rfl

/-- The newer schema of lines extends the older one. -/
theorem extends_lines :
    (Json.obj measuredLineType).flatten.Extends (Json.obj lineType).flatten := by
  have hown {name : String} {inOld : Json}
      (hold : find? name (Json.obj lineType).flatten.properties = some inOld) :
      name = "count" ∧ inOld = .obj [("type", .str "integer")] :=
    Prod.mk.inj (List.mem_singleton.1 (mem_of_find? hold))
  refine .intro rfl ?_ ?_ ?_
  · intro name hname
    obtain ⟨inOld, hold⟩ := Option.isSome_iff_exists.1 hname
    obtain ⟨rfl, -⟩ := hown hold
    rfl
  · intro name inNew inOld hnew hold
    obtain ⟨rfl, rfl⟩ := hown hold
    cases hnew
    exact ⟨by decide, by decide, by rintro (_ | _) <;> decide⟩
  · intro name inNew inOld nesting belowNew belowOld hnew hold hbelow
    obtain ⟨rfl, rfl⟩ := hown hold
    cases hnew
    cases nesting <;> cases hbelow

/-- The newer schema of carts extends the older one. -/
theorem extends_carts :
    (Json.obj pricedCartType).flatten.Extends (Json.obj cartType).flatten := by
  have hown {name : String} {inOld : Json}
      (hold : find? name (Json.obj cartType).flatten.properties = some inOld) :
      (name = "kind" ∧ inOld = .obj [("const", .str "gts.acme.shop.cart.order.v1.0~")]) ∨
        (name = "lines" ∧ inOld = .obj [("type", .str "array"), ("items", .obj lineType)]) := by
    have hmem : (name, inOld) ∈
        [("kind", Json.obj [("const", .str "gts.acme.shop.cart.order.v1.0~")]),
          ("lines", .obj [("type", .str "array"), ("items", .obj lineType)])] := mem_of_find? hold
    simpa using hmem
  refine .intro rfl ?_ ?_ ?_
  · intro name hname
    obtain ⟨inOld, hold⟩ := Option.isSome_iff_exists.1 hname
    rcases hown hold with ⟨rfl, -⟩ | ⟨rfl, -⟩ <;> rfl
  · intro name inNew inOld hnew hold
    rcases hown hold with ⟨rfl, rfl⟩ | ⟨rfl, rfl⟩
    · cases hnew
      exact ⟨by decide, by decide +kernel, by rintro (_ | _) <;> decide⟩
    · cases hnew
      exact ⟨by decide, by decide, by rintro (_ | _) <;> decide⟩
  · intro name inNew inOld nesting belowNew belowOld hnew hold hbelowNew hbelowOld
    rcases hown hold with ⟨rfl, rfl⟩ | ⟨rfl, rfl⟩
    · cases hnew
      cases nesting <;> cases hbelowNew
    · cases hnew
      cases nesting with
      | object => cases hbelowNew
      | items =>
        cases hbelowNew
        cases hbelowOld
        exact extends_lines

/-- The cart comes back from the newer schema as it was. -/
theorem castObject_return_cart :
    (castObject (.obj cartType) "" cart).members = cart ∧
      (castObject (.obj pricedCartType) "" cart).members = pricedCart ∧
      (castObject (.obj cartType) "" pricedCart).members = cart := by
  refine ⟨castObject_cart, castObject_cart_priced, ?_⟩
  rw [← castObject_cart_priced]
  exact castObject_return extends_carts castObject_cart

end TypeRegistry
