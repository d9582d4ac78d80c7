import TypeRegistry.Proofs.Relaxation.Document
import TypeRegistry.Proofs.Relaxation.Following

/-!
# Libraries with relaxed schemas

A schema that is evaluated is known to its own references by its address, so where it is relaxed,
the library that the references are looked up in holds the relaxed schema.  What a document calls
itself does not change when it is relaxed, and neither do the places of the schemas inside it.  So a
library with relaxed schemas is explored as the library without them is.

Main results:

- Definitions `Json.Eases`, `Library.Eases`: a document and a library with some documents relaxed.
- Theorem `placements_relax`: the schemas inside a relaxed document.
- Theorems `Library.Eases.find?`, `Library.Eases.anchor?`: what a library with relaxed schemas holds.
-/

namespace TypeRegistry

open Dictionary

/-! ## Documents -/

/-- A document, and the same or, if it stands inside the document that is relaxed, its relaxed form.
-/
inductive Json.Eases (root document : Json) : Json → Prop
  | same : Json.Eases root document document
  | relaxed : Json.Inside document root → Json.Eases root document document.relax

namespace Json

/-- Whether a relaxed document holds a text that is neither of the two names. -/
theorem holds?_relax {document : Json} (h : document.IsRelaxable) (text : String)
    (hconst : text ≠ "const") (htype : text ≠ "type") :
    document.relax.holds? text = document.holds? text := by
  cases document with
  | obj members =>
    rw [relax_obj, holds?_obj, holds?_obj, has_relaxedMembers h.keys_nodup hconst htype]
  | arr items =>
    rw [relax_arr, holds?, holds?, listed?, listed?, Except.map, Except.map, List.any_map]
    · congr 2
      funext item
      cases item <;> simp
    · simp
    · simp
  | _ => simp

/-- What stands in a relaxed document under a name that is neither of the two. -/
theorem get?_relax {document : Json} (h : document.IsRelaxable) {name : String}
    (hconst : name ≠ "const") (htype : name ≠ "type") :
    document.relax.get? name = (document.get? name).map relax := by
  cases document with
  | obj members =>
    rw [relax_obj]
    exact find?_relaxedMembers h.keys_nodup hconst htype
  | _ => simp [get?, members, find?]

/-- The text in a relaxed document under a name that is neither of the two. -/
theorem getString?_relax {document : Json} (h : document.IsRelaxable) (name : String)
    (hconst : name ≠ "const") (htype : name ≠ "type") :
    getString? name document.relax.members = getString? name document.members := by
  have hget := get?_relax h hconst htype
  rw [get?, get?] at hget
  rw [getString?, getString?, hget]
  cases find? name document.members with
  | none => rfl
  | some value => cases value <;> simp

end Json

namespace Dialect

variable {document document' : Json}

theorem idKeyword_ne (rules : Dialect) :
    rules.idKeyword ≠ "const" ∧ rules.idKeyword ≠ "type" := by
  cases rules <;> decide

/-- A relaxed document calls itself what it did. -/
theorem idOf_relax (rules : Dialect) (h : document.IsRelaxable) :
    rules.idOf document.relax = rules.idOf document := by
  have hholds := Json.holds?_relax h "$ref" (by decide) (by decide)
  obtain ⟨hconst, htype⟩ := rules.idKeyword_ne
  rw [idOf, idOf, Json.isTruth_relax, hholds]
  cases document with
  | obj members =>
    rw [Json.relax_obj, Json.named?, Json.named?]
    simp only [bind, Except.bind]
    rw [Json.find?_relaxedMembers h.keys_nodup hconst htype]
    cases find? rules.idKeyword members with
    | none => rfl
    | some value => cases value <;> simp
  | _ => simp [Json.named?]

theorem declaredOr_relax (rules : Dialect) (h : document.IsRelaxable) :
    rules.declaredOr document.relax = rules.declaredOr document := by
  rw [declaredOr, declaredOr, Json.get?_relax h (by decide) (by decide)]
  cases document.get? "$schema" with
  | none => rfl
  | some value => cases value <;> simp

theorem ofDeclaration_relax (value : Json) : ofDeclaration value.relax = ofDeclaration value := by
  cases value <;> simp [ofDeclaration]

/-- A relaxed document declares the dialect that it did. -/
theorem adopt_relax (surroundings : Dialect) (h : document.IsRelaxable) :
    surroundings.adopt document.relax = surroundings.adopt document := by
  cases document with
  | obj members =>
    rw [Json.relax_obj, adopt, adopt,
      Json.find?_relaxedMembers h.keys_nodup (by decide) (by decide)]
    cases find? "$schema" members with
    | none => rfl
    | some value => simp [ofDeclaration_relax]
  | arr items =>
    have hholds := Json.holds?_relax h "$schema" (by decide) (by decide)
    rw [Json.relax_arr] at hholds ⊢
    rw [adopt, adopt, hholds] <;> simp
  | _ => simp

theorem anchorsOf_relax (rules : Dialect) (h : document.IsRelaxable) :
    rules.anchorsOf document.relax = rules.anchorsOf document := by
  obtain ⟨hconst, htype⟩ := rules.idKeyword_ne
  have hid := Json.getString?_relax h _ hconst htype
  have hanchor := Json.getString?_relax h "$anchor" (by decide) (by decide)
  have hdynamic := Json.getString?_relax h "$dynamicAnchor" (by decide) (by decide)
  cases rules <;> simp only [anchorsOf, hid, hanchor, hdynamic]

/-- Whether steps lead to a schema depends only on whether they lead to an object. -/
theorem leadsToPart_congr (rules : Dialect) {part part' : Json}
    (h : part'.isObject = part.isObject) (steps : List PathStep) :
    rules.leadsToPart part' steps = rules.leadsToPart part steps := by
  fun_induction leadsToPart rules part steps with
  | case1 => rw [leadsToPart.eq_def]
  | case2 => rw [leadsToPart.eq_def]
  | case3 keyword rest hform => rw [leadsToPart.eq_def]; simp [hform]
  | case4 keyword rest hform ih => rw [leadsToPart.eq_def]; simp [hform, ih]
  | case5 keyword hform => rw [leadsToPart.eq_def]; simp [hform]
  | case6 keyword hform step rest ih => rw [leadsToPart.eq_def]; simp [hform, ih]
  | case7 keyword hform => rw [leadsToPart.eq_def]; simp [hform]
  | case8 keyword hform step rest ih => rw [leadsToPart.eq_def]; simp [hform, ih]
  | case9 keyword rest hform => rw [leadsToPart.eq_def]; simp [hform, h]
  | case10 keyword rest hform => rw [leadsToPart.eq_def]; simp [hform, h]

end Dialect

/-! ## A document of which some is relaxed -/

section Eased

variable {root document document' : Json}

theorem Json.Eases.isObject_eq (h : Json.Eases root document document') :
    document'.isObject = document.isObject := by
  cases h with
  | same => rfl
  | relaxed => exact Json.isObject_relax document

theorem Json.Eases.isTruth_eq (h : Json.Eases root document document') :
    document'.isTruth = document.isTruth := by
  cases h with
  | same => rfl
  | relaxed => exact Json.isTruth_relax document

variable (hroot : root.IsRelaxable)
include hroot

theorem Json.Eases.idOf_eq (h : Json.Eases root document document') (rules : Dialect) :
    rules.idOf document' = rules.idOf document := by
  cases h with
  | same => rfl
  | relaxed hinside => exact rules.idOf_relax (hroot.inside hinside)

theorem Json.Eases.adopt_eq (h : Json.Eases root document document') (surroundings : Dialect) :
    surroundings.adopt document' = surroundings.adopt document := by
  cases h with
  | same => rfl
  | relaxed hinside => exact surroundings.adopt_relax (hroot.inside hinside)

theorem Json.Eases.anchorsOf_eq (h : Json.Eases root document document') (rules : Dialect) :
    rules.anchorsOf document' = rules.anchorsOf document := by
  cases h with
  | same => rfl
  | relaxed hinside => exact rules.anchorsOf_relax (hroot.inside hinside)

theorem Json.Eases.isRecursive_eq (h : Json.Eases root document document') :
    Scope.isRecursive document' = Scope.isRecursive document := by
  cases h with
  | same => rfl
  | relaxed hinside =>
    rw [Scope.isRecursive, Scope.isRecursive,
      Json.get?_relax (hroot.inside hinside) (by decide) (by decide), Option.map_map]
    congr 2
    funext value
    exact Json.isInhabited_relax value

end Eased

/-! ## The schemas inside a document -/

/-- A schema that is the same or relaxed. -/
structure Resource.Eases (root : Json) (resource resource' : Resource) : Prop where
  content : Json.Eases root resource.content resource'.content
  rules : resource'.rules = resource.rules

/-- The place of a schema that is the same or relaxed. -/
structure Placement.Eases (root : Json) (placement placement' : Placement) : Prop where
  address : placement'.address = placement.address
  resource : Resource.Eases root placement.resource placement'.resource
  isNamed : placement'.isNamed = placement.isNamed

theorem Resource.Eases.refl (root : Json) (resource : Resource) :
    Resource.Eases root resource resource :=
  ⟨.same, rfl⟩

/-- The schemas inside a document are those inside it. -/
theorem Placement.follows_self {root : Json} (found : Except Breakdown (List Placement)) :
    Follows (List.Forall₂ (Placement.Eases root)) found found :=
  (Follows.of_eq rfl).mono fun _ _ heq =>
    heq ▸ List.forall₂_same.2 fun placement _ => ⟨rfl, .refl root placement.resource, rfl⟩

/-- Keywords that hold no schemas can be left out. -/
theorem placementsOfMembers_filter (rules : Dialect) (base : String) (members : Json.Members) :
    placementsOfMembers rules base
        (members.filter fun member => (rules.partForm? member.1).isSome) =
      placementsOfMembers rules base members := by
  induction members with
  | nil => rfl
  | cons member rest ih =>
    obtain ⟨keyword, value⟩ := member
    rw [List.filter_cons]
    cases hform : rules.partForm? keyword with
    | some form =>
      rw [if_pos (by simp), placementsOfMembers, placementsOfMembers, ih]
    | none =>
      rw [if_neg (by simp), ih, placementsOfMembers, hform]
      cases placementsOfMembers rules base rest <;> simp [bind, Except.bind, pure, Except.pure]

/-- The names under which schemas stand are neither of the two. -/
theorem partForm?_const_type (rules : Dialect) :
    rules.partForm? "const" = none ∧ rules.partForm? "type" = none := by
  cases rules <;> decide

theorem isPassedOver_relax (rules : Dialect) (keyword : String) (value : Json) :
    isPassedOver rules keyword value.relax = isPassedOver rules keyword value := by
  rw [isPassedOver, isPassedOver, Json.isObject_relax]

theorem isSchemaLike_relax (value : Json) : isSchemaLike value.relax = isSchemaLike value := by
  cases value <;> simp [isSchemaLike]

/-- Nothing is inside a value that has to be empty, and its relaxed form is as empty. -/
theorem requireEmpty_relax {R : Placement → Placement → Prop} (value : Json) :
    Follows (List.Forall₂ R) (requireEmpty value) (requireEmpty value.relax) := by
  have hempty : ∀ {value : Json} {found}, requireEmpty value = .ok found → found = [] := by
    intro value found h
    rw [requireEmpty] at h
    cases hlisted : value.listed? with
    | error cause => simp [hlisted, bind, Except.bind] at h
    | ok items =>
      simp only [hlisted, bind, Except.bind] at h
      split at h
      · exact (Except.ok.inj h).symm
      · cases h
  intro found hfound
  obtain rfl := hempty hfound
  refine ⟨[], ?_, .nil⟩
  cases value with
  | obj members =>
    have hkeys : ∀ members : Json.Members, requireEmpty (.obj members) =
        if members = [] then .ok [] else .error .noMembers := by
      intro members
      cases members <;> rfl
    rw [Json.relax_obj, hkeys]
    rw [hkeys] at hfound
    split at hfound
    next h => rw [if_pos (Json.relaxedMembers_eq_nil_iff.2 h)]
    next => cases hfound
  | arr items =>
    cases items with
    | nil => simpa using hfound
    | cons item rest => cases hfound
  | _ => simpa using hfound

/-- A text where a schema should stand breaks the exploration down. -/
theorem placementsOfParts_text {rules : Dialect} {base name text : String} {parts : Json.Members}
    (h : (name, .str text) ∈ parts) {found : List Placement} :
    placementsOfParts rules base parts ≠ .ok found := by
  induction parts generalizing found with
  | nil => exact absurd h List.not_mem_nil
  | cons part rest ih =>
    rw [placementsOfParts]
    rcases List.mem_cons.1 h with rfl | h
    · cases placementsOfParts rules base rest <;>
        simp [bind, Except.bind, Dialect.declaredOr, Json.get?, Json.members, find?, placements]
    · cases hrest : placementsOfParts rules base rest with
      | error cause => simp [bind, Except.bind]
      | ok others => exact absurd hrest (ih h)

/-- The first name of a dictionary stays the first when more is put in. -/
theorem Dictionary.head?_putAll {α : Type} (entry : String × α) (rest extra : Dictionary α) :
    (putAll (entry :: rest) extra).head?.map (·.1) = some entry.1 := by
  induction extra generalizing entry rest with
  | nil => rfl
  | cons first others ih =>
    rw [putAll, List.foldl_cons, ← putAll, put]
    split
    · exact ih (entry.1, first.2) rest
    · exact ih entry (put first.1 first.2 rest)

/-- Whether the first member of an object is an object does not change where identifiers are
pinned. -/
theorem head?_relaxedMembers_of_pins {members : Json.Members} (h : (Json.obj members).IsRelaxable)
    (hpins : Json.Pins members) :
    ((Json.relaxedMembers members).head?.map (·.2.isObject)).getD false =
      (members.head?.map (·.2.isObject)).getD false := by
  -- What stands under `type` beside what pins is no object, before and after.
  have htype : ∀ {value}, ("type", value) ∈ members → value.isObject = false := by
    intro value hvalue
    rcases h.typeText .self hpins ((find?_eq_some_iff_mem h.keys_nodup).2 hvalue) with
      ⟨name, rfl⟩ | ⟨names, rfl⟩ <;> rfl
  cases members with
  | nil => rfl
  | cons member rest =>
    obtain ⟨name, value⟩ := member
    have hname : (Json.relaxedMembers ((name, value) :: rest)).head?.map (·.1) =
        some (Json.relaxedMember (name, value)).1 :=
      head?_putAll (Json.relaxedMember (name, value)) [] (rest.map Json.relaxedMember)
    obtain ⟨⟨name', value'⟩, hhead, hname'⟩ := Option.map_eq_some_iff.1 hname
    have hmem : (name', value') ∈ Json.relaxedMembers ((name, value) :: rest) :=
      List.mem_of_mem_head? hhead
    rw [hhead, List.head?_cons, Option.map_some, Option.map_some, Option.getD_some,
      Option.getD_some]
    by_cases hpinned : Json.pinsIdentifier name value = true
    · obtain ⟨rfl, text, rfl⟩ := Json.pinsIdentifier_eq_true hpinned
      obtain rfl : name' = "type" := by simpa [Json.relaxedMember, hpinned] using hname'
      rcases Json.mem_relaxedMembers hmem with ⟨heq, -⟩ | ⟨old, hold, -, rfl⟩
      · rw [(Prod.mk.inj heq).2]
        rfl
      · rw [Json.isObject_relax, htype hold]
        rfl
    · obtain rfl : name' = name := by simpa [Json.relaxedMember, hpinned] using hname'
      rcases Json.mem_relaxedMembers hmem with ⟨heq, -⟩ | ⟨old, hold, -, rfl⟩
      · obtain ⟨rfl, rfl⟩ := Prod.mk.inj heq
        rw [htype List.mem_cons_self]
        rfl
      · have hsame : some old = some value := by
          rw [← (find?_eq_some_iff_mem h.keys_nodup).2 hold,
            ← (find?_eq_some_iff_mem h.keys_nodup).2 List.mem_cons_self]
        rw [Json.isObject_relax, Option.some.inj hsame]

/-- Whether the first member of an object is an object does not change when the object is relaxed.
-/
theorem head?_relaxedMembers {members : Json.Members} (h : (Json.obj members).IsRelaxable) :
    ((Json.relaxedMembers members).head?.map (·.2.isObject)).getD false =
      (members.head?.map (·.2.isObject)).getD false := by
  by_cases hpins : Json.Pins members
  · exact head?_relaxedMembers_of_pins h hpins
  · rw [Json.relaxedMembers_of_unpinned h.keys_nodup hpins]
    cases members <;> simp

section Placements

variable {root : Json}

/-- The schemas inside a document are those inside its relaxed form. -/
def PlacedAlike (root document : Json) : Prop :=
  ∀ rules base, Follows (List.Forall₂ (Placement.Eases root)) (placements rules base document)
    (placements rules base document.relax)

variable {rules : Dialect} {base : String}

/-- Nor does it matter that a document may declare a dialect of its own. -/
theorem PlacedAlike.declared {document : Json} (h : PlacedAlike root document)
    (hrelaxable : document.IsRelaxable) (rules : Dialect) (base : String) :
    Follows (List.Forall₂ (Placement.Eases root))
      (do placements (← rules.declaredOr document) base document)
      (do placements (← rules.declaredOr document.relax) base document.relax) := by
  rw [rules.declaredOr_relax hrelaxable]
  exact .bind (.of_eq rfl) fun declared _ hdeclared => hdeclared ▸ h declared base

theorem placementsOfItems_relax {items : List Json}
    (h : ∀ item ∈ items, PlacedAlike root item ∧ item.IsRelaxable) :
    Follows (List.Forall₂ (Placement.Eases root)) (placementsOfItems rules base items)
      (placementsOfItems rules base (items.map Json.relax)) := by
  induction items with
  | nil =>
    rw [List.map_nil, placementsOfItems]
    exact .ok .nil
  | cons item rest ih =>
    obtain ⟨⟨halike, hrelaxable⟩, hrest⟩ := List.forall_mem_cons.1 h
    rw [List.map_cons, placementsOfItems, placementsOfItems, rules.declaredOr_relax hrelaxable]
    refine .bind (ih hrest) fun others others' hothers => ?_
    refine .bind (.of_eq rfl) fun declared _ hdeclared => hdeclared ▸ ?_
    exact .bind (halike declared base) fun found found' hfound => .ok (List.rel_append hothers hfound)

theorem placementsOfParts_relax {parts : Json.Members}
    (h : ∀ part ∈ parts, PlacedAlike root part.2 ∧ part.2.IsRelaxable) :
    Follows (List.Forall₂ (Placement.Eases root)) (placementsOfParts rules base parts)
      (placementsOfParts rules base (parts.map fun part => (part.1, part.2.relax))) := by
  induction parts with
  | nil =>
    rw [List.map_nil, placementsOfParts]
    exact .ok .nil
  | cons part rest ih =>
    obtain ⟨name, part⟩ := part
    obtain ⟨⟨halike, hrelaxable⟩, hrest⟩ := List.forall_mem_cons.1 h
    rw [List.map_cons, placementsOfParts, placementsOfParts, rules.declaredOr_relax hrelaxable]
    refine .bind (ih hrest) fun others others' hothers => ?_
    refine .bind (.of_eq rfl) fun declared _ hdeclared => hdeclared ▸ ?_
    exact .bind (halike declared base) fun found found' hfound => .ok (List.rel_append hothers hfound)

/-- The schemas under names: where one of the names pins an identifier, there is no telling them. -/
theorem placementsOfParts_relaxedMembers {parts : Json.Members}
    (hrelaxable : (Json.obj parts).IsRelaxable) (h : ∀ part ∈ parts, PlacedAlike root part.2) :
    Follows (List.Forall₂ (Placement.Eases root)) (placementsOfParts rules base parts)
      (placementsOfParts rules base (Json.relaxedMembers parts)) := by
  by_cases hpins : Json.Pins parts
  · obtain ⟨⟨name, value⟩, hmem, hpinned⟩ := hpins
    obtain ⟨-, text, rfl⟩ := Json.pinsIdentifier_eq_true hpinned
    exact fun found hfound => absurd hfound (placementsOfParts_text hmem)
  · rw [Json.relaxedMembers_of_unpinned hrelaxable.keys_nodup hpins]
    exact placementsOfParts_relax fun part hpart =>
      ⟨h part hpart, hrelaxable.member hpart⟩

/-- The schemas inside the value of a keyword. -/
def placementsUnder (rules : Dialect) (base keyword : String) (value : Json) :
    Except Breakdown (List Placement) :=
  match rules.partForm? keyword with
  | none => pure []
  | some .whole =>
    if isPassedOver rules keyword value then pure []
    else do placements (← rules.declaredOr value) base value
  | some .items =>
    match value with
    | .arr items => placementsOfItems rules base items
    | other => requireEmpty other
  | some .members =>
    match value with
    | .obj parts => placementsOfParts rules base parts
    | _ => throw .noMembers
  | some .wholeOrItems =>
    if isSchemaLike value then do placements (← rules.declaredOr value) base value
    else
      match value with
      | .arr items => placementsOfItems rules base items
      | .null => pure []
      | other => requireEmpty other
  | some .membersIfFirst =>
    match value with
    | .obj parts =>
      if (parts.head?.map (·.2.isObject)).getD false then placementsOfParts rules base parts
      else pure []
    | .null => pure []
    | _ => throw .noMembers

theorem placementsOfMembers_cons (keyword : String) (value : Json) (rest : Json.Members) :
    placementsOfMembers rules base ((keyword, value) :: rest) = do
      let others ← placementsOfMembers rules base rest
      let found ← placementsUnder rules base keyword value
      return others ++ found := by
  rw [placementsOfMembers]
  unfold placementsUnder
  refine bind_congr fun others => ?_
  cases rules.partForm? keyword with
  | none => rfl
  | some form => cases form <;> cases value <;> dsimp only <;> (try split) <;> simp

/-- The schemas inside the value of a keyword are those inside its relaxed form. -/
theorem placementsUnder_relax (keyword : String) {value : Json} (hrelaxable : value.IsRelaxable)
    (halike : ∀ document, Json.Inside document value → PlacedAlike root document) :
    Follows (List.Forall₂ (Placement.Eases root)) (placementsUnder rules base keyword value)
      (placementsUnder rules base keyword value.relax) := by
  have hnothing : Follows (List.Forall₂ (Placement.Eases root))
      (pure [] : Except Breakdown (List Placement)) (pure [] : Except Breakdown _) := .ok .nil
  have hempty := requireEmpty_relax (R := Placement.Eases root) value
  have hwhole := (halike value .self).declared hrelaxable rules base
  have hitems : ∀ {items}, value = .arr items → Follows (List.Forall₂ (Placement.Eases root))
      (placementsOfItems rules base items)
      (placementsOfItems rules base (items.map Json.relax)) := by
    rintro items rfl
    exact placementsOfItems_relax fun item hitem =>
      ⟨halike item (.of_item hitem), hrelaxable.item hitem⟩
  have hparts : ∀ {parts}, value = .obj parts → Follows (List.Forall₂ (Placement.Eases root))
      (placementsOfParts rules base parts)
      (placementsOfParts rules base (Json.relaxedMembers parts)) := by
    rintro parts rfl
    exact placementsOfParts_relaxedMembers hrelaxable fun part hpart =>
      halike part.2 (.of_member hpart)
  unfold placementsUnder
  cases rules.partForm? keyword with
  | none => exact hnothing
  | some form =>
    cases form with
    | whole =>
      simp only [isPassedOver_relax]
      split
      · exact hnothing
      · exact hwhole
    | items =>
      cases value with
      | arr items => simpa only [Json.relax_arr] using hitems rfl
      | _ => simpa using hempty
    | members =>
      cases value with
      | obj parts => simpa only [Json.relax_obj] using hparts rfl
      | _ => exact .error _ _
    | wholeOrItems =>
      simp only [isSchemaLike_relax]
      split
      · exact hwhole
      · cases value with
        | arr items => simpa only [Json.relax_arr] using hitems rfl
        | null => simpa only [Json.relax_null] using hnothing
        | _ => simpa using hempty
    | membersIfFirst =>
      cases value with
      | obj parts =>
        simp only [Json.relax_obj, head?_relaxedMembers hrelaxable]
        split
        · exact hparts rfl
        · exact hnothing
      | null => simpa only [Json.relax_null] using hnothing
      | _ => exact .error _ _

/-- The schemas inside the values of members that are relaxed one by one. -/
theorem placementsOfMembers_relax {members : Json.Members}
    (h : ∀ member ∈ members, member.2.IsRelaxable ∧ ∀ document, Json.Inside document member.2 →
      PlacedAlike root document) :
    Follows (List.Forall₂ (Placement.Eases root)) (placementsOfMembers rules base members)
      (placementsOfMembers rules base (members.map fun member => (member.1, member.2.relax))) := by
  induction members with
  | nil =>
    rw [List.map_nil, placementsOfMembers]
    exact .ok .nil
  | cons member rest ih =>
    obtain ⟨keyword, value⟩ := member
    obtain ⟨⟨hrelaxable, halike⟩, hrest⟩ := List.forall_mem_cons.1 h
    rw [List.map_cons, placementsOfMembers_cons, placementsOfMembers_cons]
    refine .bind (ih hrest) fun others others' hothers => ?_
    exact .bind (placementsUnder_relax keyword hrelaxable halike) fun found found' hfound =>
      .ok (List.rel_append hothers hfound)

/-- The schemas inside a relaxed document are those inside the document. -/
theorem placements_relax (hroot : root.IsRelaxable) {document : Json}
    (hinside : Json.Inside document root) : PlacedAlike root document := by
  induction hsize : sizeOf document using Nat.strongRecOn generalizing document with
  | ind size ih =>
    subst hsize
    have hrelaxable := hroot.inside hinside
    intro rules base
    cases document with
    | obj members =>
      let keep : String → Bool := fun keyword => (rules.partForm? keyword).isSome
      have hmembers : ∀ member ∈ members.filter fun member => keep member.1,
          member.2.IsRelaxable ∧ ∀ document, Json.Inside document member.2 →
            PlacedAlike root document := by
        intro member hmember
        have hmem := (List.mem_filter.1 hmember).1
        have hmemInside : Json.Inside member.2 (.obj members) :=
          .of_member hmem
        refine ⟨hrelaxable.inside hmemInside, fun document hdocument => ?_⟩
        exact ih _ (hdocument.sizeOf_lt_of_member hmem)
          ((hdocument.trans hmemInside).trans hinside) rfl
      have hid := rules.idOf_relax hrelaxable
      rw [Json.relax_obj] at hid ⊢
      rw [placements, placements, hid]
      refine .bind (.of_eq rfl) fun id _ hsame => hsame ▸ ?_
      refine .bind (.of_eq rfl) fun address _ hsame => hsame ▸ ?_
      obtain ⟨hconst, htype⟩ := partForm?_const_type rules
      have hfollows := @placementsOfMembers_relax root rules address _ hmembers
      rw [← Json.filter_relaxedMembers hrelaxable.keys_nodup keep (by simp [keep, hconst])
        (by simp [keep, htype]), placementsOfMembers_filter, placementsOfMembers_filter] at hfollows
      refine .bind hfollows fun found found' hfound => .ok (.cons ⟨rfl, ⟨?_, rfl⟩, rfl⟩ hfound)
      rw [← Json.relax_obj]
      exact .relaxed hinside
    | arr items => exact .error _ _
    | str text => exact .error _ _
    | _ => simpa using Placement.follows_self _

/-- The schemas inside a document that is the same or relaxed. -/
theorem Json.Eases.placements (hroot : root.IsRelaxable) {document document' : Json}
    (h : Json.Eases root document document') (rules : Dialect) (base : String) :
    Follows (List.Forall₂ (Placement.Eases root)) (TypeRegistry.placements rules base document)
      (TypeRegistry.placements rules base document') := by
  cases h with
  | same => exact Placement.follows_self _
  | relaxed hinside => exact placements_relax hroot hinside rules base

end Placements

/-! ## Libraries -/

/-- What an anchor names that is the same or relaxed. -/
structure Anchor.Eases (root : Json) (anchor anchor' : Anchor) : Prop where
  address : anchor'.address = anchor.address
  name : anchor'.name = anchor.name
  resource : Resource.Eases root anchor.resource anchor'.resource
  moves : anchor'.moves = anchor.moves

/-- A library in which some documents are relaxed. -/
structure Library.Eases (root : Json) (library library' : Library) : Prop where
  resources : List.Forall₂ (fun entry entry' => entry'.1 = entry.1 ∧
    Resource.Eases root entry.2 entry'.2) library.resources library'.resources
  anchors : List.Forall₂ (Anchor.Eases root) library.anchors library'.anchors
  unexplored : library'.unexplored = library.unexplored

/-- What stands under a name in dictionaries with the same names. -/
theorem Dictionary.find?_forall₂ {α β : Type} {R : α → β → Prop} {entries : Dictionary α}
    {entries' : Dictionary β}
    (h : List.Forall₂ (fun entry entry' => entry'.1 = entry.1 ∧ R entry.2 entry'.2) entries entries')
    (name : String) : Option.Rel R (find? name entries) (find? name entries') := by
  induction h with
  | nil => exact .none
  | @cons entry entry' _ _ hentry _ ih =>
    obtain ⟨key, value⟩ := entry
    obtain ⟨key', value'⟩ := entry'
    obtain ⟨rfl, hvalue⟩ := hentry
    rw [find?, find?]
    split
    · exact .some hvalue
    · exact ih

section Libraries

variable {root : Json} {library library' : Library}

namespace Library.Eases

theorem refl (root : Json) (library : Library) : Library.Eases root library library where
  resources := List.forall₂_same.2 fun entry _ => ⟨rfl, .refl root entry.2⟩
  anchors := List.forall₂_same.2 fun anchor _ => ⟨rfl, rfl, .refl root anchor.resource, rfl⟩
  unexplored := rfl

theorem put (h : Library.Eases root library library') (address : String)
    {resource resource' : Resource} (hresource : Resource.Eases root resource resource') :
    Library.Eases root (library.put address resource) (library'.put address resource') where
  resources := .cons ⟨rfl, hresource⟩ h.resources
  anchors := h.anchors
  unexplored := congrArg (address :: ·) h.unexplored

theorem noted? (h : Library.Eases root library library') (address name : String) :
    Option.Rel (Anchor.Eases root) (library.noted? address name) (library'.noted? address name) := by
  have hanchors := h.anchors
  rw [Library.noted?, Library.noted?]
  generalize library.anchors = anchors at hanchors ⊢
  generalize library'.anchors = anchors' at hanchors ⊢
  induction hanchors with
  | nil => exact .none
  | cons hanchor _ ih =>
    rw [List.find?_cons, List.find?_cons, hanchor.address, hanchor.name]
    split
    · exact .some hanchor
    · exact ih

variable (hroot : root.IsRelaxable)
include hroot

theorem note (h : Library.Eases root library library') {placement placement' : Placement}
    (hplacement : Placement.Eases root placement placement') :
    Library.Eases root (library.note placement) (library'.note placement') where
  resources := by
    rw [Library.note, Library.note, hplacement.isNamed, hplacement.address]
    dsimp only
    split
    · exact .cons ⟨rfl, hplacement.resource⟩ h.resources
    · exact h.resources
  anchors := by
    rw [Library.note, Library.note, hplacement.address, hplacement.resource.rules,
      hplacement.resource.content.anchorsOf_eq hroot]
    dsimp only
    have hanchors := h.anchors
    generalize library.anchors = anchors at hanchors ⊢
    generalize library'.anchors = anchors' at hanchors ⊢
    induction placement.resource.rules.anchorsOf placement.resource.content
      generalizing anchors anchors' with
    | nil => exact hanchors
    | cons name rest ih => exact ih _ _ (.cons ⟨rfl, rfl, hplacement.resource, rfl⟩ hanchors)
  unexplored := h.unexplored

theorem placementsAt (h : Library.Eases root library library') (addresses : List String) :
    Follows (List.Forall₂ (Placement.Eases root)) (library.placementsAt addresses)
      (library'.placementsAt addresses) := by
  induction addresses with
  | nil => exact .ok .nil
  | cons address rest ih =>
    rw [Library.placementsAt, Library.placementsAt]
    have hjoin : ∀ found found', List.Forall₂ (Placement.Eases root) found found' →
        Follows (List.Forall₂ (Placement.Eases root))
          (do return found ++ (← library.placementsAt rest) : Except Breakdown (List Placement))
          (do return found' ++ (← library'.placementsAt rest)) :=
      fun found found' hfound => .bind ih fun others others' hothers =>
        .ok (List.rel_append hfound hothers)
    obtain ⟨hnone, hnone'⟩ | ⟨resource, ⟨content', rules'⟩, hfound, hfound', hresource⟩ :=
      none_or_some_of_rel (Dictionary.find?_forall₂ h.resources address)
    · rw [hnone, hnone']
      exact .bind (.ok .nil) hjoin
    · rw [hfound, hfound']
      obtain rfl : rules' = resource.rules := hresource.rules
      exact .bind (hresource.content.placements hroot resource.rules address) hjoin

theorem explored (h : Library.Eases root library library') :
    Follows (Library.Eases root) library.explored library'.explored := by
  have hnotes : ∀ {placements placements'}, List.Forall₂ (Placement.Eases root) placements placements' →
      ∀ {library library'}, Library.Eases root library library' →
        Library.Eases root (placements.foldl Library.note library)
          (placements'.foldl Library.note library') := by
    intro placements placements' hplacements
    induction hplacements with
    | nil => exact fun h => h
    | cons hplacement _ ih => exact fun h => ih (h.note hroot hplacement)
  rw [Library.explored, Library.explored, h.unexplored]
  refine .bind (h.placementsAt hroot _) fun placements placements' hplacements => .ok ?_
  have hnoted := hnotes hplacements h
  exact ⟨hnoted.resources, hnoted.anchors, rfl⟩

/-- What a library holds at an address, and the library afterwards. -/
theorem find? (h : Library.Eases root library library') (address : String) :
    Follows (fun found found' => Option.Rel (Resource.Eases root) found.1 found'.1 ∧
        Library.Eases root found.2 found'.2)
      (library.find? address) (library'.find? address) := by
  rw [Library.find?, Library.find?]
  obtain ⟨hnone, hnone'⟩ | ⟨resource, resource', hfound, hfound', hresource⟩ :=
    none_or_some_of_rel (Dictionary.find?_forall₂ h.resources address)
  · rw [hnone, hnone']
    exact .bind (h.explored hroot) fun explored explored' hexplored =>
      .ok ⟨Dictionary.find?_forall₂ hexplored.resources address, hexplored⟩
  · rw [hfound, hfound']
    exact .ok ⟨.some hresource, h⟩

/-- What a fragment names, and the library afterwards. -/
theorem anchor? (h : Library.Eases root library library') (address name : String) :
    Follows (fun found found' => Option.Rel (Anchor.Eases root) found.1 found'.1 ∧
        Library.Eases root found.2 found'.2)
      (library.anchor? address name) (library'.anchor? address name) := by
  rw [Library.anchor?, Library.anchor?]
  obtain ⟨hnone, hnone'⟩ | ⟨anchor, anchor', hnoted, hnoted', hanchor⟩ :=
    none_or_some_of_rel (h.noted? address name)
  · rw [hnone, hnone']
    refine .bind (h.explored hroot) fun explored explored' hexplored => ?_
    obtain ⟨hnone, hnone'⟩ | ⟨anchor, anchor', hnoted, hnoted', hanchor⟩ :=
      none_or_some_of_rel (hexplored.noted? address name)
    · -- A schema may also be called by the name that it has for itself.
      rw [hnone, hnone']
      obtain ⟨hnone, hnone'⟩ | ⟨resource, resource', hfound, hfound', hresource⟩ :=
        none_or_some_of_rel (Dictionary.find?_forall₂ h.resources address)
      · rw [hnone, hnone']
        exact .ok ⟨.none, hexplored⟩
      · rw [hfound, hfound']
        have hid : resource'.id? = resource.id? := by
          rw [Resource.id?, Resource.id?, hresource.rules, hresource.content.idOf_eq hroot]
        refine .bind (.of_eq hid.symm) fun id _ hsame => hsame ▸ .ok ⟨?_, hexplored⟩
        cases id with
        | none => exact .none
        | some id => exact hexplored.noted? id name
    · rw [hnoted, hnoted']
      exact .ok ⟨.some hanchor, hexplored⟩
  · rw [hnoted, hnoted']
    exact .ok ⟨.some hanchor, h⟩

end Library.Eases

end Libraries

end TypeRegistry
