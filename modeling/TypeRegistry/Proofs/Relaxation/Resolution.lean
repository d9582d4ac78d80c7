import TypeRegistry.Proofs.Relaxation.Library

/-!
# Resolving references in relaxed schemas

A reference in a relaxed schema leads where it led, to a document that is the same or relaxed: the
library is explored as before, and the steps of a pointer do not change unless they lead to a pinned
identifier or to a type beside one.  No schema stands there.

Main results:

- Definition `Scope.Eases`: a scope in whose library some documents are relaxed.
- Theorem `pointTo_eases`: where a pointer leads in a relaxed document.
- Theorems `Scope.Eases.resolve`, `Scope.Eases.recur`: where references and recursions lead.
-/

namespace TypeRegistry

open Dictionary

/-! ## Scopes -/

/-- A scope in whose library some documents are relaxed. -/
structure Scope.Eases (root : Json) (scope scope' : Scope) : Prop where
  dialect : scope'.dialect = scope.dialect
  base : scope'.base = scope.base
  outer : scope'.outer = scope.outer
  library : Library.Eases root scope.library scope'.library

namespace Scope.Eases

variable {root : Json} {scope scope' : Scope}

theorem named (h : Scope.Eases root scope scope') (id : Option String) :
    Follows (Scope.Eases root) (scope.named id) (scope'.named id) := by
  rw [Scope.named, Scope.named, h.base]
  exact .bind (.of_eq rfl) fun base _ hsame => hsame ▸ .ok ⟨h.dialect, rfl, h.outer, h.library⟩

theorem moved (h : Scope.Eases root scope scope') (address : String) {library library' : Library}
    (hlibrary : Library.Eases root library library') :
    Scope.Eases root (scope.moved address library) (scope'.moved address library') where
  dialect := h.dialect
  base := rfl
  outer := by rw [Scope.moved, Scope.moved, h.base, h.outer]
  library := hlibrary

theorem withLibrary (h : Scope.Eases root scope scope') {library library' : Library}
    (hlibrary : Library.Eases root library library') :
    Scope.Eases root { scope with library } { scope' with library := library' } :=
  ⟨h.dialect, h.base, h.outer, hlibrary⟩

variable (hroot : root.IsRelaxable)
include hroot

theorem adopt (h : Scope.Eases root scope scope') {schema schema' : Json}
    (hschema : Json.Eases root schema schema') :
    Follows (Scope.Eases root) (scope.adopt schema) (scope'.adopt schema') := by
  rw [Scope.adopt, Scope.adopt, h.dialect, hschema.adopt_eq hroot]
  exact .bind (.of_eq rfl) fun dialect _ hsame => hsame ▸ .ok ⟨rfl, h.base, h.outer, h.library⟩

theorem into (h : Scope.Eases root scope scope') {schema schema' : Json}
    (hschema : Json.Eases root schema schema') :
    Follows (Scope.Eases root) (scope.into schema) (scope'.into schema') := by
  rw [Scope.into, Scope.into, h.dialect, hschema.idOf_eq hroot]
  exact .bind (.of_eq rfl) fun id _ hsame => hsame ▸ h.named id

end Scope.Eases

/-! ## Pointers -/

/-- A document that can be a schema: an object or a truth value. -/
def Json.CanBeSchema (document : Json) : Prop :=
  document.isObject = true ∨ document.isTruth = true

theorem mem_of_itemFromEitherEnd? {items : List Json} {position : Int} {item : Json}
    (h : itemFromEitherEnd? items position = some item) : item ∈ items := by
  have hitem : ∀ position, itemAt? items position = some item → item ∈ items := by
    intro position h
    cases position with
    | ofNat place => exact List.mem_of_getElem? h
    | negSucc _ => cases h
  rw [itemFromEitherEnd?] at h
  split at h
  · exact hitem _ h
  · exact hitem _ h

theorem itemFromEitherEnd?_map (change : Json → Json) (items : List Json) (position : Int) :
    itemFromEitherEnd? (items.map change) position =
      (itemFromEitherEnd? items position).map change := by
  have hitem : ∀ position, itemAt? (items.map change) position =
      (itemAt? items position).map change := by
    intro position
    cases position with
    | ofNat place => exact List.getElem?_map
    | negSucc _ => rfl
  rw [itemFromEitherEnd?, itemFromEitherEnd?, List.length_map, hitem, hitem]
  split <;> rfl

/-- Into an array a name leads if it is a position. -/
theorem stepInto_arr (name : List Char) (items : List Json) :
    stepInto name (.arr items) =
      match Text.wholeNumber? (String.ofList name) with
      | some position => .ok ((itemFromEitherEnd? items position).map fun part =>
          (.place position.toNat, part))
      | none => .error .notPosition := by
  rw [stepInto.eq_def]
  dsimp only
  cases Text.wholeNumber? (String.ofList name) <;> rfl

/-- Into a text a name leads as into the array of its characters. -/
theorem stepInto_str (name : List Char) (s : String) :
    stepInto name (.str s) =
      stepInto name (.arr ((s.toList.map fun c => String.ofList [c]).map .str)) := by
  rw [stepInto_arr, stepInto.eq_def, List.map_map]
  dsimp only
  cases Text.wholeNumber? (String.ofList name) <;> rfl

/-- What the steps of a pointer lead to, step by step. -/
theorem pointTo_cons_eq_some_iff {rules : Dialect} {steps : List PathStep} {name : List Char}
    {rest : List (List Char)} {document : Json} {scope : Scope} {target : Json × Scope} :
    pointTo rules steps (name :: rest) document scope = .ok (some target) ↔
      ∃ step part id inner, stepInto name document = .ok (some (step, part)) ∧
        (if rules.leadsToPart part (steps ++ [step]) then rules.idOf part else pure none) = .ok id ∧
        scope.named id = .ok inner ∧
        pointTo rules (if id.isSome then [] else steps ++ [step]) rest part inner =
          .ok (some target) := by
  rw [pointTo]
  constructor
  · intro h
    cases hinto : stepInto name document with
    | error cause => simp [hinto, bind, Except.bind] at h
    | ok next =>
      rw [hinto] at h
      cases next with
      | none => cases h
      | some next =>
        obtain ⟨step, part⟩ := next
        simp only [bind, Except.bind] at h
        cases hid : (if rules.leadsToPart part (steps ++ [step]) then rules.idOf part
            else pure none) with
        | error cause => split at h <;> simp_all
        | ok id =>
          cases hnamed : scope.named id with
          | error cause => split at h <;> simp_all
          | ok inner =>
            refine ⟨step, part, id, inner, rfl, hid, hnamed, ?_⟩
            split at h <;> simp_all
  · rintro ⟨step, part, id, inner, hinto, hid, hnamed, hrest⟩
    rw [hinto]
    simp only [bind, Except.bind]
    split at hid <;> simp_all

/-- A pointer leads from a text, and from a list of texts, to nothing else. -/
theorem isTypeText_of_pointTo {rules : Dialect} {steps : List PathStep} {names : List (List Char)}
    {document : Json} {scope : Scope} {target : Json × Scope} (htext : document.IsTypeText)
    (h : pointTo rules steps names document scope = .ok (some target)) : target.1.IsTypeText := by
  induction names generalizing steps document scope with
  | nil =>
    rw [pointTo] at h
    obtain rfl := Option.some.inj (Except.ok.inj h)
    exact htext
  | cons name rest ih =>
    have hstep : ∀ texts : List String, ∀ {step part},
        stepInto name (.arr (texts.map .str)) = .ok (some (step, part)) → part.IsTypeText := by
      intro texts step part hpart
      rw [stepInto_arr] at hpart
      split at hpart
      · obtain ⟨item, hitem, heq⟩ := Option.map_eq_some_iff.1 (Except.ok.inj hpart)
        obtain ⟨text, -, rfl⟩ := List.mem_map.1 (mem_of_itemFromEitherEnd? hitem)
        obtain rfl := (Prod.mk.inj heq).2
        exact .inl ⟨text, rfl⟩
      · cases hpart
    obtain ⟨step, part, id, inner, hinto, -, -, hrest⟩ := pointTo_cons_eq_some_iff.1 h
    refine ih ?_ hrest
    rcases htext with ⟨text, rfl⟩ | ⟨texts, rfl⟩
    · rw [stepInto_str] at hinto
      exact hstep _ hinto
    · exact hstep texts hinto

/-- No text and no list of texts can be a schema. -/
theorem Json.IsTypeText.not_canBeSchema {document : Json} (h : document.IsTypeText) :
    ¬ document.CanBeSchema := by
  rcases h with ⟨text, rfl⟩ | ⟨texts, rfl⟩ <;> simp [Json.CanBeSchema, Json.isObject, Json.isTruth]

section Pointers

variable {root : Json} (hroot : root.IsRelaxable)
include hroot

/-- A name leads into a relaxed object to what it led to, unless that pins an identifier or is a type
beside what does. -/
theorem find?_relaxedMembers_or {members : Json.Members} (hinside : Json.Inside (.obj members) root)
    {name : String} {part : Json} (hpart : find? name members = some part) :
    part.IsTypeText ∨ find? name (Json.relaxedMembers members) = some part.relax := by
  have hrelaxable := hroot.inside hinside
  by_cases hpins : Json.Pins members
  · by_cases hconst : name = "const"
    · subst hconst
      have hpinned := hrelaxable.pinned_of_const hpins (mem_of_find? hpart)
      exact .inl (.inl (Json.pinsIdentifier_eq_true hpinned).2)
    · by_cases htype : name = "type"
      · subst htype
        exact .inl (hrelaxable.typeText .self hpins hpart)
      · right
        rw [Json.find?_relaxedMembers hrelaxable.keys_nodup hconst htype, hpart]
        rfl
  · right
    rw [Json.relaxedMembers_of_unpinned hrelaxable.keys_nodup hpins,
      find?_mapValues (fun _ value => Json.relax value), hpart]
    rfl

/-- A step of a pointer leads into a relaxed document to what it led to, unless that is a text or a
list of texts. -/
theorem stepInto_eases {name : List Char} {document document' : Json}
    (h : Json.Eases root document document') {step : PathStep} {part : Json}
    (hstep : stepInto name document = .ok (some (step, part))) :
    part.IsTypeText ∨
      ∃ part', stepInto name document' = .ok (some (step, part')) ∧ Json.Eases root part part' := by
  cases h with
  | same => exact .inr ⟨part, hstep, .same⟩
  | relaxed hinside =>
    cases document with
    | obj members =>
      rw [stepInto] at hstep
      obtain ⟨found, hfound, heq⟩ := Option.map_eq_some_iff.1 (Except.ok.inj hstep)
      obtain ⟨rfl, rfl⟩ := Prod.mk.inj heq
      refine (find?_relaxedMembers_or hroot hinside hfound).imp_right fun hrelaxed => ?_
      refine ⟨found.relax, ?_, .relaxed ((Json.Inside.of_member (mem_of_find? hfound)).trans hinside)⟩
      rw [Json.relax_obj, stepInto, hrelaxed]
      rfl
    | arr items =>
      rw [stepInto_arr] at hstep
      split at hstep
      next position hposition =>
        obtain ⟨item, hitem, heq⟩ := Option.map_eq_some_iff.1 (Except.ok.inj hstep)
        obtain ⟨rfl, rfl⟩ := Prod.mk.inj heq
        have hmem := Json.Inside.of_item (mem_of_itemFromEitherEnd? hitem)
        refine .inr ⟨item.relax, ?_, .relaxed (hmem.trans hinside)⟩
        rw [Json.relax_arr, stepInto_arr, hposition]
        simp only [itemFromEitherEnd?_map, hitem]
        rfl
      next => cases hstep
    | _ => simpa using .inr ⟨part, hstep, .same⟩

/-- A pointer leads to a schema in a relaxed document if it leads to one in the document. -/
theorem pointTo_eases {rules : Dialect} {steps : List PathStep} {names : List (List Char)}
    {document document' target : Json} {scope scope' inner : Scope}
    (hdocument : Json.Eases root document document') (hscope : Scope.Eases root scope scope')
    (hschema : target.CanBeSchema)
    (h : pointTo rules steps names document scope = .ok (some (target, inner))) :
    ∃ target' inner', pointTo rules steps names document' scope' = .ok (some (target', inner')) ∧
      Json.Eases root target target' ∧ Scope.Eases root inner inner' := by
  induction names generalizing steps document document' scope scope' with
  | nil =>
    rw [pointTo] at h
    obtain ⟨rfl, rfl⟩ := Prod.mk.inj (Option.some.inj (Except.ok.inj h))
    exact ⟨document', scope', by rw [pointTo], hdocument, hscope⟩
  | cons name rest ih =>
    obtain ⟨step, part, id, next, hstep, hid, hnamed, hrest⟩ := pointTo_cons_eq_some_iff.1 h
    rcases stepInto_eases hroot hdocument hstep with htext | ⟨part', hstep', hpart⟩
    · exact absurd hschema (isTypeText_of_pointTo htext hrest).not_canBeSchema
    · obtain ⟨next', hnamed', hnext⟩ := hscope.named id next hnamed
      obtain ⟨target', inner', htarget, heases⟩ := ih hpart hnext hrest
      refine ⟨target', inner', pointTo_cons_eq_some_iff.2 ?_, heases⟩
      refine ⟨step, part', id, next', hstep', ?_, hnamed', htarget⟩
      rw [rules.leadsToPart_congr hpart.isObject_eq, hpart.idOf_eq hroot]
      exact hid

end Pointers

/-! ## References -/

/-- A schema in its scope, and the same or relaxed. -/
def TargetEases (root : Json) (target target' : Json × Scope) : Prop :=
  Json.Eases root target.1 target'.1 ∧ Scope.Eases root target.2 target'.2

/-- What can be a schema in its scope, and the same or relaxed. -/
def SchemaEases (root : Json) (target target' : Json × Scope) : Prop :=
  target.1.CanBeSchema ∧ TargetEases root target target'

/-- A reference leads to nothing but what can be a schema. -/
def Scope.LeadsToSchema (fetch : String → Consulted (Option Resource)) (scope : Scope)
    (ref : String) : Prop :=
  ∀ target inner, (scope.resolve fetch ref).value = .ok (target, inner) → target.CanBeSchema

/-- If a first outcome is a schema in a scope, so is a second one, and both are the same or relaxed.
-/
def LeadsAlike {ε : Type} (root : Json) (first second : Except ε (Json × Scope)) : Prop :=
  ∀ target inner, first = .ok (target, inner) → target.CanBeSchema →
    ∃ target', second = .ok target' ∧ TargetEases root (target, inner) target'

namespace LeadsAlike

variable {root : Json}

theorem ofFault {fault : EvaluationFault} {second : Trial (Json × Scope)} :
    LeadsAlike root (Trial.ofFault fault : Trial (Json × Scope)).value second.value := by
  intro target inner h
  cases h

theorem of_follows {first second : Except EvaluationFault (Json × Scope)}
    (h : Follows (TargetEases root) first second) : LeadsAlike root first second :=
  fun target inner hfirst _ => h (target, inner) hfirst

theorem follows {ε : Type} {first second : Except ε (Json × Scope)} (h : LeadsAlike root first second)
    (hschema : ∀ target inner, first = .ok (target, inner) → target.CanBeSchema) :
    Follows (SchemaEases root) first second := by
  rintro ⟨target, inner⟩ hfirst
  have htarget := hschema target inner hfirst
  obtain ⟨target', hsecond, heases⟩ := h target inner hfirst htarget
  exact ⟨target', hsecond, htarget, heases⟩

theorem bind {α β : Type} {R : α → β → Prop} {first : Trial α} {second : Trial β}
    {next : α → Trial (Json × Scope)} {next' : β → Trial (Json × Scope)}
    (h : Trial.Follows R first second)
    (hnext : ∀ a b, R a b → LeadsAlike root (next a).value (next' b).value) :
    LeadsAlike root (first.bind next).value (second.bind next').value := by
  intro target inner hvalue
  obtain ⟨value, asked⟩ := first
  cases value with
  | error fault => cases hvalue
  | ok a =>
    obtain ⟨b, hb, hrel⟩ := h a rfl
    obtain ⟨value', asked'⟩ := second
    obtain rfl : value' = .ok b := hb
    exact hnext a b hrel target inner hvalue

end LeadsAlike

namespace Scope.Eases

variable {root : Json} {scope scope' : Scope} (hroot : root.IsRelaxable)
include hroot

theorem outermost (h : Scope.Eases root scope scope') (name : String) {found found' : Resource}
    (hfound : Resource.Eases root found found') (addresses : List String) :
    Follows (Resource.Eases root) (scope.outermost name found addresses)
      (scope'.outermost name found' addresses) := by
  induction addresses generalizing found found' with
  | nil => exact .ok hfound
  | cons address rest ih =>
    rw [Scope.outermost, Scope.outermost]
    refine .bind (h.library.anchor? hroot address name) fun noted noted' hnoted => ?_
    obtain ⟨anchor, _⟩ := noted
    obtain ⟨anchor', _⟩ := noted'
    cases hnoted.1 with
    | none => exact ih hfound
    | some hanchor =>
      dsimp only
      rw [hanchor.moves]
      split
      · exact ih hanchor.resource
      · exact ih hfound

theorem atAnchor (h : Scope.Eases root scope scope') {anchor anchor' : Anchor}
    (hanchor : Anchor.Eases root anchor anchor') :
    Follows (TargetEases root) (scope.atAnchor anchor) (scope'.atAnchor anchor') := by
  rw [Scope.atAnchor, Scope.atAnchor, hanchor.moves, hanchor.name, h.outer]
  split
  · refine .bind (h.outermost hroot anchor.name hanchor.resource scope.outer) ?_
    intro resource resource' hresource
    have hid : resource'.id? = resource.id? := by
      rw [Resource.id?, Resource.id?, hresource.rules, hresource.content.idOf_eq hroot]
    rw [hid]
    refine .bind (.of_eq rfl) fun id _ hsame => hsame ▸ ?_
    exact .bind (h.named id) fun inner inner' hinner => .ok ⟨hresource.content, hinner⟩
  · exact .ok ⟨hanchor.resource.content, h⟩

/-- What a fragment leads to. -/
theorem atFragment (h : Scope.Eases root scope scope') {resource resource' : Resource}
    (hresource : Resource.Eases root resource resource') (fragment : String) :
    LeadsAlike root (scope.atFragment resource fragment).value
      (scope'.atFragment resource' fragment).value := by
  rw [Scope.atFragment, Scope.atFragment]
  by_cases hempty : fragment.isEmpty = true
  · rw [if_pos hempty, if_pos hempty]
    exact .of_follows (.ok ⟨hresource.content, h⟩)
  · rw [if_neg hempty, if_neg hempty]
    by_cases hpointer : Text.startsWith "/" fragment = true
    · rw [if_pos hpointer, if_pos hpointer, hresource.rules]
      intro target inner hvalue hschema
      cases hfirst : pointTo resource.rules [] (pointerNames fragment) resource.content scope with
      | error cause =>
        rw [hfirst] at hvalue
        cases hvalue
      | ok found =>
        rw [hfirst] at hvalue
        cases found with
        | none => cases hvalue
        | some found =>
          obtain rfl := Except.ok.inj hvalue
          obtain ⟨target', inner', htarget, heases⟩ :=
            pointTo_eases hroot hresource.content h hschema hfirst
          rw [htarget]
          exact ⟨(target', inner'), rfl, heases⟩
    · rw [if_neg hpointer, if_neg hpointer]
      have hnoted := h.library.anchor? hroot scope.base fragment
      nth_rewrite 2 [← h.base] at hnoted
      refine .bind (.ofExcept hnoted) ?_
      rintro ⟨anchor, library⟩ ⟨anchor', library'⟩ ⟨hanchor, hlibrary⟩
      cases hanchor with
      | none =>
        dsimp only
        split
        · exact .ofFault
        · exact .ofFault
      | some hanchor =>
        exact .of_follows (Trial.Follows.ofExcept ((h.withLibrary hlibrary).atAnchor hroot hanchor))

/-- The schema at an address. -/
theorem obtain (h : Scope.Eases root scope scope') (fetch : String → Consulted (Option Resource))
    (address : String) :
    Trial.Follows (Option.Rel fun found found' => Resource.Eases root found.1 found'.1 ∧
        Scope.Eases root found.2 found'.2)
      (scope.obtain fetch address) (scope'.obtain fetch address) := by
  rw [Scope.obtain, Scope.obtain]
  refine .bind (.ofExcept (h.library.find? hroot address)) ?_
  rintro ⟨resource, library⟩ ⟨resource', library'⟩ ⟨hresource, hlibrary⟩
  cases hresource with
  | some hresource => exact .pure (.some ⟨hresource, h.moved address hlibrary⟩)
  | none =>
    refine TypeRegistry.Follows.ok ?_
    cases (fetch address).value with
    | none => exact .none
    | some resource =>
      have hfetched := Resource.Eases.refl root resource
      exact .some ⟨hfetched, h.moved address (hlibrary.put address hfetched)⟩

/-- The schema that a reference leads to. -/
theorem resolve (h : Scope.Eases root scope scope') (fetch : String → Consulted (Option Resource))
    (ref : String) :
    LeadsAlike root (scope.resolve fetch ref).value (scope'.resolve fetch ref).value := by
  have htarget : scope'.target ref = scope.target ref := by
    rw [Scope.target, Scope.target, h.base]
  rw [Scope.resolve, Scope.resolve, htarget]
  refine .bind (.ofExcept (.of_eq rfl)) ?_
  rintro ⟨address, fragment⟩ _ rfl
  refine .bind (h.obtain hroot fetch address) ?_
  rintro found found' hfound
  cases hfound with
  | none => exact .ofFault
  | some hfound => exact hfound.2.atFragment hroot hfound.1 fragment

/-- The schema that a recursion leads to, if what it is looked for through are schemas. -/
theorem recur (h : Scope.Eases root scope scope') (fetch : String → Consulted (Option Resource))
    (hschema : ∀ ref ∈ "#" :: scope.outer, scope.LeadsToSchema fetch ref) :
    Trial.Follows (SchemaEases root) (scope.recur fetch) (scope'.recur fetch) := by
  obtain ⟨hself, houter⟩ := List.forall_mem_cons.1 hschema
  have hthrough : ∀ addresses, (∀ ref ∈ addresses, scope.LeadsToSchema fetch ref) →
      ∀ found found', SchemaEases root found found' →
        Trial.Follows (SchemaEases root) (scope.recurThrough fetch found addresses)
          (scope'.recurThrough fetch found' addresses) := by
    intro addresses
    induction addresses with
    | nil => exact fun _ found found' hfound => .pure hfound
    | cons address rest ih =>
      intro haddresses found found' hfound
      obtain ⟨haddress, hrest⟩ := List.forall_mem_cons.1 haddresses
      rw [Scope.recurThrough, Scope.recurThrough]
      refine .bind ((h.resolve hroot fetch address).follows haddress) fun next next' hnext => ?_
      rw [hnext.2.1.isRecursive_eq hroot]
      split
      · exact ih hrest next next' hnext
      · exact .pure hfound
  rw [Scope.recur, Scope.recur, h.outer]
  refine .bind ((h.resolve hroot fetch "#").follows hself) fun found found' hfound => ?_
  rw [hfound.2.1.isRecursive_eq hroot]
  split
  · exact hthrough scope.outer houter found found' hfound
  · exact .pure hfound

end Scope.Eases

end TypeRegistry
