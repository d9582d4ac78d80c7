import Mathlib.Data.List.Nodup
import TypeRegistry.Json.Path
import TypeRegistry.Proofs.Json.Parts
import TypeRegistry.Proofs.Lookup
import TypeRegistry.Proofs.Text.Cutting

/-!
# Locations in documents

A location of a document is a way of names and places into it.  Its path joins them into one text,
with points and square brackets between them.  A name may have a point or a bracket itself, or be
empty, and then several locations have one path; where no name is like that, the path tells the
location.

Main results:

- Definition `Json.at?`, `locationPath`: the value at a location, and the path of the location.
- Definition `Json.located`: all values of a document with their locations.
- Theorem `mem_located_iff`: these are the values at all locations.
- Theorem `nodup_locations`: no two values stand at one location.
- Theorem `locationPath_inj`: plain locations with one path are the same.
-/

namespace TypeRegistry

open Dictionary

/-! ## Values at locations -/

/-- The value at a location of a document. -/
def Json.at? : List PathStep → Json → Option Json
  | [], value => some value
  | .name name :: rest, .obj members => (find? name members).bind (at? rest)
  | .place place :: rest, .arr items => items[place]?.bind (at? rest)
  | _ :: _, _ => none

/-- The path of a location one step further down. -/
def stepPath (path : String) : PathStep → String
  | .name name => memberPath path name
  | .place place => itemPath path place

/-- The path of a location below a path. -/
def locationPath (path : String) (location : List PathStep) : String :=
  location.foldl stepPath path

namespace Json

@[simp]
theorem at?_nil (value : Json) : at? [] value = some value := by
  rw [at?]

@[simp]
theorem at?_name (name : String) (rest : List PathStep) (members : Members) :
    at? (.name name :: rest) (.obj members) = (find? name members).bind (at? rest) := by
  rw [at?]

@[simp]
theorem at?_place (place : Nat) (rest : List PathStep) (items : List Json) :
    at? (.place place :: rest) (.arr items) = items[place]?.bind (at? rest) := by
  rw [at?]

/-- Below a text there is no location. -/
theorem at?_str {location : List PathStep} {text : String} {value : Json}
    (h : at? location (.str text) = some value) : location = [] ∧ value = .str text := by
  cases location with
  | nil => exact ⟨rfl, (Option.some.inj h).symm⟩
  | cons step rest => cases step <;> cases h

/-- A location is looked up step by step. -/
theorem at?_append (front rest : List PathStep) (document : Json) :
    at? (front ++ rest) document = (at? front document).bind (at? rest) := by
  induction front generalizing document with
  | nil => rfl
  | cons step front ih =>
    have hbind : ∀ found : Option Json,
        found.bind (at? (front ++ rest)) = (found.bind (at? front)).bind (at? rest) := by
      intro found
      cases found with
      | none => rfl
      | some value => exact ih value
    cases step with
    | name name =>
      cases document with
      | obj members => simp only [List.cons_append, at?_name, hbind]
      | null | bool _ | int _ | float _ | str _ | arr _ => rfl
    | place place =>
      cases document with
      | arr items => simp only [List.cons_append, at?_place, hbind]
      | null | bool _ | int _ | float _ | str _ | obj _ => rfl

/-! ## All values with their locations -/

/-- A value with its location, seen from one step further up. -/
def behindStep (step : PathStep) (entry : List PathStep × Json) : List PathStep × Json :=
  (step :: entry.1, entry.2)

mutual

/-- All values of a document with their locations, every value before those inside it. -/
def located : Json → List (List PathStep × Json)
  | .arr items => ([], .arr items) :: locatedItems 0 items
  | .obj members => ([], .obj members) :: locatedMembers members
  | document => [([], document)]

/-- All values of the items of an array from a place on. -/
def locatedItems : (place : Nat) → List Json → List (List PathStep × Json)
  | _, [] => []
  | place, item :: rest =>
    (located item).map (behindStep (.place place)) ++ locatedItems (place + 1) rest

/-- All values of the members of an object. -/
def locatedMembers : Members → List (List PathStep × Json)
  | [] => []
  | (name, value) :: rest => (located value).map (behindStep (.name name)) ++ locatedMembers rest

end

section Located

variable {location : List PathStep} {value : Json}

/-- A value inside an item of an array stands behind the place of the item. -/
theorem mem_locatedItems_iff {items : List Json} {start : Nat} :
    (location, value) ∈ locatedItems start items ↔
      ∃ k item rest, items[k]? = some item ∧ location = .place (start + k) :: rest ∧
        (rest, value) ∈ located item := by
  induction items generalizing start with
  | nil => simp [locatedItems]
  | cons first others ih =>
    rw [locatedItems, List.mem_append, ih]
    constructor
    · rintro (hfirst | ⟨k, item, rest, hitem, hlocation, hmem⟩)
      · obtain ⟨⟨rest, inner⟩, hmem, heq⟩ := List.mem_map.1 hfirst
        obtain ⟨rfl, rfl⟩ := Prod.mk.inj heq
        exact ⟨0, first, rest, rfl, rfl, hmem⟩
      · refine ⟨k + 1, item, rest, hitem, ?_, hmem⟩
        rw [hlocation, Nat.add_assoc, Nat.add_comm 1]
    · rintro ⟨k, item, rest, hitem, rfl, hmem⟩
      cases k with
      | zero =>
        obtain rfl := Option.some.inj hitem
        exact .inl (List.mem_map.2 ⟨(rest, value), hmem, rfl⟩)
      | succ k =>
        refine .inr ⟨k, item, rest, hitem, ?_, hmem⟩
        rw [Nat.add_assoc, Nat.add_comm 1]

/-- A value inside a member of an object stands behind the name of the member. -/
theorem mem_locatedMembers_iff {members : Members} :
    (location, value) ∈ locatedMembers members ↔
      ∃ name inner rest, (name, inner) ∈ members ∧ location = .name name :: rest ∧
        (rest, value) ∈ located inner := by
  induction members with
  | nil => simp [locatedMembers]
  | cons member others ih =>
    obtain ⟨key, first⟩ := member
    rw [locatedMembers, List.mem_append, ih]
    constructor
    · rintro (hfirst | ⟨name, inner, rest, hmember, hlocation, hmem⟩)
      · obtain ⟨⟨rest, inner⟩, hmem, heq⟩ := List.mem_map.1 hfirst
        obtain ⟨rfl, rfl⟩ := Prod.mk.inj heq
        exact ⟨key, first, rest, List.mem_cons_self, rfl, hmem⟩
      · exact ⟨name, inner, rest, List.mem_cons_of_mem _ hmember, hlocation, hmem⟩
    · rintro ⟨name, inner, rest, hmember, rfl, hmem⟩
      rcases List.mem_cons.1 hmember with heq | hmember
      · obtain ⟨rfl, rfl⟩ := Prod.mk.inj heq
        exact .inl (List.mem_map.2 ⟨(rest, value), hmem, rfl⟩)
      · exact .inr ⟨name, inner, rest, hmember, rfl, hmem⟩

/-- A document that is no array and no object has one location. -/
theorem located_of_leaf {document : Json} (harr : ∀ items, document ≠ .arr items)
    (hobj : ∀ members, document ≠ .obj members) : located document = [([], document)] := by
  cases document with
  | arr items => exact absurd rfl (harr items)
  | obj members => exact absurd rfl (hobj members)
  | null | bool _ | int _ | float _ | str _ => rfl

/-- At a location of a document that is no array and no object stands the document. -/
theorem at?_of_leaf {document : Json} (harr : ∀ items, document ≠ .arr items)
    (hobj : ∀ members, document ≠ .obj members) :
    at? location document = some value ↔ location = [] ∧ value = document := by
  cases location with
  | nil => simp [eq_comm]
  | cons step rest =>
    refine iff_of_false (fun hat => ?_) (by simp)
    cases document with
    | arr items => exact harr items rfl
    | obj members => exact hobj members rfl
    | null | bool _ | int _ | float _ | str _ => cases step <;> cases hat

/-- The values of a document with their locations are those at its locations. -/
theorem mem_located_iff {document : Json} (h : document.WellFormed) :
    (location, value) ∈ located document ↔ at? location document = some value := by
  induction document using parts_induction generalizing location value with
  | leaf document harr hobj =>
    rw [located_of_leaf harr hobj, List.mem_singleton, Prod.mk.injEq, at?_of_leaf harr hobj]
  | arr items ih =>
    rw [wellFormed_arr_iff] at h
    rw [located, List.mem_cons, mem_locatedItems_iff]
    rcases location with _ | ⟨name | place, rest⟩
    · simp [@eq_comm _ value]
    · simp [at?]
    · rw [at?_place, Option.bind_eq_some_iff]
      simp only [Prod.mk.injEq, reduceCtorEq, false_and, false_or, Nat.zero_add, List.cons.injEq,
        PathStep.place.injEq]
      constructor
      · rintro ⟨k, item, behind, hitem, ⟨rfl, rfl⟩, hmem⟩
        have hin := List.mem_of_getElem? hitem
        exact ⟨item, hitem, (ih item hin (h item hin)).1 hmem⟩
      · rintro ⟨item, hitem, hat⟩
        have hin := List.mem_of_getElem? hitem
        exact ⟨place, item, rest, hitem, ⟨rfl, rfl⟩, (ih item hin (h item hin)).2 hat⟩
  | obj members ih =>
    rw [wellFormed_obj_iff] at h
    rw [located, List.mem_cons, mem_locatedMembers_iff]
    rcases location with _ | ⟨name | place, rest⟩
    · simp [@eq_comm _ value]
    · rw [at?_name, Option.bind_eq_some_iff]
      simp only [Prod.mk.injEq, reduceCtorEq, false_and, false_or, List.cons.injEq,
        PathStep.name.injEq, find?_eq_some_iff_mem h.1]
      constructor
      · rintro ⟨key, inner, behind, hmember, ⟨rfl, rfl⟩, hmem⟩
        exact ⟨inner, hmember, (ih name inner hmember (h.2 _ hmember)).1 hmem⟩
      · rintro ⟨inner, hmember, hat⟩
        exact ⟨name, inner, rest, hmember, ⟨rfl, rfl⟩,
          (ih name inner hmember (h.2 _ hmember)).2 hat⟩
    · simp [at?]

end Located

/-- Locations seen from one step further up are as different as before. -/
theorem nodup_map_behindStep (step : PathStep) {entries : List (List PathStep × Json)}
    (h : (entries.map Prod.fst).Nodup) :
    ((entries.map (behindStep step)).map Prod.fst).Nodup := by
  have hmap : (entries.map (behindStep step)).map Prod.fst =
      (entries.map Prod.fst).map (step :: ·) := by
    simp [behindStep]
  rw [hmap]
  exact h.map fun _ _ heq => (List.cons.inj heq).2

/-- Behind a step stand the locations that begin with it. -/
theorem exists_of_mem_map_behindStep {step : PathStep} {entries : List (List PathStep × Json)}
    {location : List PathStep} (h : location ∈ (entries.map (behindStep step)).map Prod.fst) :
    ∃ rest, location = step :: rest := by
  obtain ⟨_, hentry, rfl⟩ := List.mem_map.1 h
  obtain ⟨entry, -, rfl⟩ := List.mem_map.1 hentry
  exact ⟨entry.1, rfl⟩

/-- The locations of the items of an array are different if those of every item are. -/
theorem nodup_locatedItems {items : List Json} (start : Nat)
    (h : ∀ item ∈ items, ((located item).map Prod.fst).Nodup) :
    ((locatedItems start items).map Prod.fst).Nodup := by
  induction items generalizing start with
  | nil => exact List.nodup_nil
  | cons item others ih =>
    rw [List.forall_mem_cons] at h
    rw [locatedItems, List.map_append, List.nodup_append]
    refine ⟨nodup_map_behindStep _ h.1, ih (start + 1) h.2, ?_⟩
    rintro _ hfirst _ hothers rfl
    obtain ⟨rest, rfl⟩ := exists_of_mem_map_behindStep hfirst
    obtain ⟨⟨_, value⟩, hmem, heq⟩ := List.mem_map.1 hothers
    obtain ⟨k, inner, behind, -, rfl, -⟩ := mem_locatedItems_iff.1 hmem
    have hplace := PathStep.place.inj (List.cons.inj heq).1
    omega

/-- The locations of the members of an object are different if no name is in it twice and those of
every member are. -/
theorem nodup_locatedMembers {members : Members} (hkeys : (keys members).Nodup)
    (h : ∀ name value, (name, value) ∈ members → ((located value).map Prod.fst).Nodup) :
    ((locatedMembers members).map Prod.fst).Nodup := by
  induction members with
  | nil => exact List.nodup_nil
  | cons member others ih =>
    obtain ⟨name, first⟩ := member
    obtain ⟨hname, hkeys⟩ := List.nodup_cons.1 hkeys
    rw [locatedMembers, List.map_append, List.nodup_append]
    refine ⟨nodup_map_behindStep _ (h name first List.mem_cons_self),
      ih hkeys fun key value hmember => h key value (List.mem_cons_of_mem _ hmember), ?_⟩
    rintro _ hfirst _ hothers rfl
    obtain ⟨rest, rfl⟩ := exists_of_mem_map_behindStep hfirst
    obtain ⟨⟨_, value⟩, hmem, heq⟩ := List.mem_map.1 hothers
    obtain ⟨key, inner, behind, hmember, rfl, -⟩ := mem_locatedMembers_iff.1 hmem
    obtain rfl := PathStep.name.inj (List.cons.inj heq).1
    exact hname (List.mem_map.2 ⟨_, hmember, rfl⟩)

/-- No two values of a document stand at one location. -/
theorem nodup_locations {document : Json} (h : document.WellFormed) :
    ((located document).map Prod.fst).Nodup := by
  induction document using parts_induction with
  | leaf document harr hobj =>
    rw [located_of_leaf harr hobj]
    exact List.nodup_singleton _
  | arr items ih =>
    rw [wellFormed_arr_iff] at h
    rw [located, List.map_cons, List.nodup_cons]
    refine ⟨?_, nodup_locatedItems 0 fun item hitem => ih item hitem (h item hitem)⟩
    intro hmem
    obtain ⟨⟨location, value⟩, hmem, rfl⟩ := List.mem_map.1 hmem
    obtain ⟨k, item, rest, -, hlocation, -⟩ := mem_locatedItems_iff.1 hmem
    cases hlocation
  | obj members ih =>
    rw [wellFormed_obj_iff] at h
    rw [located, List.map_cons, List.nodup_cons]
    refine ⟨?_, nodup_locatedMembers h.1 fun name value hmember =>
      ih name value hmember (h.2 _ hmember)⟩
    intro hmem
    obtain ⟨⟨location, value⟩, hmem, rfl⟩ := List.mem_map.1 hmem
    obtain ⟨name, inner, rest, -, hlocation, -⟩ := mem_locatedMembers_iff.1 hmem
    cases hlocation

end Json

/-! ## Paths that tell the location -/

/-- A name that is not empty and has no point and no opening bracket. -/
def IsPlainName (name : String) : Prop :=
  name ≠ "" ∧ '.' ∉ name.toList ∧ '[' ∉ name.toList

instance (name : String) : Decidable (IsPlainName name) :=
  inferInstanceAs (Decidable (_ ∧ _ ∧ _))

namespace PathStep

/-- A step with a plain name, if it has a name. -/
def IsPlain : PathStep → Prop
  | name s => IsPlainName s
  | place _ => True

instance (step : PathStep) : Decidable step.IsPlain :=
  match step with
  | name s => inferInstanceAs (Decidable (IsPlainName s))
  | place _ => inferInstanceAs (Decidable True)

/-- What a step adds to a path that is not empty. -/
def mark : PathStep → List Char
  | name s => '.' :: s.toList
  | place n => '[' :: ((Text.ofNat n).toList ++ [']'])

end PathStep

/-- No name in a document is empty or has a point or an opening bracket. -/
def Json.HasPlainNames (document : Json) : Prop :=
  ∀ entry ∈ document.located, ∀ step ∈ entry.1, step.IsPlain

instance (document : Json) : Decidable document.HasPlainNames :=
  inferInstanceAs (Decidable (∀ _ ∈ _, _))

/-- A path below one that is not empty goes on with what the steps add. -/
theorem toList_locationPath {path : String} (h : path ≠ "") (location : List PathStep) :
    (locationPath path location).toList = path.toList ++ location.flatMap PathStep.mark := by
  induction location generalizing path with
  | nil => simp [locationPath]
  | cons step rest ih =>
    have hstep : (stepPath path step).toList = path.toList ++ step.mark := by
      cases step with
      | name s => simp [stepPath, memberPath, h, PathStep.mark]
      | place n => simp [stepPath, itemPath, PathStep.mark]
    have hne : stepPath path step ≠ "" := by
      intro hempty
      rw [hempty] at hstep
      exact h (String.toList_eq_nil_iff.1 (List.append_eq_nil_iff.1 hstep.symm).1)
    rw [locationPath, List.foldl_cons, ← locationPath, ih hne, hstep, List.flatMap_cons,
      List.append_assoc]

/-- A path with a point in front, unless it is empty or begins with a bracket. -/
def withPoint (path : List Char) : List Char :=
  if path.head? = none ∨ path.head? = some '[' then path else '.' :: path

/-- What the steps of a plain location add is its path, with a point in front of a name. -/
theorem flatMap_mark_eq {location : List PathStep} (h : ∀ step ∈ location, step.IsPlain) :
    location.flatMap PathStep.mark = withPoint (locationPath "" location).toList := by
  rcases location with _ | ⟨s | n, rest⟩
  · rfl
  · have hname : IsPlainName s := h (.name s) List.mem_cons_self
    have hpath : (locationPath "" (.name s :: rest)).toList =
        s.toList ++ rest.flatMap PathStep.mark :=
      toList_locationPath hname.1 rest
    obtain ⟨c, cs, hs⟩ := List.exists_cons_of_ne_nil (mt String.toList_eq_nil_iff.1 hname.1)
    have hc : c ≠ '[' := by
      rintro rfl
      exact hname.2.2 (hs ▸ List.mem_cons_self)
    rw [hpath, hs, List.cons_append, withPoint, if_neg (by simp [hc]), List.flatMap_cons,
      PathStep.mark, hs]
    rfl
  · have hpath : (itemPath "" n).toList = (PathStep.place n).mark := by
      simp [itemPath, PathStep.mark]
    have hne : itemPath "" n ≠ "" := by
      intro hempty
      rw [hempty] at hpath
      cases hpath
    have hlocation : (locationPath "" (.place n :: rest)).toList =
        (PathStep.place n).mark ++ rest.flatMap PathStep.mark := by
      rw [← hpath]
      exact toList_locationPath hne rest
    rw [hlocation, withPoint, if_pos (.inr rfl), List.flatMap_cons]

/-- What plain steps add tells the steps. -/
theorem flatMap_mark_inj {location other : List PathStep}
    (hlocation : ∀ step ∈ location, step.IsPlain) (hother : ∀ step ∈ other, step.IsPlain)
    (h : location.flatMap PathStep.mark = other.flatMap PathStep.mark) : location = other := by
  -- A name reaches up to the next point or bracket, and a number up to its closing bracket.
  have hmark (steps : List PathStep) :
      ∀ c ∈ (steps.flatMap PathStep.mark).head?, decide (c ≠ '.' ∧ c ≠ '[') = false := by
    rcases steps with _ | ⟨s | n, rest⟩ <;> simp [PathStep.mark]
  have hplain {s : String} (hname : IsPlainName s) :
      ∀ c ∈ s.toList, decide (c ≠ '.' ∧ c ≠ '[') = true := by
    intro c hc
    rw [decide_eq_true_eq]
    exact ⟨fun heq => hname.2.1 (heq ▸ hc), fun heq => hname.2.2 (heq ▸ hc)⟩
  have hdigits (n : Nat) : ∀ c ∈ (Text.ofNat n).toList, c.isDigit = true := by
    intro c hc
    rw [Text.ofNat, String.toList_ofList] at hc
    exact Nat.isDigit_of_mem_toDigits (by decide) (by decide) hc
  induction location generalizing other with
  | nil =>
    rcases other with _ | ⟨s | n, rest⟩
    · rfl
    · cases h
    · cases h
  | cons step rest ih =>
    obtain ⟨hstep, hrest⟩ := List.forall_mem_cons.1 hlocation
    rcases other with _ | ⟨step', rest'⟩
    · cases step <;> cases h
    obtain ⟨hstep', hrest'⟩ := List.forall_mem_cons.1 hother
    rw [List.flatMap_cons, List.flatMap_cons] at h
    cases step with
    | name s =>
      cases step' with
      | place n => cases (List.cons.inj h).1
      | name t =>
        obtain ⟨hname, hbehind⟩ := Text.eq_of_append_eq (hplain hstep) (hplain hstep')
          (hmark rest) (hmark rest') (List.cons.inj h).2
        rw [String.toList_inj.1 hname, ih hrest hrest' hbehind]
    | place n =>
      cases step' with
      | name t => cases (List.cons.inj h).1
      | place m =>
        have htail : (Text.ofNat n).toList ++ (']' :: rest.flatMap PathStep.mark) =
            (Text.ofNat m).toList ++ (']' :: rest'.flatMap PathStep.mark) := by
          simpa [PathStep.mark] using h
        obtain ⟨hplace, hbehind⟩ := Text.eq_of_append_eq (hdigits n) (hdigits m)
          (by simp) (by simp) htail
        rw [Text.ofNat_injective (String.toList_inj.1 hplace),
          ih hrest hrest' (List.cons.inj hbehind).2]

/-- Plain locations with one path are the same. -/
theorem locationPath_inj {location other : List PathStep}
    (hlocation : ∀ step ∈ location, step.IsPlain) (hother : ∀ step ∈ other, step.IsPlain)
    (h : locationPath "" location = locationPath "" other) : location = other := by
  apply flatMap_mark_inj hlocation hother
  rw [flatMap_mark_eq hlocation, flatMap_mark_eq hother, h]

end TypeRegistry
