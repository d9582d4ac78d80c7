import TypeRegistry.Proofs.Json.DocumentText
import TypeRegistry.Proofs.Json.Equality
import TypeRegistry.Proofs.Sorting

/-!
# Documents up to the order of members

A document is put in order by sorting the members of its objects, at every depth.  Its sorted text
is the text of the document in order, so two documents have one sorted text exactly if they are the
same in order.

That is nearly equality as data.  Equality as data does not see the order of members either, but it
does not see how a number is written: the integer one and the double one are the same, and so are
the two zeros.  Where equal numbers are written alike, both agree.

Main results:

- Definition `ordered`: a document with its members in ascending order of their names.
- Theorem `write_spaced_eq_iff`: documents have one sorted text exactly if they are the same in
  order.
- Definition `AgreeOnNumbers`: equal numbers at one place of two documents are written alike.
- Theorem `sameData_iff_ordered_eq`: where that is so, documents are the same data exactly if they
  are the same in order.
-/

namespace TypeRegistry.Json

open Dictionary

/-! ## Order -/

mutual

/-- A document with the members of its objects in ascending order of their names, at every depth. -/
def ordered : Json → Json
  | .arr items => .arr (orderedItems items)
  | .obj members => .obj (sortByName (orderedMembers members))
  | document => document

/-- Items, each in order. -/
def orderedItems : List Json → List Json
  | [] => []
  | item :: rest => ordered item :: orderedItems rest

/-- Members in their places, their values in order. -/
def orderedMembers : Members → Members
  | [] => []
  | (name, value) :: rest => (name, ordered value) :: orderedMembers rest

end

theorem orderedItems_eq_map (items : List Json) : orderedItems items = items.map ordered := by
  induction items with
  | nil => rfl
  | cons item rest ih => rw [orderedItems, ih, List.map_cons]

theorem orderedMembers_eq_map (members : Members) :
    orderedMembers members = members.map fun member => (member.1, ordered member.2) := by
  induction members with
  | nil => rfl
  | cons member rest ih => rw [orderedMembers, ih, List.map_cons]

theorem ordered_arr (items : List Json) : ordered (.arr items) = .arr (items.map ordered) := by
  rw [ordered, orderedItems_eq_map]

theorem ordered_obj (members : Members) : ordered (.obj members) =
    .obj (sortByName (members.map fun member => (member.1, ordered member.2))) := by
  rw [ordered, orderedMembers_eq_map]

/-- Order changes nothing but arrays and objects. -/
theorem ordered_leaf {document : Json} (harr : ∀ items, document ≠ .arr items)
    (hobj : ∀ members, document ≠ .obj members) : ordered document = document := by
  cases document with
  | arr items => exact absurd rfl (harr items)
  | obj members => exact absurd rfl (hobj members)
  | _ => rfl

/-- The doubles inside a document in order are those inside the document. -/
theorem inside_ordered_float_iff {x : Double} {document : Json} :
    Inside (.float x) document.ordered ↔ Inside (.float x) document := by
  induction document using parts_induction with
  | leaf document harr hobj => rw [ordered_leaf harr hobj]
  | arr items ih =>
    simp only [ordered_arr, inside_arr_iff, reduceCtorEq, false_or, List.mem_map,
      exists_exists_and_eq_and]
    exact exists_congr fun item => and_congr_right fun hitem => ih item hitem
  | obj members ih =>
    simp only [ordered_obj, inside_obj_iff, reduceCtorEq, false_or, (sortByName_perm _).mem_iff,
      List.mem_map, exists_exists_and_eq_and]
    exact exists_congr fun member => and_congr_right fun hmember => ih _ _ hmember

/-- A document in order has canonical doubles if the document has. -/
theorem HasCanonicalDoubles.ordered {document : Json} (h : HasCanonicalDoubles document) :
    HasCanonicalDoubles document.ordered :=
  fun x hx => h x (inside_ordered_float_iff.1 hx)

/-! ## Sorted texts -/

theorem writeItems_eq_map (layout : Layout) (items : List Json) :
    writeItems layout items = items.map (write layout) := by
  induction items with
  | nil => rfl
  | cons item rest ih => rw [writeItems, ih, List.map_cons]

theorem writeMembers_eq_map (layout : Layout) (members : Members) :
    writeMembers layout members = members.map fun member => (member.1, write layout member.2) := by
  induction members with
  | nil => rfl
  | cons member rest ih => rw [writeMembers, ih, List.map_cons]

/-- The sorted text of a document is the text of the document in order. -/
theorem write_spaced_eq (document : Json) :
    document.write .spaced = document.ordered.write .inOrder := by
  induction document using parts_induction with
  | leaf document harr hobj =>
    rw [ordered_leaf harr hobj]
    cases document with
    | arr items => exact absurd rfl (harr items)
    | obj members => exact absurd rfl (hobj members)
    | _ => simp only [write]
  | arr items ih =>
    have hitems : items.map (write .spaced) = (items.map ordered).map (write .inOrder) := by
      rw [List.map_map]
      exact List.map_congr_left ih
    rw [ordered_arr, write, write, writeItems_eq_map, writeItems_eq_map, hitems]
    rfl
  | obj members ih =>
    have hmembers : members.map (fun member => (member.1, write .spaced member.2)) =
        (members.map fun member => (member.1, ordered member.2)).map
          fun member => (member.1, write .inOrder member.2) := by
      rw [List.map_map]
      exact List.map_congr_left fun member hmember => by
        rw [Function.comp_apply, ih member.1 member.2 hmember]
    have hsort := sortByName_mapValues (fun _ value => write .inOrder value)
      (members.map fun member => (member.1, ordered member.2))
    rw [ordered_obj, write, write, writeMembers_eq_map, writeMembers_eq_map, hmembers]
    have hsorted : Layout.spaced.sorted = true := rfl
    have hinOrder : Layout.inOrder.sorted = false := rfl
    simp only [hsorted, hinOrder, if_true, Bool.false_eq_true, if_false, hsort]
    rfl

/-- Documents have one sorted text exactly if they are the same in order. -/
theorem write_spaced_eq_iff {a b : Json} (ha : HasCanonicalDoubles a)
    (hb : HasCanonicalDoubles b) : a.write .spaced = b.write .spaced ↔ a.ordered = b.ordered := by
  rw [write_spaced_eq, write_spaced_eq]
  exact ⟨writeLine_injective ha.ordered hb.ordered, fun h => by rw [h]⟩

/-! ## Equality as data -/

/-- Two values stand at one place of two documents: below the same names and positions. -/
inductive AtOnePlace (x y : Json) : Json → Json → Prop
  | self : AtOnePlace x y x y
  | item {a b : Json} {items others : List Json} :
      (a, b) ∈ items.zip others → AtOnePlace x y a b → AtOnePlace x y (.arr items) (.arr others)
  | member {name : String} {a b : Json} {members others : Members} :
      (name, a) ∈ members → (name, b) ∈ others → AtOnePlace x y a b →
        AtOnePlace x y (.obj members) (.obj others)

/-- Equal numbers at one place of two documents are written alike. -/
def AgreeOnNumbers (a b : Json) : Prop :=
  ∀ x y, AtOnePlace x y a b → (number? x).isSome = true → sameData x y = true → x = y

/-- Of a document that is no array and no object only the scalars are compared. -/
theorem sameData_leaf {a : Json} (harr : ∀ items, a ≠ .arr items)
    (hobj : ∀ members, a ≠ .obj members) (b : Json) : sameData a b = sameScalarData a b := by
  cases a with
  | arr items => exact absurd rfl (harr items)
  | obj members => exact absurd rfl (hobj members)
  | _ => simp only [sameData, equalBy]

/-- Where equal numbers are written alike, a scalar or string is the same data only as itself. -/
theorem sameData_leaf_iff_eq {a b : Json} (harr : ∀ items, a ≠ .arr items)
    (hobj : ∀ members, a ≠ .obj members) (h : AgreeOnNumbers a b) :
    sameData a b = true ↔ a = b := by
  rw [sameData_leaf harr hobj]
  have hnumber (hnumber : (number? a).isSome = true) : sameScalarData a b = true → a = b := by
    rw [← sameData_leaf harr hobj]
    exact h a b .self hnumber
  constructor
  · cases a with
    | arr items => exact absurd rfl (harr items)
    | obj members => exact absurd rfl (hobj members)
    | null | bool _ | str _ => cases b <;> simp [sameScalarData, number?]
    | int _ | float _ =>
      cases b with
      | int _ | float _ => exact hnumber rfl
      | _ => simp [sameScalarData, number?]
  · rintro rfl
    cases a with
    | arr items => exact absurd rfl (harr items)
    | obj members => exact absurd rfl (hobj members)
    | _ => simp [sameScalarData, number?]

/-- A scalar or string agrees with a document on numbers if it is no number, or not the same, or the
same as itself. -/
theorem agreeOnNumbers_leaf_iff {a b : Json} (harr : ∀ items, a ≠ .arr items)
    (hobj : ∀ members, a ≠ .obj members) :
    AgreeOnNumbers a b ↔ ((number? a).isSome = true → sameData a b = true → a = b) := by
  constructor
  · exact fun h => h a b .self
  · intro h x y hxy
    cases hxy with
    | self => exact h
    | item _ _ => exact absurd rfl (harr _)
    | member _ _ _ => exact absurd rfl (hobj _)

/-- Items are the same data exactly if they are the same in order, if that holds at each place. -/
theorem equalItems_iff {items others : List Json}
    (h : ∀ a b, (a, b) ∈ items.zip others → (sameData a b = true ↔ a.ordered = b.ordered)) :
    equalItems sameScalarData items others = true ↔ items.map ordered = others.map ordered := by
  induction items generalizing others with
  | nil => cases others <;> simp [equalItems]
  | cons item items ih =>
    cases others with
    | nil => simp [equalItems]
    | cons other others =>
      have hfirst := h item other List.mem_cons_self
      have hrest := @ih others fun a b hab => h a b (List.mem_cons_of_mem _ hab)
      rw [sameData] at hfirst
      rw [equalItems, Bool.and_eq_true, hfirst, hrest, List.map_cons, List.map_cons,
        List.cons.injEq]

/-- Members are the same data exactly if they are the same in order, if that holds under each
name. -/
theorem equalMembers_iff_perm {members others : Members} (hmembers : (keys members).Nodup)
    (hothers : (keys others).Nodup)
    (h : ∀ name a b, (name, a) ∈ members → (name, b) ∈ others →
      (sameData a b = true ↔ a.ordered = b.ordered)) :
    members.length = others.length ∧ equalMembers sameScalarData members others = true ↔
      (members.map fun member => (member.1, ordered member.2)).Perm
        (others.map fun member => (member.1, ordered member.2)) := by
  rw [equalMembers_iff]
  constructor
  · rintro ⟨hlength, hequal⟩
    have hnodup : (members.map fun member => (member.1, ordered member.2)).Nodup := by
      refine List.Nodup.of_map (fun member => member.1) ?_
      rwa [← keys, keys_mapValues fun _ => ordered]
    refine (List.subperm_of_subset hnodup ?_).perm_of_length_le (by simp [hlength])
    intro entry hentry
    obtain ⟨⟨name, a⟩, hmember, rfl⟩ := List.mem_map.1 hentry
    obtain ⟨b, hfound, hsame⟩ := hequal _ hmember
    have hother := mem_of_find? hfound
    rw [(h name a b hmember hother).1 hsame]
    exact List.mem_map_of_mem hother
  · intro hperm
    refine ⟨by simpa using hperm.length_eq, ?_⟩
    rintro ⟨name, a⟩ hmember
    obtain ⟨⟨key, b⟩, hother, heq⟩ :=
      List.mem_map.1 (hperm.mem_iff.1 (List.mem_map_of_mem hmember))
    obtain ⟨rfl, hordered⟩ := Prod.mk.inj heq
    exact ⟨b, (find?_eq_some_iff_mem hothers).2 hother, (h key a b hmember hother).2 hordered.symm⟩

/-- Where equal numbers are written alike, documents are the same data exactly if they are the same
in order. -/
theorem sameData_iff_ordered_eq {a b : Json} (ha : a.WellFormed) (hb : b.WellFormed)
    (h : AgreeOnNumbers a b) : sameData a b = true ↔ a.ordered = b.ordered := by
  induction a using parts_induction generalizing b with
  | leaf a harr hobj =>
    rw [sameData_leaf_iff_eq harr hobj h, ordered_leaf harr hobj]
    cases b with
    | arr items => exact iff_of_false (harr items) (ordered_arr items ▸ harr _)
    | obj members => exact iff_of_false (hobj members) (ordered_obj members ▸ hobj _)
    | _ => rfl
  | arr items ih =>
    cases b with
    | arr others =>
      rw [wellFormed_arr_iff] at ha hb
      rw [sameData, equalBy, ordered_arr, ordered_arr, arr.injEq]
      refine equalItems_iff fun a b hab => ?_
      obtain ⟨hitem, hother⟩ := List.of_mem_zip hab
      exact ih a hitem (ha a hitem) (hb b hother) fun x y hxy => h x y (.item hab hxy)
    | _ => simp [sameData, equalBy, sameScalarData, number?, ordered]
  | obj members ih =>
    cases b with
    | obj others =>
      rw [wellFormed_obj_iff] at ha hb
      have hnodup : (keys (members.map fun member => (member.1, ordered member.2))).Nodup := by
        rw [keys_mapValues fun _ => ordered]
        exact ha.1
      rw [sameData, equalBy, ordered_obj, ordered_obj, obj.injEq, Bool.and_eq_true, beq_iff_eq,
        sortByName_eq_iff_perm hnodup]
      refine equalMembers_iff_perm ha.1 hb.1 fun name a b hmember hother => ?_
      exact ih name a hmember (ha.2 _ hmember) (hb.2 _ hother)
        fun x y hxy => h x y (.member hmember hother hxy)
    | _ => simp [sameData, equalBy, sameScalarData, number?, ordered]

end TypeRegistry.Json
