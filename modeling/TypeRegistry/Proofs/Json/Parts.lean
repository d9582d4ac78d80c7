import TypeRegistry.Json.Basic

/-!
# Parts of documents

What holds of an array or an object if it holds of all its items or of the values of all its members
holds of every document.  What stands inside a document is itself, or inside one of these parts.

Main results:

- Theorem `parts_induction`: induction on the parts of a document.
- Theorems `wellFormed_arr_iff`, `wellFormed_obj_iff`: the form of a document by that of its parts.
- Definition `Inside`: one document is another or stands somewhere inside it.
- Theorem `WellFormed.inside`: what is inside a well-formed document is well formed.
-/

namespace TypeRegistry.Json

open Dictionary

/-! ## Induction on parts -/

/-- An item is smaller than its array. -/
theorem sizeOf_lt_of_item {item : Json} {items : List Json} (h : item ∈ items) :
    sizeOf item < sizeOf (Json.arr items) := by
  have hlt := List.sizeOf_lt_of_mem h
  rw [Json.arr.sizeOf_spec]
  omega

/-- What stands under a name is smaller than the object. -/
theorem sizeOf_lt_of_member {member : String × Json} {members : Members} (h : member ∈ members) :
    sizeOf member.2 < sizeOf (Json.obj members) := by
  have hlt := List.sizeOf_lt_of_mem h
  obtain ⟨name, value⟩ := member
  simp only [Prod.mk.sizeOf_spec, Json.obj.sizeOf_spec] at hlt ⊢
  omega

/-- Induction on the parts of a document. -/
theorem parts_induction {motive : Json → Prop}
    (leaf : ∀ document, (∀ items, document ≠ .arr items) → (∀ members, document ≠ .obj members) →
      motive document)
    (arr : ∀ items, (∀ item ∈ items, motive item) → motive (.arr items))
    (obj : ∀ members, (∀ name value, (name, value) ∈ members → motive value) →
      motive (.obj members))
    (document : Json) : motive document := by
  induction hsize : sizeOf document using Nat.strongRecOn generalizing document with
  | ind size ih =>
    subst hsize
    cases document with
    | arr items =>
      exact arr items fun item hitem => ih _ (sizeOf_lt_of_item hitem) item rfl
    | obj members =>
      exact obj members fun name value hmember => ih _ (sizeOf_lt_of_member hmember) value rfl
    | _ => exact leaf _ nofun nofun

/-! ## Form -/

/-- An array is well formed if its items are. -/
theorem wellFormed_arr_iff (items : List Json) :
    (Json.arr items).WellFormed ↔ ∀ item ∈ items, item.WellFormed := by
  rw [WellFormed]
  induction items with
  | nil => simp [WellFormedItems]
  | cons item rest ih => rw [WellFormedItems, ih, List.forall_mem_cons]

/-- An object is well formed if no name is in it twice and its values are well formed. -/
theorem wellFormed_obj_iff (members : Members) :
    (Json.obj members).WellFormed ↔
      (keys members).Nodup ∧ ∀ member ∈ members, member.2.WellFormed := by
  have hmembers : ∀ members, WellFormedMembers members ↔ ∀ member ∈ members, member.2.WellFormed := by
    intro members
    induction members with
    | nil => simp [WellFormedMembers]
    | cons member rest ih => rw [WellFormedMembers, ih, List.forall_mem_cons]
  rw [WellFormed, hmembers]

/-! ## What is inside a document -/

/-- One document is another or stands somewhere inside it. -/
inductive Inside (part : Json) : Json → Prop
  | self : Inside part part
  | member {name : String} {value : Json} {members : Members} :
      (name, value) ∈ members → Inside part value → Inside part (.obj members)
  | item {value : Json} {items : List Json} :
      value ∈ items → Inside part value → Inside part (.arr items)

theorem inside_obj_iff {part : Json} {members : Members} :
    Inside part (.obj members) ↔ part = .obj members ∨ ∃ member ∈ members, Inside part member.2 := by
  constructor
  · rintro (_ | ⟨hmem, hinside⟩)
    · exact .inl rfl
    · exact .inr ⟨_, hmem, hinside⟩
  · rintro (rfl | ⟨member, hmem, hinside⟩)
    · exact .self
    · exact .member hmem hinside

theorem inside_arr_iff {part : Json} {items : List Json} :
    Inside part (.arr items) ↔ part = .arr items ∨ ∃ item ∈ items, Inside part item := by
  constructor
  · rintro (_ | _ | ⟨hmem, hinside⟩)
    · exact .inl rfl
    · exact .inr ⟨_, hmem, hinside⟩
  · rintro (rfl | ⟨item, hmem, hinside⟩)
    · exact .self
    · exact .item hmem hinside

/-- Nothing but itself is inside a document that is no array and no object. -/
theorem inside_leaf_iff {part document : Json} (harr : ∀ items, document ≠ .arr items)
    (hobj : ∀ members, document ≠ .obj members) : Inside part document ↔ part = document := by
  constructor
  · intro h
    cases h with
    | self => rfl
    | member _ _ => exact absurd rfl (hobj _)
    | item _ _ => exact absurd rfl (harr _)
  · rintro rfl
    exact .self

theorem inside_str_iff {part : Json} {text : String} :
    Inside part (.str text) ↔ part = .str text :=
  inside_leaf_iff nofun nofun

theorem inside_int_iff {part : Json} {n : Int} : Inside part (.int n) ↔ part = .int n :=
  inside_leaf_iff nofun nofun

theorem inside_float_iff {part : Json} {x : Double} : Inside part (.float x) ↔ part = .float x :=
  inside_leaf_iff nofun nofun

/-- What is inside something inside a document is inside the document. -/
theorem Inside.trans {inner part document : Json} (h : Inside inner part)
    (h' : Inside part document) : Inside inner document := by
  induction h' with
  | self => exact h
  | member hmem _ ih => exact .member hmem ih
  | item hmem _ ih => exact .item hmem ih

theorem Inside.of_member {member : String × Json} {members : Members}
    (h : member ∈ members) : Inside member.2 (.obj members) :=
  .member h .self

theorem Inside.of_item {value : Json} {items : List Json} (h : value ∈ items) :
    Inside value (.arr items) :=
  .item h .self

/-- What is inside a document is no larger. -/
theorem Inside.sizeOf_le {part document : Json} (h : Inside part document) :
    sizeOf part ≤ sizeOf document := by
  induction h with
  | self => exact Nat.le_refl _
  | member hmem _ ih => exact Nat.le_trans ih (Nat.le_of_lt (sizeOf_lt_of_member hmem))
  | item hmem _ ih => exact Nat.le_trans ih (Nat.le_of_lt (sizeOf_lt_of_item hmem))

/-- What is inside the value of a member is smaller than the object. -/
theorem Inside.sizeOf_lt_of_member {part : Json} {member : String × Json} {members : Members}
    (h : Inside part member.2) (hmem : member ∈ members) :
    sizeOf part < sizeOf (Json.obj members) :=
  Nat.lt_of_le_of_lt h.sizeOf_le (Json.sizeOf_lt_of_member hmem)

/-- What is inside a well-formed document is well formed. -/
theorem WellFormed.inside {part document : Json} (h : document.WellFormed)
    (hpart : Inside part document) : part.WellFormed := by
  induction hpart with
  | self => exact h
  | member hmem _ ih => exact ih (((wellFormed_obj_iff _).1 h).2 _ hmem)
  | item hmem _ ih => exact ih ((wellFormed_arr_iff _).1 h _ hmem)

end TypeRegistry.Json
