import Mathlib.Data.List.Perm.Subperm
import TypeRegistry.Json.Equality
import TypeRegistry.Proofs.Json.Parts
import TypeRegistry.Proofs.Lookup

/-!
# Equality of documents from both sides

Deep equality goes along the first of two documents and looks the names up in the second.  Where no
object has two members of one name it comes to the same the other way round: objects with equally
many members that are all found in the other have the same names.

Main results:

- Theorem `equalMembers_iff`: members are equal if each has an equal counterpart of its name.
- Theorem `equalBy_comm`: deep equality is the same from both sides if it is on scalars.
- Theorem `sameValue_comm`: two documents are the same value whichever comes first.
-/

namespace TypeRegistry

/-- Two numbers are the same datum whichever comes first. -/
theorem Exact.same_comm (x y : Exact) : x.same y = y.same x := by
  cases x with
  | dyadic m d =>
    cases y with
    | dyadic n e =>
      rw [same, same, eq, eq, Int.min_comm e d]
      · exact decide_eq_decide.2 eq_comm
      all_goals simp
    | infinite _ | undefined => rfl
  | infinite negative =>
    cases y with
    | infinite other => exact Bool.beq_comm
    | dyadic _ _ | undefined => rfl
  | undefined => cases y <;> rfl

namespace Json

open Dictionary

/-- Two scalars are the same value whichever comes first. -/
theorem sameScalarValue_comm (a b : Json) : sameScalarValue a b = sameScalarValue b a := by
  cases a <;> cases b <;>
    simp [sameScalarValue, numberOrTruth?, number?, Exact.same_comm, Bool.beq_comm]

variable {scalars : Json → Json → Bool}

/-- Every member has an equal counterpart exactly if one is found under its name. -/
theorem equalMembers_iff {members others : Members} :
    equalMembers scalars members others = true ↔
      ∀ member ∈ members, ∃ other, find? member.1 others = some other ∧
        equalBy scalars member.2 other = true := by
  induction members with
  | nil => simp [equalMembers]
  | cons member members ih =>
    rw [equalMembers, Bool.and_eq_true, ih, List.forall_mem_cons]
    refine and_congr_left' ?_
    cases find? member.1 others with
    | none => simp
    | some other => simp

/-- Items are equal from both sides if they are at each place. -/
theorem equalItems_comm {items others : List Json}
    (h : ∀ item ∈ items, ∀ other ∈ others, equalBy scalars item other = equalBy scalars other item) :
    equalItems scalars items others = equalItems scalars others items := by
  induction items generalizing others with
  | nil => cases others <;> rfl
  | cons item items ih =>
    cases others with
    | nil => rfl
    | cons other others =>
      rw [equalItems, equalItems, h item List.mem_cons_self other List.mem_cons_self,
        ih fun item hitem other hother =>
          h item (List.mem_cons_of_mem _ hitem) other (List.mem_cons_of_mem _ hother)]

/-- Where no name occurs twice, equally many members that all have equal counterparts are the
counterparts of these, if values are equal from both sides. -/
theorem equalMembers_symm {members others : Members} (hmembers : (keys members).Nodup)
    (hothers : (keys others).Nodup) (hlength : members.length = others.length)
    (h : ∀ member ∈ members, ∀ other ∈ others,
      equalBy scalars member.2 other.2 = equalBy scalars other.2 member.2)
    (hequal : equalMembers scalars members others = true) :
    equalMembers scalars others members = true := by
  rw [equalMembers_iff] at hequal ⊢
  have hsubset : keys members ⊆ keys others := by
    intro name hname
    obtain ⟨member, hmember, rfl⟩ := List.mem_map.1 hname
    obtain ⟨other, hfound, -⟩ := hequal member hmember
    exact List.mem_map_of_mem (f := fun entry => entry.1) (mem_of_find? hfound)
  have hperm : (keys members).Perm (keys others) :=
    (List.subperm_of_subset hmembers hsubset).perm_of_length_le (by simp [keys, hlength])
  rintro ⟨name, other⟩ hother
  have hname : name ∈ keys members := hperm.mem_iff.2 (List.mem_map_of_mem hother)
  obtain ⟨⟨key, value⟩, hmember, rfl⟩ := List.mem_map.1 hname
  obtain ⟨found, hfound, hvalue⟩ := hequal _ hmember
  obtain rfl := Option.some.inj (hfound.symm.trans ((find?_eq_some_iff_mem hothers).2 hother))
  exact ⟨value, (find?_eq_some_iff_mem hmembers).2 hmember, h _ hmember _ hother ▸ hvalue⟩

/-- Deep equality is the same from both sides if it is on scalars. -/
theorem equalBy_comm (hscalars : ∀ a b, scalars a b = scalars b a) {a b : Json}
    (ha : a.WellFormed) (hb : b.WellFormed) : equalBy scalars a b = equalBy scalars b a := by
  induction a using parts_induction generalizing b with
  | leaf a harr hobj =>
    cases a with
    | arr items => exact absurd rfl (harr items)
    | obj members => exact absurd rfl (hobj members)
    | _ => cases b <;> simp only [equalBy, hscalars]
  | arr items ih =>
    cases b with
    | arr others =>
      rw [wellFormed_arr_iff] at ha hb
      rw [equalBy, equalBy]
      exact equalItems_comm fun item hitem other hother =>
        ih item hitem (ha item hitem) (hb other hother)
    | _ => simp only [equalBy, hscalars]
  | obj members ih =>
    cases b with
    | obj others =>
      rw [wellFormed_obj_iff] at ha hb
      have hvalues : ∀ member ∈ members, ∀ other ∈ others,
          equalBy scalars member.2 other.2 = equalBy scalars other.2 member.2 :=
        fun member hmember other hother =>
          ih member.1 member.2 hmember (ha.2 member hmember) (hb.2 other hother)
      rw [Bool.eq_iff_iff, equalBy, equalBy, Bool.and_eq_true, Bool.and_eq_true, beq_iff_eq,
        beq_iff_eq]
      constructor
      · rintro ⟨hlength, hequal⟩
        exact ⟨hlength.symm, equalMembers_symm ha.1 hb.1 hlength hvalues hequal⟩
      · rintro ⟨hlength, hequal⟩
        exact ⟨hlength.symm, equalMembers_symm hb.1 ha.1 hlength
          (fun other hother member hmember => (hvalues member hmember other hother).symm) hequal⟩
    | _ => simp only [equalBy, hscalars]

/-- Two documents are the same value whichever comes first. -/
theorem sameValue_comm {a b : Json} (ha : a.WellFormed) (hb : b.WellFormed) :
    sameValue a b = sameValue b a :=
  equalBy_comm sameScalarValue_comm ha hb

end Json

end TypeRegistry
