import Mathlib.Data.List.Perm.Subperm
import Mathlib.Data.List.TakeWhile
import Mathlib.Logic.Function.Iterate
import Mathlib.Logic.Relation
import TypeRegistry.Proofs.Text.Cutting
import TypeRegistry.Schema.IdentifierConstraint

/-!
# Chains of pointers

A pointer leads, along the names between its slashes, to a text or to an object with a constraint.  A
text that begins with a slash is again a pointer, so pointers form chains.  A chain is followed with
the pointers that were met in view, and given up at one that was met before.  Here the recursion is
set out without any bound on its depth, and the chains are described without it.

A chain comes to one of three ends: a text, a pointer that leads nowhere, or none at all.  A pointer
leads to at most one other, so a pointer that was met before is met again and again: what is given up
is a chain without an end, and no other.

Main results:

- Definitions `StandsAt`, `BlockedAt`, `PointsTo`, `DeadEnd`: what a pointer leads to, and why one
  leads nowhere.
- Definitions `EndsAt`, `Breaks`, `IsEndless`: the ends of a chain.
- Definition `Pursuit`: the recursion, without a bound.
- Theorem `pointerStep?_eq_some_iff`, `pointerStep?_eq_none_iff`: a step along a chain.
- Theorem `exists_pursuit`: the recursion comes to an end, within as many calls as the document has
  values, and two.
- Theorem `pointedText?_chain`: what a pointer leads to is the text at the end of its chain, and it
  leads nowhere exactly if the chain breaks or is endless.
-/

namespace TypeRegistry

open Dictionary

/-! ## Ways through a document -/

/-- What stands in a document behind names: each is that of a member which is not null. -/
inductive StandsAt : Json → List String → Json → Prop
  | here (document : Json) : StandsAt document [] document
  | member {members : Json.Members} {name : String} {rest : List String} {value target : Json}
      (hfound : find? name members = some value) (hvalue : value ≠ .null)
      (hrest : StandsAt value rest target) : StandsAt (.obj members) (name :: rest) target

/-- The way along names is blocked in a document: by a value that is no object, by a member that is
missing or null, or further down. -/
inductive BlockedAt : Json → List String → Prop
  | noObject {value : Json} {name : String} {rest : List String}
      (hvalue : ∀ members, value ≠ .obj members) : BlockedAt value (name :: rest)
  | missing {members : Json.Members} {name : String} {rest : List String}
      (hfound : find? name members = none) : BlockedAt (.obj members) (name :: rest)
  | null {members : Json.Members} {name : String} {rest : List String}
      (hfound : find? name members = some .null) : BlockedAt (.obj members) (name :: rest)
  | member {members : Json.Members} {name : String} {rest : List String} {value : Json}
      (hfound : find? name members = some value) (hvalue : value ≠ .null)
      (hrest : BlockedAt value rest) : BlockedAt (.obj members) (name :: rest)

/-- A name leads on to what stands under it, unless that is null. -/
theorem walk_member {members : Json.Members} {name : String} {rest : List String} {value : Json}
    (hfound : find? name members = some value) (hvalue : value ≠ .null) :
    walk (name :: rest) (.obj members) = walk rest value := by
  rw [walk, Json.get?, Json.members, hfound]
  split
  next heq => cases heq
  next heq => exact absurd (Option.some.inj heq) hvalue
  next heq => rw [Option.some.inj heq]

/-- What names lead to is what stands behind them. -/
theorem walk_of_standsAt {document target : Json} {names : List String}
    (h : StandsAt document names target) : walk names document = some target := by
  induction h with
  | here => rfl
  | member hfound hvalue _ ih => rw [walk_member hfound hvalue, ih]

/-- Names that are blocked lead nowhere. -/
theorem walk_of_blockedAt {document : Json} {names : List String} (h : BlockedAt document names) :
    walk names document = none := by
  induction h with
  | @noObject value name rest hvalue =>
    cases value with
    | obj members => exact absurd rfl (hvalue members)
    | _ => rfl
  | missing hfound => rw [walk, Json.get?, Json.members, hfound]
  | null hfound => rw [walk, Json.get?, Json.members, hfound]
  | member hfound hvalue _ ih => rw [walk_member hfound hvalue, ih]

/-- Behind names something stands, or they are blocked. -/
theorem standsAt_or_blockedAt (names : List String) (document : Json) :
    (∃ target, StandsAt document names target) ∨ BlockedAt document names := by
  induction names generalizing document with
  | nil => exact .inl ⟨document, .here document⟩
  | cons name rest ih =>
    cases document with
    | obj members =>
      cases hfound : find? name members with
      | none => exact .inr (.missing hfound)
      | some value =>
        by_cases hvalue : value = .null
        · exact .inr (.null (hvalue ▸ hfound))
        · rcases ih value with ⟨target, htarget⟩ | hblocked
          · exact .inl ⟨target, .member hfound hvalue htarget⟩
          · exact .inr (.member hfound hvalue hblocked)
    | _ => exact .inr (.noObject nofun)

/-- Names lead to a value exactly if it stands behind them. -/
theorem walk_eq_some_iff {names : List String} {document target : Json} :
    walk names document = some target ↔ StandsAt document names target := by
  refine ⟨fun hwalk => ?_, walk_of_standsAt⟩
  rcases standsAt_or_blockedAt names document with ⟨other, hother⟩ | hblocked
  · obtain rfl := Option.some.inj ((walk_of_standsAt hother).symm.trans hwalk)
    exact hother
  · rw [walk_of_blockedAt hblocked] at hwalk
    cases hwalk

/-- Names lead nowhere exactly if they are blocked. -/
theorem walk_eq_none_iff {names : List String} {document : Json} :
    walk names document = none ↔ BlockedAt document names := by
  refine ⟨fun hwalk => ?_, walk_of_blockedAt⟩
  rcases standsAt_or_blockedAt names document with ⟨target, htarget⟩ | hblocked
  · rw [walk_of_standsAt htarget] at hwalk
    cases hwalk
  · exact hblocked

/-! ## Steps along a chain -/

/-- A pointer is empty if it has slashes only. -/
def IsEmptyPointer (pointer : String) : Prop :=
  ∀ c ∈ pointer.toList, c = '/'

/-- The names in a pointer: what stands between slashes, those in front left out. -/
def namesOnWay (pointer : String) : List String :=
  (Text.splitOn '/' (pointer.toList.dropWhile (· == '/'))).map String.ofList

/-- A text begins with a slash. -/
def BeginsWithSlash (s : String) : Prop :=
  s.toList.head? = some '/'

/-- What a pointer leads to in a document: a text that stands there, without the lead of a URI, or
the constraint of an object that stands there.  Such a text is a further pointer if it begins with a
slash. -/
inductive PointsTo (document : Json) (pointer : String) : PointerStep → Prop
  | uri {s bare : String} (hpointer : ¬ IsEmptyPointer pointer)
      (hstands : StandsAt document (namesOnWay pointer) (.str s))
      (hlead : s.toList = Identifier.uriLead.toList ++ bare.toList) :
      PointsTo document pointer (.text bare)
  | text {s : String} (hpointer : ¬ IsEmptyPointer pointer)
      (hstands : StandsAt document (namesOnWay pointer) (.str s))
      (hlead : ¬ Identifier.uriLead.toList <+: s.toList) (hslash : ¬ BeginsWithSlash s) :
      PointsTo document pointer (.text s)
  | pointer {s : String} (hpointer : ¬ IsEmptyPointer pointer)
      (hstands : StandsAt document (namesOnWay pointer) (.str s)) (hslash : BeginsWithSlash s) :
      PointsTo document pointer (.pointer s)
  | constraintText {members : Json.Members} {s : String} (hpointer : ¬ IsEmptyPointer pointer)
      (hstands : StandsAt document (namesOnWay pointer) (.obj members))
      (hconstraint : find? constraintKeyword members = some (.str s))
      (hslash : ¬ BeginsWithSlash s) : PointsTo document pointer (.text s)
  | constraintPointer {members : Json.Members} {s : String} (hpointer : ¬ IsEmptyPointer pointer)
      (hstands : StandsAt document (namesOnWay pointer) (.obj members))
      (hconstraint : find? constraintKeyword members = some (.str s))
      (hslash : BeginsWithSlash s) : PointsTo document pointer (.pointer s)

/-- A pointer leads nowhere in a document: it is empty, its way is blocked, or what stands there is
neither a text nor an object with a text for a constraint. -/
inductive DeadEnd (document : Json) (pointer : String) : Prop
  | empty (hpointer : IsEmptyPointer pointer)
  | blocked (hblocked : BlockedAt document (namesOnWay pointer))
  | neither {target : Json} (hstands : StandsAt document (namesOnWay pointer) target)
      (htext : ∀ s, target ≠ .str s)
      (hconstraint : ∀ members, target = .obj members →
        ∀ s, find? constraintKeyword members ≠ some (.str s))

/-- Nothing is left of a pointer without the slashes in front exactly if it is empty. -/
theorem isEmpty_iff_isEmptyPointer {pointer : String} :
    (pointer.toList.dropWhile (· == '/')).isEmpty = true ↔ IsEmptyPointer pointer := by
  rw [List.isEmpty_iff, List.dropWhile_eq_nil_iff, IsEmptyPointer]
  simp

/-- A text begins with a slash if its first character is one. -/
theorem startsWith_slash_iff {s : String} : Text.startsWith "/" s = true ↔ BeginsWithSlash s := by
  have hslash : "/".toList = ['/'] := rfl
  rw [Text.startsWith, List.isPrefixOf_iff_prefix, BeginsWithSlash, List.head?_eq_some_iff, hslash]
  exact exists_congr fun rest => eq_comm

/-- A text that begins with a slash is a further pointer. -/
theorem PointerStep.ofText_of_slash {s : String} (h : BeginsWithSlash s) :
    ofText s = .pointer s :=
  if_pos (startsWith_slash_iff.2 h)

/-- A text that does not begin with a slash ends a chain. -/
theorem PointerStep.ofText_of_not_slash {s : String} (h : ¬ BeginsWithSlash s) :
    ofText s = .text s :=
  if_neg fun hslash => h (startsWith_slash_iff.1 hslash)

/-- The lead of a URI does not begin with a slash. -/
theorem not_beginsWithSlash_of_uriLead {s : String} (h : Identifier.uriLead.toList <+: s.toList) :
    ¬ BeginsWithSlash s := by
  obtain ⟨rest, hrest⟩ := h
  rw [BeginsWithSlash, ← hrest]
  simp [Identifier.uriLead]

/-- A string has no lead of a URI to lose exactly if it does not begin with one. -/
theorem dropStart?_uriLead_eq_none_iff {s : String} :
    Text.dropStart? Identifier.uriLead s = none ↔ ¬ Identifier.uriLead.toList <+: s.toList := by
  constructor
  · rintro hnone ⟨rest, hrest⟩
    have hsome : Text.dropStart? Identifier.uriLead s = some (String.ofList rest) := by
      rw [Text.dropStart?_eq_some_iff, String.toList_ofList, hrest]
    rw [hnone] at hsome
    cases hsome
  · intro hlead
    rw [Option.eq_none_iff_forall_ne_some]
    intro bare hbare
    exact hlead ⟨bare.toList, (Text.dropStart?_eq_some_iff.1 hbare).symm⟩

/-- A step is what a pointer leads to. -/
theorem pointerStep?_of_leadsTo {document : Json} {pointer : String} {step : PointerStep}
    (h : PointsTo document pointer step) : pointerStep? document pointer = some step := by
  cases h with
  | uri hpointer hstands hlead =>
    rw [← isEmpty_iff_isEmptyPointer] at hpointer
    rw [← walk_eq_some_iff, namesOnWay] at hstands
    simp only [pointerStep?, if_neg hpointer, hstands, Text.dropStart?_eq_some_iff.2 hlead]
  | text hpointer hstands hlead hslash =>
    rw [← isEmpty_iff_isEmptyPointer] at hpointer
    rw [← walk_eq_some_iff, namesOnWay] at hstands
    simp only [pointerStep?, if_neg hpointer, hstands, dropStart?_uriLead_eq_none_iff.2 hlead,
      PointerStep.ofText_of_not_slash hslash]
  | pointer hpointer hstands hslash =>
    have hlead := dropStart?_uriLead_eq_none_iff.2 fun h => not_beginsWithSlash_of_uriLead h hslash
    rw [← isEmpty_iff_isEmptyPointer] at hpointer
    rw [← walk_eq_some_iff, namesOnWay] at hstands
    simp only [pointerStep?, if_neg hpointer, hstands, hlead, PointerStep.ofText_of_slash hslash]
  | constraintText hpointer hstands hconstraint hslash =>
    rw [← isEmpty_iff_isEmptyPointer] at hpointer
    rw [← walk_eq_some_iff, namesOnWay] at hstands
    simp only [pointerStep?, if_neg hpointer, hstands, Json.getString?, hconstraint,
      Option.map_some, PointerStep.ofText_of_not_slash hslash]
  | constraintPointer hpointer hstands hconstraint hslash =>
    rw [← isEmpty_iff_isEmptyPointer] at hpointer
    rw [← walk_eq_some_iff, namesOnWay] at hstands
    simp only [pointerStep?, if_neg hpointer, hstands, Json.getString?, hconstraint,
      Option.map_some, PointerStep.ofText_of_slash hslash]

/-- At a dead end there is no step. -/
theorem pointerStep?_of_deadEnd {document : Json} {pointer : String}
    (h : DeadEnd document pointer) : pointerStep? document pointer = none := by
  by_cases hempty : IsEmptyPointer pointer
  · simp only [pointerStep?, if_pos (isEmpty_iff_isEmptyPointer.2 hempty)]
  have hsome := mt isEmpty_iff_isEmptyPointer.1 hempty
  cases h with
  | empty hpointer => exact absurd hpointer hempty
  | blocked hblocked =>
    rw [← walk_eq_none_iff, namesOnWay] at hblocked
    simp only [pointerStep?, if_neg hsome, hblocked]
  | @neither target hstands htext hconstraint =>
    rw [← walk_eq_some_iff, namesOnWay] at hstands
    simp only [pointerStep?, if_neg hsome, hstands]
    cases target with
    | str s => exact absurd rfl (htext s)
    | obj members =>
      have hnone : Json.getString? constraintKeyword members = none := by
        rw [Json.getString?]
        split
        next s hfound => exact absurd hfound (hconstraint members rfl s)
        next => rfl
      simp only [hnone, Option.map_none]
    | _ => rfl

/-- A pointer leads to something or is a dead end. -/
theorem leadsTo_or_deadEnd (document : Json) (pointer : String) :
    (∃ step, PointsTo document pointer step) ∨ DeadEnd document pointer := by
  by_cases hempty : IsEmptyPointer pointer
  · exact .inr (.empty hempty)
  obtain ⟨target, hstands⟩ | hblocked := standsAt_or_blockedAt (namesOnWay pointer) document
  · cases target with
    | str s =>
      by_cases hslash : BeginsWithSlash s
      · exact .inl ⟨_, .pointer hempty hstands hslash⟩
      · by_cases hlead : Identifier.uriLead.toList <+: s.toList
        · obtain ⟨rest, hrest⟩ := hlead
          rw [← String.toList_ofList (l := rest)] at hrest
          exact .inl ⟨_, .uri hempty hstands hrest.symm⟩
        · exact .inl ⟨_, .text hempty hstands hlead hslash⟩
    | obj members =>
      by_cases hconstraint : ∃ s, find? constraintKeyword members = some (.str s)
      · obtain ⟨s, hconstraint⟩ := hconstraint
        by_cases hslash : BeginsWithSlash s
        · exact .inl ⟨_, .constraintPointer hempty hstands hconstraint hslash⟩
        · exact .inl ⟨_, .constraintText hempty hstands hconstraint hslash⟩
      · rw [not_exists] at hconstraint
        refine .inr (.neither hstands nofun fun others hothers => ?_)
        cases hothers
        exact hconstraint
    | _ => exact .inr (.neither hstands nofun nofun)
  · exact .inr (.blocked hblocked)

/-- A step is taken exactly to what a pointer leads to. -/
theorem pointerStep?_eq_some_iff {document : Json} {pointer : String} {step : PointerStep} :
    pointerStep? document pointer = some step ↔ PointsTo document pointer step := by
  refine ⟨fun hstep => ?_, pointerStep?_of_leadsTo⟩
  obtain ⟨other, hother⟩ | hend := leadsTo_or_deadEnd document pointer
  · obtain rfl := Option.some.inj ((pointerStep?_of_leadsTo hother).symm.trans hstep)
    exact hother
  · rw [pointerStep?_of_deadEnd hend] at hstep
    cases hstep

/-- No step is taken exactly at a dead end. -/
theorem pointerStep?_eq_none_iff {document : Json} {pointer : String} :
    pointerStep? document pointer = none ↔ DeadEnd document pointer := by
  refine ⟨fun hstep => ?_, pointerStep?_of_deadEnd⟩
  obtain ⟨step, hleads⟩ | hend := leadsTo_or_deadEnd document pointer
  · rw [pointerStep?_of_leadsTo hleads] at hstep
    cases hstep
  · exact hend

/-- A pointer leads to one step at most. -/
theorem PointsTo.unique {document : Json} {pointer : String} {first second : PointerStep}
    (hfirst : PointsTo document pointer first) (hsecond : PointsTo document pointer second) :
    first = second :=
  Option.some.inj ((pointerStep?_of_leadsTo hfirst).symm.trans (pointerStep?_of_leadsTo hsecond))

/-- A pointer that leads to something is no dead end. -/
theorem PointsTo.not_deadEnd {document : Json} {pointer : String} {step : PointerStep}
    (h : PointsTo document pointer step) : ¬ DeadEnd document pointer := by
  intro hend
  have hstep := pointerStep?_of_leadsTo h
  rw [pointerStep?_of_deadEnd hend] at hstep
  cases hstep

/-! ## The texts of a document -/

namespace Json

mutual

/-- The texts that stand in a document. -/
def texts : Json → List String
  | .str s => [s]
  | .arr items => textsOfItems items
  | .obj members => textsOfMembers members
  | _ => []

/-- The texts that stand in the items of an array. -/
def textsOfItems : List Json → List String
  | [] => []
  | item :: rest => texts item ++ textsOfItems rest

/-- The texts that stand in the members of an object. -/
def textsOfMembers : Members → List String
  | [] => []
  | (_, value) :: rest => texts value ++ textsOfMembers rest

end

mutual

/-- A document has no more texts than values. -/
theorem length_texts_le : ∀ document : Json, document.texts.length ≤ document.nodeCount
  | .null | .bool _ | .int _ | .float _ => by simp [texts]
  | .str _ => by simp [texts, nodeCount]
  | .arr items => by
    have hitems := length_textsOfItems_le items
    rw [texts, nodeCount]
    omega
  | .obj members => by
    have hmembers := length_textsOfMembers_le members
    rw [texts, nodeCount]
    omega

/-- The items of an array have no more texts than values. -/
theorem length_textsOfItems_le : ∀ items : List Json,
    (textsOfItems items).length ≤ nodeCountItems items
  | [] => Nat.le_refl _
  | item :: rest => by
    have hitem := length_texts_le item
    have hrest := length_textsOfItems_le rest
    rw [textsOfItems, nodeCountItems, List.length_append]
    omega

/-- The members of an object have no more texts than values. -/
theorem length_textsOfMembers_le : ∀ members : Members,
    (textsOfMembers members).length ≤ nodeCountMembers members
  | [] => Nat.le_refl _
  | (_, value) :: rest => by
    have hvalue := length_texts_le value
    have hrest := length_textsOfMembers_le rest
    rw [textsOfMembers, nodeCountMembers, List.length_append]
    omega

end

/-- The texts of a member are texts of the object. -/
theorem texts_subset_of_find? {name : String} {members : Members} {value : Json}
    (h : find? name members = some value) : value.texts ⊆ (obj members).texts := by
  rw [texts]
  induction members with
  | nil => cases h
  | cons member rest ih =>
    obtain ⟨key, other⟩ := member
    rw [textsOfMembers]
    rw [find?] at h
    split at h
    · obtain rfl := Option.some.inj h
      exact List.subset_append_left _ _
    · exact List.Subset.trans (ih h) (List.subset_append_right _ _)

end Json

/-- The texts of what stands behind names are texts of the document. -/
theorem StandsAt.texts_subset {document target : Json} {names : List String}
    (h : StandsAt document names target) : target.texts ⊆ document.texts := by
  induction h with
  | here => exact List.Subset.refl _
  | member hfound _ _ ih => exact List.Subset.trans ih (Json.texts_subset_of_find? hfound)

/-- A further pointer is a text of the document. -/
theorem PointsTo.mem_texts {document : Json} {pointer next : String}
    (h : PointsTo document pointer (.pointer next)) : next ∈ document.texts := by
  cases h with
  | pointer _ hstands _ => exact hstands.texts_subset (List.mem_singleton_self next)
  | constraintPointer _ hstands hconstraint _ =>
    have htext : next ∈ (Json.str next).texts := List.mem_singleton_self next
    exact hstands.texts_subset (Json.texts_subset_of_find? hconstraint htext)

/-! ## Chains -/

section Chain

variable {document : Json} {pointer next s : String}

/-- A chain of pointers ends at a text. -/
inductive EndsAt (document : Json) : (pointer s : String) → Prop
  | text {pointer s : String} (hleads : PointsTo document pointer (.text s)) :
      EndsAt document pointer s
  | further {pointer next s : String} (hleads : PointsTo document pointer (.pointer next))
      (hrest : EndsAt document next s) : EndsAt document pointer s

/-- A chain of pointers comes to one that leads nowhere. -/
inductive Breaks (document : Json) : (pointer : String) → Prop
  | deadEnd {pointer : String} (hend : DeadEnd document pointer) : Breaks document pointer
  | further {pointer next : String} (hleads : PointsTo document pointer (.pointer next))
      (hrest : Breaks document next) : Breaks document pointer

/-- A chain of pointers never ends. -/
def IsEndless (document : Json) (pointer : String) : Prop :=
  ∃ chain : ℕ → String, chain 0 = pointer ∧
    ∀ n, PointsTo document (chain n) (.pointer (chain (n + 1)))

/-- An endless chain is endless from its second pointer on. -/
theorem IsEndless.exists_next (h : IsEndless document pointer) :
    ∃ next, PointsTo document pointer (.pointer next) ∧ IsEndless document next := by
  obtain ⟨chain, rfl, hchain⟩ := h
  exact ⟨chain 1, hchain 0, fun n => chain (n + 1), rfl, fun n => hchain (n + 1)⟩

/-- A chain that ends at a text does not break. -/
theorem EndsAt.not_breaks (h : EndsAt document pointer s) : ¬ Breaks document pointer := by
  induction h with
  | text hleads =>
    rintro (hend | ⟨hother, -⟩)
    · exact hleads.not_deadEnd hend
    · cases hleads.unique hother
  | further hleads _ ih =>
    rintro (hend | ⟨hother, hbreaks⟩)
    · exact hleads.not_deadEnd hend
    · cases hleads.unique hother
      exact ih hbreaks

/-- A chain that ends at a text is not endless. -/
theorem EndsAt.not_isEndless (h : EndsAt document pointer s) : ¬ IsEndless document pointer := by
  induction h with
  | text hleads =>
    intro hendless
    obtain ⟨_, hother, -⟩ := hendless.exists_next
    cases hleads.unique hother
  | further hleads _ ih =>
    intro hendless
    obtain ⟨_, hother, hrest⟩ := hendless.exists_next
    cases hleads.unique hother
    exact ih hrest

/-- A chain ends at one text at most. -/
theorem EndsAt.unique {other : String} (h : EndsAt document pointer s)
    (hother : EndsAt document pointer other) : s = other := by
  induction h with
  | text hleads =>
    cases hother with
    | text hother => cases hleads.unique hother; rfl
    | further hother _ => cases hleads.unique hother
  | further hleads _ ih =>
    cases hother with
    | text hother => cases hleads.unique hother
    | further hother hrest =>
      cases hleads.unique hother
      exact ih hrest

/-! ## Loops -/

/-- One pointer leads to another. -/
def PointsOn (document : Json) (pointer next : String) : Prop :=
  PointsTo document pointer (.pointer next)

/-- A chain runs into a loop: it comes to a pointer that leads back to itself. -/
def RunsIntoLoop (document : Json) (pointer : String) : Prop :=
  ∃ met, Relation.ReflTransGen (PointsOn document) pointer met ∧
    Relation.TransGen (PointsOn document) met met

/-- A chain that runs into a loop goes on, and the rest runs into it as well. -/
theorem RunsIntoLoop.exists_next (h : RunsIntoLoop document pointer) :
    ∃ next, PointsTo document pointer (.pointer next) ∧ RunsIntoLoop document next := by
  obtain ⟨met, hway, hloop⟩ := h
  obtain rfl | ⟨next, hleads, hrest⟩ := hway.cases_head
  · obtain ⟨next, hleads, hback⟩ := Relation.TransGen.head'_iff.1 hloop
    exact ⟨next, hleads, pointer, hback, hloop⟩
  · exact ⟨next, hleads, met, hrest, hloop⟩

/-- A chain that runs into a loop is endless. -/
theorem RunsIntoLoop.isEndless (h : RunsIntoLoop document pointer) :
    IsEndless document pointer := by
  choose! next hleads hnext using
    fun (p : String) (hp : RunsIntoLoop document p) => hp.exists_next
  have hruns : ∀ n, RunsIntoLoop document (next^[n] pointer) := by
    intro n
    induction n with
    | zero => exact h
    | succ n ih =>
      rw [Function.iterate_succ_apply']
      exact hnext _ ih
  refine ⟨fun n => next^[n] pointer, rfl, fun n => ?_⟩
  beta_reduce
  rw [Function.iterate_succ_apply']
  exact hleads _ (hruns n)

/-! ## The recursion -/

/-- The recursion along a chain when pointers were met before: its outcome and the number of its
calls.  A pointer that was met before is given up, any other is followed. -/
inductive Pursuit (document : Json) :
    (seen : List String) → (pointer : String) → (outcome : Option String) → (calls : ℕ) → Prop
  | again {seen : List String} {pointer : String} (hseen : pointer ∈ seen) :
      Pursuit document seen pointer none 1
  | nowhere {seen : List String} {pointer : String} (hseen : pointer ∉ seen)
      (hend : DeadEnd document pointer) : Pursuit document seen pointer none 1
  | text {seen : List String} {pointer s : String} (hseen : pointer ∉ seen)
      (hleads : PointsTo document pointer (.text s)) : Pursuit document seen pointer (some s) 1
  | further {seen : List String} {pointer next : String} {outcome : Option String} {calls : ℕ}
      (hseen : pointer ∉ seen) (hleads : PointsTo document pointer (.pointer next))
      (hrest : Pursuit document (pointer :: seen) next outcome calls) :
      Pursuit document seen pointer outcome (calls + 1)

/-- With fuel for every pointer that can still be met, what is followed is the recursion. -/
theorem exists_pursuit_of_fuel {pointers : List String} (htexts : document.texts ⊆ pointers)
    {fuel : ℕ} {seen : List String} (hpointer : pointer ∈ pointers) (hseen : seen ⊆ pointers)
    (hnodup : seen.Nodup) (hfuel : pointers.length + 1 ≤ fuel + seen.length) :
    ∃ calls ≤ fuel,
      Pursuit document seen pointer (followPointers document fuel seen pointer) calls := by
  induction fuel generalizing seen pointer with
  | zero =>
    -- More pointers would have been met than there are.
    have hfew := (List.subperm_of_subset hnodup hseen).length_le
    omega
  | succ fuel ih =>
    rw [followPointers]
    by_cases hmet : pointer ∈ seen
    · rw [if_pos hmet]
      exact ⟨1, by omega, .again hmet⟩
    rw [if_neg hmet]
    cases hstep : pointerStep? document pointer with
    | none => exact ⟨1, by omega, .nowhere hmet (pointerStep?_eq_none_iff.1 hstep)⟩
    | some step =>
      have hleads := pointerStep?_eq_some_iff.1 hstep
      cases step with
      | text s => exact ⟨1, by omega, .text hmet hleads⟩
      | pointer next =>
        obtain ⟨calls, hcalls, hrest⟩ := ih (htexts hleads.mem_texts)
          (List.cons_subset.2 ⟨hpointer, hseen⟩) (List.nodup_cons.2 ⟨hmet, hnodup⟩)
          (by rw [List.length_cons]; omega)
        exact ⟨calls + 1, by omega, .further hmet hleads hrest⟩

/-- What a pointer leads to is the outcome of the recursion, which has at most two calls more than
the document has values. -/
theorem exists_pursuit (document : Json) (pointer : String) :
    ∃ calls ≤ document.nodeCount + 2,
      Pursuit document [] pointer (pointedText? document pointer) calls := by
  refine exists_pursuit_of_fuel (List.subset_cons_self pointer document.texts)
    List.mem_cons_self (List.nil_subset _) List.nodup_nil ?_
  have hlength := document.length_texts_le
  simp only [List.length_cons, List.length_nil]
  omega

/-- A text that comes out is the end of the chain. -/
theorem Pursuit.endsAt {seen : List String} {outcome : Option String} {calls : ℕ}
    (h : Pursuit document seen pointer outcome calls) (hs : outcome = some s) :
    EndsAt document pointer s := by
  induction h with
  | again | nowhere => cases hs
  | text _ hleads =>
    obtain rfl := Option.some.inj hs
    exact .text hleads
  | further _ hleads _ ih => exact .further hleads (ih hs)

/-- If all pointers that were met lead to the one that is followed, a chain from which nothing comes
out breaks or runs into a loop. -/
theorem Pursuit.breaks_or_runsIntoLoop {seen : List String} {outcome : Option String} {calls : ℕ}
    (h : Pursuit document seen pointer outcome calls) (hnone : outcome = none)
    (hseen : ∀ met ∈ seen, Relation.TransGen (PointsOn document) met pointer) :
    Breaks document pointer ∨ RunsIntoLoop document pointer := by
  induction h with
  | again hmet => exact .inr ⟨_, .refl, hseen _ hmet⟩
  | nowhere _ hend => exact .inl (.deadEnd hend)
  | text => cases hnone
  | further _ hleads _ ih =>
    have hstep : PointsOn document _ _ := hleads
    have hlater := List.forall_mem_cons.2 ⟨.single hstep, fun met hmet => (hseen met hmet).tail hstep⟩
    obtain hbreaks | ⟨met, hway, hloop⟩ := ih hnone hlater
    · exact .inl (.further hleads hbreaks)
    · exact .inr ⟨met, .head hstep hway, hloop⟩

/-! ## The end of a chain -/

/-- What a pointer leads to is found by a recursion that comes to an end: it is the text at which
the chain from the pointer ends, and there is none exactly if the chain comes to a pointer that
leads nowhere or never ends. -/
theorem pointedText?_chain (document : Json) (pointer : String) :
    (∃ calls ≤ document.nodeCount + 2,
      Pursuit document [] pointer (pointedText? document pointer) calls) ∧
    (∀ s, pointedText? document pointer = some s ↔ EndsAt document pointer s) ∧
    (pointedText? document pointer = none ↔
      Breaks document pointer ∨ IsEndless document pointer) := by
  obtain ⟨calls, hcalls, hpursuit⟩ := exists_pursuit document pointer
  have hends : ∀ s, pointedText? document pointer = some s → EndsAt document pointer s :=
    fun s hs => hpursuit.endsAt hs
  have hnone : pointedText? document pointer = none →
      Breaks document pointer ∨ IsEndless document pointer := fun hnone =>
    (hpursuit.breaks_or_runsIntoLoop hnone (List.forall_mem_nil _)).imp_right
      RunsIntoLoop.isEndless
  refine ⟨⟨calls, hcalls, hpursuit⟩, fun s => ⟨hends s, fun hs => ?_⟩, hnone, fun hlost => ?_⟩
  · cases hfound : pointedText? document pointer with
    | none =>
      obtain hbreaks | hendless := hnone hfound
      · exact absurd hbreaks hs.not_breaks
      · exact absurd hendless hs.not_isEndless
    | some other => rw [(hends other hfound).unique hs]
  · rw [Option.eq_none_iff_forall_ne_some]
    intro s hs
    obtain hbreaks | hendless := hlost
    · exact (hends s hs).not_breaks hbreaks
    · exact (hends s hs).not_isEndless hendless

end Chain

end TypeRegistry
