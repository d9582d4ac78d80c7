import TypeRegistry.Json.Equality
import TypeRegistry.Schema.Compatibility

/-!
# Difference of two schemas

The properties that came, went or changed between two versions of a schema, as paths with points
between the names.  A common property that is an object on both sides is described by what differs
below it, any other that differs by its two types.

Main definitions:

- `PropertyChange`: a common property whose schema changed.
- `Difference`, `difference`: all that differs, the changes in ascending order at every level.
-/

namespace TypeRegistry

open Dictionary

/-- A common property whose schema changed, with its declared types. -/
structure PropertyChange where
  path : String
  oldType : String
  newType : String
deriving DecidableEq, Repr

/-- A change as a document. -/
def PropertyChange.toJson (change : PropertyChange) : Json :=
  .obj [("property", .str change.path), ("old_type", .str change.oldType),
    ("new_type", .str change.newType)]

/-- What differs between two schemas: paths of properties that came and went, and changes. -/
structure Difference where
  added : List String := []
  removed : List String := []
  changed : List PropertyChange := []
deriving DecidableEq, Repr

namespace Difference

/-- Two differences, one after the other. -/
def append (first second : Difference) : Difference :=
  ⟨first.added ++ second.added, first.removed ++ second.removed, first.changed ++ second.changed⟩

/-- Several differences, one after the other. -/
def concat (parts : List Difference) : Difference :=
  parts.foldr append {}

end Difference

/-- The names of a first dictionary that a second one lacks, behind the path so far. -/
def pathsMissing (path : String) (present absent : Json.Members) : List String :=
  ((keys present).filter fun name => !has name absent).map (path ++ ·)

/-- What differs between two schemas below a path, the path being empty or ending in a point. -/
def differenceAt (path : String) (old new : Json) : Difference :=
  let common := (commonNames old.flatten new.flatten).map fun name =>
    match _ho : find? name old.flatten.properties, find? name new.flatten.properties with
    | some (.obj o), some (.obj n) =>
      if Json.sameValue (.obj o) (.obj n) then {}
      else if declaredType o = "object" ∧ declaredType n = "object" then
        differenceAt (path ++ name ++ ".") (.obj o) (.obj n)
      else ⟨[], [], [⟨path ++ name, declaredType o, declaredType n⟩]⟩
    | _, _ => {}
  Difference.append
    ⟨pathsMissing path new.flatten.properties old.flatten.properties,
      pathsMissing path old.flatten.properties new.flatten.properties, []⟩
    (Difference.concat common)
termination_by sizeOf old
decreasing_by exact Json.sizeOf_lt_of_find?_flatten _ho

/-- What differs between two schemas; the paths that came and went are sorted, each once. -/
def difference (old new : Json) : Difference :=
  let found := differenceAt "" old new
  ⟨Text.sortedDistinct found.added, Text.sortedDistinct found.removed, found.changed⟩

end TypeRegistry
