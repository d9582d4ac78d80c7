import TypeRegistry.Json.Basic
import TypeRegistry.Text.Digit

/-!
# Paths into documents

The text of a path joins names by points and puts positions in square brackets: `items[0].name`.

Main definitions:

- `PathStep`: one step into a document.
- `memberPath`, `itemPath`: the text of a path one step further down.
- `Json.innerPaths`: the paths of all values below a document, in document order.
-/

namespace TypeRegistry

/-- A step into a document: to a member of an object, or to an item of an array. -/
inductive PathStep where
  | name (s : String)
  | place (n : Nat)
deriving DecidableEq, Repr

/-- The text of a step. -/
def PathStep.text : PathStep → String
  | name s => s
  | place n => Text.ofNat n

/-- Whether one step comes before another.  Steps at one place are of one kind; between kinds,
positions come first. -/
def PathStep.less : PathStep → PathStep → Bool
  | name s, name t => decide (s < t)
  | place m, place n => decide (m < n)
  | place _, name _ => true
  | name _, place _ => false

/-- The path of a member, given the path of its object. -/
def memberPath (path name : String) : String :=
  if path.isEmpty then name else path ++ "." ++ name

/-- The path of an item, given the path of its array. -/
def itemPath (path : String) (place : Nat) : String :=
  path ++ "[" ++ Text.ofNat place ++ "]"

namespace Json

mutual

/-- The paths of all values below a document at a path, in document order. -/
def innerPaths (path : String) : Json → List String
  | .arr items => innerPathsOfItems path 0 items
  | .obj members => innerPathsOfMembers path members
  | _ => []

/-- The paths of the items of an array from a place on, each followed by those below it. -/
def innerPathsOfItems (path : String) : (place : Nat) → List Json → List String
  | _, [] => []
  | place, item :: rest =>
    itemPath path place :: (innerPaths (itemPath path place) item ++
      innerPathsOfItems path (place + 1) rest)

/-- The paths of the members of an object, each followed by those below it. -/
def innerPathsOfMembers (path : String) : Members → List String
  | [] => []
  | (name, value) :: rest =>
    memberPath path name :: (innerPaths (memberPath path name) value ++
      innerPathsOfMembers path rest)

end

end Json

end TypeRegistry
