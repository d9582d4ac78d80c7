import TypeRegistry.Json.Path

/-!
# Occurrences of a keyword

Some keywords are checked wherever they stand in a schema.  An occurrence is the value of a member
of that name in the schema, in an object inside it, or in an object in an array inside it; what a
member of that name holds is not searched, and neither are arrays right inside arrays.

Main definitions:

- `schemaPath`: paths in schemas, names being joined by slashes.
- `occurrencesOf`: the occurrences of a keyword with their paths, in document order.
-/

namespace TypeRegistry

/-- The path of a member in a schema. -/
def schemaPath (path name : String) : String :=
  if path.isEmpty then name else path ++ "/" ++ name

mutual

/-- The occurrences of a keyword in the members of an object at a path. -/
def occurrencesOf (keyword path : String) : Json.Members → List (String × Json)
  | [] => []
  | (name, value) :: rest =>
    (if name = keyword then [(schemaPath path name, value)]
    else occurrencesInValue keyword (schemaPath path name) value) ++
      occurrencesOf keyword path rest

/-- The occurrences of a keyword in a value at a path. -/
def occurrencesInValue (keyword path : String) : Json → List (String × Json)
  | .obj members => occurrencesOf keyword path members
  | .arr items => occurrencesInItems keyword path 0 items
  | _ => []

/-- The occurrences of a keyword in the objects among the items of an array, from a place on. -/
def occurrencesInItems (keyword path : String) : (place : Nat) → List Json → List (String × Json)
  | _, [] => []
  | place, .obj members :: rest =>
    occurrencesOf keyword (itemPath path place) members ++
      occurrencesInItems keyword path (place + 1) rest
  | place, _ :: rest => occurrencesInItems keyword path (place + 1) rest

end

end TypeRegistry
