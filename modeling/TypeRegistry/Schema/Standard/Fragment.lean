import TypeRegistry.Json.Basic

/-!
# Fragments of descriptions

The descriptions of dialects say over and over that something is a text, a number, a truth value or
a schema itself.

Main definitions:

- `Standard.anyText`, `Standard.anyNumber`, `Standard.anyTruth`: schemas of scalars.
- `Standard.toAddress`, `Standard.toRecursion`, `Standard.toMeta`: schemas that refer to schemas.
-/

namespace TypeRegistry.Standard

/-- A text. -/
def anyText : Json := .obj [("type", .str "string")]

/-- A truth value. -/
def anyTruth : Json := .obj [("type", .str "boolean")]

/-- A truth value that is false unless it is given. -/
def truthUnlessSaid : Json := .obj [("type", .str "boolean"), ("default", .bool false)]

/-- A number. -/
def anyNumber : Json := .obj [("type", .str "number")]

/-- A regular expression. -/
def regexText : Json := .obj [("type", .str "string"), ("format", .str "regex")]

/-- An address. -/
def addressText : Json := .obj [("type", .str "string"), ("format", .str "uri")]

/-- A reference. -/
def referenceText : Json := .obj [("type", .str "string"), ("format", .str "uri-reference")]

/-- The types that schemas are of. -/
def schemaTypes : Json := .arr [.str "object", .str "boolean"]

/-- The name of a type. -/
def simpleTypes : Json :=
  .obj
    [("enum",
      .arr
        [.str "array", .str "boolean", .str "integer", .str "null", .str "number", .str "object",
         .str "string"])]

/-- What stands at an address. -/
def toAddress (address : String) : Json := .obj [("$ref", .str address)]

/-- The outermost schema that takes part in the recursion. -/
def toRecursion : Json := .obj [("$recursiveRef", .str "#")]

/-- The outermost schema that is called `meta`. -/
def toMeta : Json := .obj [("$dynamicRef", .str "#meta")]

end TypeRegistry.Standard
