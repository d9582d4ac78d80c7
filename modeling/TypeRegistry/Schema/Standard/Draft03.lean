import TypeRegistry.Schema.Standard.Fragment

/-!
# The description of draft-03

Draft-03 describes itself in one schema; types may be schemas there, and a property says itself that
it is required.

Main definitions:

- `Standard.draft03`: the schema that describes the dialect.
-/

namespace TypeRegistry.Standard

/-- The schema that describes the dialect. -/
def draft03 : Json :=
  .obj
    [("$schema", .str "http://json-schema.org/draft-03/schema#"),
     ("id", .str "http://json-schema.org/draft-03/schema#"),
     ("type", .str "object"),
     ("properties",
      .obj
        [("type",
          .obj
            [("type", .arr [.str "string", .str "array"]),
             ("items", .obj [("type", .arr [.str "string", toAddress "#"])]),
             ("uniqueItems", .bool true),
             ("default", .str "any")]),
         ("properties",
          .obj
            [("type", .str "object"),
             ("additionalProperties", .obj [("$ref", .str "#"), ("type", .str "object")]),
             ("default", .obj [])]),
         ("patternProperties",
          .obj
            [("type", .str "object"),
             ("additionalProperties", toAddress "#"),
             ("default", .obj [])]),
         ("additionalProperties",
          .obj [("type", .arr [toAddress "#", .str "boolean"]), ("default", .obj [])]),
         ("items",
          .obj
            [("type", .arr [toAddress "#", .str "array"]),
             ("items", toAddress "#"),
             ("default", .obj [])]),
         ("additionalItems",
          .obj [("type", .arr [toAddress "#", .str "boolean"]), ("default", .obj [])]),
         ("required", truthUnlessSaid),
         ("dependencies",
          .obj
            [("type", .str "object"),
             ("additionalProperties",
              .obj
                [("type", .arr [.str "string", .str "array", toAddress "#"]),
                 ("items", anyText)]),
             ("default", .obj [])]),
         ("minimum", anyNumber),
         ("maximum", anyNumber),
         ("exclusiveMinimum", truthUnlessSaid),
         ("exclusiveMaximum", truthUnlessSaid),
         ("minItems",
          .obj [("type", .str "integer"), ("minimum", .int 0), ("default", .int 0)]),
         ("maxItems", .obj [("type", .str "integer"), ("minimum", .int 0)]),
         ("uniqueItems", truthUnlessSaid),
         ("pattern", regexText),
         ("minLength",
          .obj [("type", .str "integer"), ("minimum", .int 0), ("default", .int 0)]),
         ("maxLength", .obj [("type", .str "integer")]),
         ("enum",
          .obj [("type", .str "array"), ("minItems", .int 1), ("uniqueItems", .bool true)]),
         ("default", .obj [("type", .str "any")]),
         ("title", anyText),
         ("description", anyText),
         ("format", anyText),
         ("divisibleBy",
          .obj
            [("type", .str "number"),
             ("minimum", .int 0),
             ("exclusiveMinimum", .bool true),
             ("default", .int 1)]),
         ("disallow",
          .obj
            [("type", .arr [.str "string", .str "array"]),
             ("items", .obj [("type", .arr [.str "string", toAddress "#"])]),
             ("uniqueItems", .bool true)]),
         ("extends",
          .obj
            [("type", .arr [toAddress "#", .str "array"]),
             ("items", toAddress "#"),
             ("default", .obj [])]),
         ("id", anyText),
         ("$ref", anyText),
         ("$schema", addressText)]),
     ("dependencies",
      .obj [("exclusiveMinimum", .str "minimum"), ("exclusiveMaximum", .str "maximum")]),
     ("default", .obj [])]

end TypeRegistry.Standard
