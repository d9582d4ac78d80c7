import TypeRegistry.Schema.Standard.Fragment

/-!
# The description of draft-04

Draft-04 describes itself in one schema; bounds are exclusive if a truth value beside them says so.

Main definitions:

- `Standard.draft04`: the schema that describes the dialect.
-/

namespace TypeRegistry.Standard

/-- The schema that describes the dialect. -/
def draft04 : Json :=
  .obj
    [("id", .str "http://json-schema.org/draft-04/schema#"),
     ("$schema", .str "http://json-schema.org/draft-04/schema#"),
     ("description", .str "Core schema meta-schema"),
     ("definitions",
      .obj
        [("schemaArray",
          .obj [("type", .str "array"), ("minItems", .int 1), ("items", toAddress "#")]),
         ("positiveInteger", .obj [("type", .str "integer"), ("minimum", .int 0)]),
         ("positiveIntegerDefault0",
          .obj
            [("allOf",
              .arr [toAddress "#/definitions/positiveInteger", .obj [("default", .int 0)]])]),
         ("simpleTypes", simpleTypes),
         ("stringArray",
          .obj
            [("type", .str "array"),
             ("items", anyText),
             ("minItems", .int 1),
             ("uniqueItems", .bool true)])]),
     ("type", .str "object"),
     ("properties",
      .obj
        [("id", anyText),
         ("$schema", anyText),
         ("title", anyText),
         ("description", anyText),
         ("default", .obj []),
         ("multipleOf",
          .obj
            [("type", .str "number"),
             ("minimum", .int 0),
             ("exclusiveMinimum", .bool true)]),
         ("maximum", anyNumber),
         ("exclusiveMaximum", anyTruth),
         ("minimum", anyNumber),
         ("exclusiveMinimum", anyTruth),
         ("maxLength", toAddress "#/definitions/positiveInteger"),
         ("minLength", toAddress "#/definitions/positiveIntegerDefault0"),
         ("pattern", regexText),
         ("additionalItems",
          .obj [("anyOf", .arr [anyTruth, toAddress "#"]), ("default", .obj [])]),
         ("items",
          .obj
            [("anyOf", .arr [toAddress "#", toAddress "#/definitions/schemaArray"]),
             ("default", .obj [])]),
         ("maxItems", toAddress "#/definitions/positiveInteger"),
         ("minItems", toAddress "#/definitions/positiveIntegerDefault0"),
         ("uniqueItems", truthUnlessSaid),
         ("maxProperties", toAddress "#/definitions/positiveInteger"),
         ("minProperties", toAddress "#/definitions/positiveIntegerDefault0"),
         ("required", toAddress "#/definitions/stringArray"),
         ("additionalProperties",
          .obj [("anyOf", .arr [anyTruth, toAddress "#"]), ("default", .obj [])]),
         ("definitions",
          .obj
            [("type", .str "object"),
             ("additionalProperties", toAddress "#"),
             ("default", .obj [])]),
         ("properties",
          .obj
            [("type", .str "object"),
             ("additionalProperties", toAddress "#"),
             ("default", .obj [])]),
         ("patternProperties",
          .obj
            [("type", .str "object"),
             ("additionalProperties", toAddress "#"),
             ("default", .obj [])]),
         ("dependencies",
          .obj
            [("type", .str "object"),
             ("additionalProperties",
              .obj [("anyOf", .arr [toAddress "#", toAddress "#/definitions/stringArray"])])]),
         ("enum",
          .obj [("type", .str "array"), ("minItems", .int 1), ("uniqueItems", .bool true)]),
         ("type",
          .obj
            [("anyOf",
              .arr
                [toAddress "#/definitions/simpleTypes",
                 .obj
                   [("type", .str "array"),
                    ("items", toAddress "#/definitions/simpleTypes"),
                    ("minItems", .int 1),
                    ("uniqueItems", .bool true)]])]),
         ("format", anyText),
         ("allOf", toAddress "#/definitions/schemaArray"),
         ("anyOf", toAddress "#/definitions/schemaArray"),
         ("oneOf", toAddress "#/definitions/schemaArray"),
         ("not", toAddress "#")]),
     ("dependencies",
      .obj
        [("exclusiveMaximum", .arr [.str "maximum"]),
         ("exclusiveMinimum", .arr [.str "minimum"])]),
     ("default", .obj [])]

end TypeRegistry.Standard
