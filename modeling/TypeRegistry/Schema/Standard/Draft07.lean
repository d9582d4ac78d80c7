import TypeRegistry.Schema.Standard.Fragment

/-!
# The description of draft-07

Draft-07 describes itself in one schema; it adds conditions to draft-06.

Main definitions:

- `Standard.draft07`: the schema that describes the dialect.
-/

namespace TypeRegistry.Standard

/-- The schema that describes the dialect. -/
def draft07 : Json :=
  .obj
    [("$schema", .str "http://json-schema.org/draft-07/schema#"),
     ("$id", .str "http://json-schema.org/draft-07/schema#"),
     ("title", .str "Core schema meta-schema"),
     ("definitions",
      .obj
        [("schemaArray",
          .obj [("type", .str "array"), ("minItems", .int 1), ("items", toAddress "#")]),
         ("nonNegativeInteger", .obj [("type", .str "integer"), ("minimum", .int 0)]),
         ("nonNegativeIntegerDefault0",
          .obj
            [("allOf",
              .arr [toAddress "#/definitions/nonNegativeInteger", .obj [("default", .int 0)]])]),
         ("simpleTypes", simpleTypes),
         ("stringArray",
          .obj
            [("type", .str "array"),
             ("items", anyText),
             ("uniqueItems", .bool true),
             ("default", .arr [])])]),
     ("type", schemaTypes),
     ("properties",
      .obj
        [("$id", referenceText),
         ("$schema", addressText),
         ("$ref", referenceText),
         ("$comment", anyText),
         ("title", anyText),
         ("description", anyText),
         ("default", .bool true),
         ("readOnly", truthUnlessSaid),
         ("examples", .obj [("type", .str "array"), ("items", .bool true)]),
         ("multipleOf", .obj [("type", .str "number"), ("exclusiveMinimum", .int 0)]),
         ("maximum", anyNumber),
         ("exclusiveMaximum", anyNumber),
         ("minimum", anyNumber),
         ("exclusiveMinimum", anyNumber),
         ("maxLength", toAddress "#/definitions/nonNegativeInteger"),
         ("minLength", toAddress "#/definitions/nonNegativeIntegerDefault0"),
         ("pattern", regexText),
         ("additionalItems", toAddress "#"),
         ("items",
          .obj
            [("anyOf", .arr [toAddress "#", toAddress "#/definitions/schemaArray"]),
             ("default", .bool true)]),
         ("maxItems", toAddress "#/definitions/nonNegativeInteger"),
         ("minItems", toAddress "#/definitions/nonNegativeIntegerDefault0"),
         ("uniqueItems", truthUnlessSaid),
         ("contains", toAddress "#"),
         ("maxProperties", toAddress "#/definitions/nonNegativeInteger"),
         ("minProperties", toAddress "#/definitions/nonNegativeIntegerDefault0"),
         ("required", toAddress "#/definitions/stringArray"),
         ("additionalProperties", toAddress "#"),
         ("definitions",
          .obj
            [("type", .str "object"),
             ("additionalProperties", toAddress "#"),
             ("default", .obj [])]),
         ("properties",
          .obj
            [("type", .str "object"),
             ("additionalProperties", toAddress "#"),
             ("default", .obj [])]),
         ("patternProperties",
          .obj
            [("type", .str "object"),
             ("additionalProperties", toAddress "#"),
             ("propertyNames", .obj [("format", .str "regex")]),
             ("default", .obj [])]),
         ("dependencies",
          .obj
            [("type", .str "object"),
             ("additionalProperties",
              .obj [("anyOf", .arr [toAddress "#", toAddress "#/definitions/stringArray"])])]),
         ("propertyNames", toAddress "#"),
         ("const", .bool true),
         ("enum", .obj [("type", .str "array"), ("items", .bool true)]),
         ("type",
          .obj
            [("anyOf",
              .arr
                [toAddress "#/definitions/simpleTypes",
                 .obj
                   [("type", .str "array"),
                    ("items", toAddress "#/definitions/simpleTypes"),
                    ("minItems", .int 1),
                    ("uniqueItems", .bool true)]])]),
         ("format", anyText),
         ("contentMediaType", anyText),
         ("contentEncoding", anyText),
         ("if", toAddress "#"),
         ("then", toAddress "#"),
         ("else", toAddress "#"),
         ("allOf", toAddress "#/definitions/schemaArray"),
         ("anyOf", toAddress "#/definitions/schemaArray"),
         ("oneOf", toAddress "#/definitions/schemaArray"),
         ("not", toAddress "#")]),
     ("default", .bool true)]

end TypeRegistry.Standard
