import TypeRegistry.Schema.Standard.Fragment

/-!
# The description of draft 2019-09

Draft 2019-09 is described vocabulary by vocabulary; every description refers to the whole by
recursion.

Main definitions:

- `Standard.Draft201909.documents`: the schemas that describe the dialect.
-/

namespace TypeRegistry.Standard.Draft201909

/-- The description of the dialect, which is that of its vocabularies and of two older keywords. -/
def whole : Json :=
  .obj
    [("$schema", .str "https://json-schema.org/draft/2019-09/schema"),
     ("$id", .str "https://json-schema.org/draft/2019-09/schema"),
     ("$vocabulary",
      .obj
        [("https://json-schema.org/draft/2019-09/vocab/core", .bool true),
         ("https://json-schema.org/draft/2019-09/vocab/applicator", .bool true),
         ("https://json-schema.org/draft/2019-09/vocab/validation", .bool true),
         ("https://json-schema.org/draft/2019-09/vocab/meta-data", .bool true),
         ("https://json-schema.org/draft/2019-09/vocab/format", .bool false),
         ("https://json-schema.org/draft/2019-09/vocab/content", .bool true)]),
     ("$recursiveAnchor", .bool true),
     ("title", .str "Core and Validation specifications meta-schema"),
     ("allOf",
      .arr
        [toAddress "meta/core",
         toAddress "meta/applicator",
         toAddress "meta/validation",
         toAddress "meta/meta-data",
         toAddress "meta/format",
         toAddress "meta/content"]),
     ("type", schemaTypes),
     ("properties",
      .obj
        [("definitions",
          .obj
            [("$comment", .str ("While no longer an official keyword as it is replaced " ++
                                "by $defs, this keyword is retained in the meta-schema " ++
                                "to prevent incompatible extensions as it remains in " ++
                                "common use.")),
             ("type", .str "object"),
             ("additionalProperties", toRecursion),
             ("default", .obj [])]),
         ("dependencies",
          .obj
            [("$comment", .str ("\"dependencies\" is no longer a keyword, but schema " ++
                                "authors should avoid redefining it to facilitate a " ++
                                "smooth transition to \"dependentSchemas\" and " ++
                                "\"dependentRequired\"")),
             ("type", .str "object"),
             ("additionalProperties",
              .obj
                [("anyOf",
                  .arr [toRecursion, toAddress "meta/validation#/$defs/stringArray"])])])])]

/-- The vocabulary of addresses and references. -/
def core : Json :=
  .obj
    [("$schema", .str "https://json-schema.org/draft/2019-09/schema"),
     ("$id", .str "https://json-schema.org/draft/2019-09/meta/core"),
     ("$vocabulary", .obj [("https://json-schema.org/draft/2019-09/vocab/core", .bool true)]),
     ("$recursiveAnchor", .bool true),
     ("title", .str "Core vocabulary meta-schema"),
     ("type", schemaTypes),
     ("properties",
      .obj
        [("$id",
          .obj
            [("type", .str "string"),
             ("format", .str "uri-reference"),
             ("$comment", .str "Non-empty fragments not allowed."),
             ("pattern", .str "^[^#]*#?$")]),
         ("$schema", addressText),
         ("$anchor",
          .obj [("type", .str "string"), ("pattern", .str "^[A-Za-z][-A-Za-z0-9.:_]*$")]),
         ("$ref", referenceText),
         ("$recursiveRef", referenceText),
         ("$recursiveAnchor", truthUnlessSaid),
         ("$vocabulary",
          .obj
            [("type", .str "object"),
             ("propertyNames", addressText),
             ("additionalProperties", anyTruth)]),
         ("$comment", anyText),
         ("$defs",
          .obj
            [("type", .str "object"),
             ("additionalProperties", toRecursion),
             ("default", .obj [])])])]

/-- The vocabulary of schemas inside schemas. -/
def applicator : Json :=
  .obj
    [("$schema", .str "https://json-schema.org/draft/2019-09/schema"),
     ("$id", .str "https://json-schema.org/draft/2019-09/meta/applicator"),
     ("$vocabulary",
      .obj [("https://json-schema.org/draft/2019-09/vocab/applicator", .bool true)]),
     ("$recursiveAnchor", .bool true),
     ("title", .str "Applicator vocabulary meta-schema"),
     ("type", schemaTypes),
     ("properties",
      .obj
        [("additionalItems", toRecursion),
         ("unevaluatedItems", toRecursion),
         ("items", .obj [("anyOf", .arr [toRecursion, toAddress "#/$defs/schemaArray"])]),
         ("contains", toRecursion),
         ("additionalProperties", toRecursion),
         ("unevaluatedProperties", toRecursion),
         ("properties",
          .obj
            [("type", .str "object"),
             ("additionalProperties", toRecursion),
             ("default", .obj [])]),
         ("patternProperties",
          .obj
            [("type", .str "object"),
             ("additionalProperties", toRecursion),
             ("propertyNames", .obj [("format", .str "regex")]),
             ("default", .obj [])]),
         ("dependentSchemas",
          .obj [("type", .str "object"), ("additionalProperties", toRecursion)]),
         ("propertyNames", toRecursion),
         ("if", toRecursion),
         ("then", toRecursion),
         ("else", toRecursion),
         ("allOf", toAddress "#/$defs/schemaArray"),
         ("anyOf", toAddress "#/$defs/schemaArray"),
         ("oneOf", toAddress "#/$defs/schemaArray"),
         ("not", toRecursion)]),
     ("$defs",
      .obj
        [("schemaArray",
          .obj [("type", .str "array"), ("minItems", .int 1), ("items", toRecursion)])])]

/-- The vocabulary of assertions. -/
def validation : Json :=
  .obj
    [("$schema", .str "https://json-schema.org/draft/2019-09/schema"),
     ("$id", .str "https://json-schema.org/draft/2019-09/meta/validation"),
     ("$vocabulary",
      .obj [("https://json-schema.org/draft/2019-09/vocab/validation", .bool true)]),
     ("$recursiveAnchor", .bool true),
     ("title", .str "Validation vocabulary meta-schema"),
     ("type", schemaTypes),
     ("properties",
      .obj
        [("multipleOf", .obj [("type", .str "number"), ("exclusiveMinimum", .int 0)]),
         ("maximum", anyNumber),
         ("exclusiveMaximum", anyNumber),
         ("minimum", anyNumber),
         ("exclusiveMinimum", anyNumber),
         ("maxLength", toAddress "#/$defs/nonNegativeInteger"),
         ("minLength", toAddress "#/$defs/nonNegativeIntegerDefault0"),
         ("pattern", regexText),
         ("maxItems", toAddress "#/$defs/nonNegativeInteger"),
         ("minItems", toAddress "#/$defs/nonNegativeIntegerDefault0"),
         ("uniqueItems", truthUnlessSaid),
         ("maxContains", toAddress "#/$defs/nonNegativeInteger"),
         ("minContains",
          .obj [("$ref", .str "#/$defs/nonNegativeInteger"), ("default", .int 1)]),
         ("maxProperties", toAddress "#/$defs/nonNegativeInteger"),
         ("minProperties", toAddress "#/$defs/nonNegativeIntegerDefault0"),
         ("required", toAddress "#/$defs/stringArray"),
         ("dependentRequired",
          .obj
            [("type", .str "object"),
             ("additionalProperties", toAddress "#/$defs/stringArray")]),
         ("const", .bool true),
         ("enum", .obj [("type", .str "array"), ("items", .bool true)]),
         ("type",
          .obj
            [("anyOf",
              .arr
                [toAddress "#/$defs/simpleTypes",
                 .obj
                   [("type", .str "array"),
                    ("items", toAddress "#/$defs/simpleTypes"),
                    ("minItems", .int 1),
                    ("uniqueItems", .bool true)]])])]),
     ("$defs",
      .obj
        [("nonNegativeInteger", .obj [("type", .str "integer"), ("minimum", .int 0)]),
         ("nonNegativeIntegerDefault0",
          .obj [("$ref", .str "#/$defs/nonNegativeInteger"), ("default", .int 0)]),
         ("simpleTypes", simpleTypes),
         ("stringArray",
          .obj
            [("type", .str "array"),
             ("items", anyText),
             ("uniqueItems", .bool true),
             ("default", .arr [])])])]

/-- The vocabulary of remarks. -/
def metaData : Json :=
  .obj
    [("$schema", .str "https://json-schema.org/draft/2019-09/schema"),
     ("$id", .str "https://json-schema.org/draft/2019-09/meta/meta-data"),
     ("$vocabulary",
      .obj [("https://json-schema.org/draft/2019-09/vocab/meta-data", .bool true)]),
     ("$recursiveAnchor", .bool true),
     ("title", .str "Meta-data vocabulary meta-schema"),
     ("type", schemaTypes),
     ("properties",
      .obj
        [("title", anyText),
         ("description", anyText),
         ("default", .bool true),
         ("deprecated", truthUnlessSaid),
         ("readOnly", truthUnlessSaid),
         ("writeOnly", truthUnlessSaid),
         ("examples", .obj [("type", .str "array"), ("items", .bool true)])])]

/-- The vocabulary of formats. -/
def format : Json :=
  .obj
    [("$schema", .str "https://json-schema.org/draft/2019-09/schema"),
     ("$id", .str "https://json-schema.org/draft/2019-09/meta/format"),
     ("$vocabulary", .obj [("https://json-schema.org/draft/2019-09/vocab/format", .bool true)]),
     ("$recursiveAnchor", .bool true),
     ("title", .str "Format vocabulary meta-schema"),
     ("type", schemaTypes),
     ("properties", .obj [("format", anyText)])]

/-- The vocabulary of encoded content. -/
def content : Json :=
  .obj
    [("$schema", .str "https://json-schema.org/draft/2019-09/schema"),
     ("$id", .str "https://json-schema.org/draft/2019-09/meta/content"),
     ("$vocabulary",
      .obj [("https://json-schema.org/draft/2019-09/vocab/content", .bool true)]),
     ("$recursiveAnchor", .bool true),
     ("title", .str "Content vocabulary meta-schema"),
     ("type", schemaTypes),
     ("properties",
      .obj
        [("contentMediaType", anyText),
         ("contentEncoding", anyText),
         ("contentSchema", toRecursion)])]

/-- All schemas that describe the dialect. -/
def documents : List Json :=
  [whole, core, applicator, validation, metaData, format, content]

end TypeRegistry.Standard.Draft201909
