import TypeRegistry.Schema.Standard.Fragment

/-!
# The description of draft 2020-12

Draft 2020-12 is described vocabulary by vocabulary; every description refers to the whole by an
anchor that moves.

Main definitions:

- `Standard.Draft202012.documents`: the schemas that describe the dialect.
-/

namespace TypeRegistry.Standard.Draft202012

/-- The description of the dialect, which is that of its vocabularies and of four older keywords. -/
def whole : Json :=
  .obj
    [("$schema", .str "https://json-schema.org/draft/2020-12/schema"),
     ("$id", .str "https://json-schema.org/draft/2020-12/schema"),
     ("$vocabulary",
      .obj
        [("https://json-schema.org/draft/2020-12/vocab/core", .bool true),
         ("https://json-schema.org/draft/2020-12/vocab/applicator", .bool true),
         ("https://json-schema.org/draft/2020-12/vocab/unevaluated", .bool true),
         ("https://json-schema.org/draft/2020-12/vocab/validation", .bool true),
         ("https://json-schema.org/draft/2020-12/vocab/meta-data", .bool true),
         ("https://json-schema.org/draft/2020-12/vocab/format-annotation", .bool true),
         ("https://json-schema.org/draft/2020-12/vocab/content", .bool true)]),
     ("$dynamicAnchor", .str "meta"),
     ("title", .str "Core and Validation specifications meta-schema"),
     ("allOf",
      .arr
        [toAddress "meta/core",
         toAddress "meta/applicator",
         toAddress "meta/unevaluated",
         toAddress "meta/validation",
         toAddress "meta/meta-data",
         toAddress "meta/format-annotation",
         toAddress "meta/content"]),
     ("type", schemaTypes),
     ("$comment", .str ("This meta-schema also defines keywords that have appeared in " ++
                        "previous drafts in order to prevent incompatible extensions as " ++
                        "they remain in common use.")),
     ("properties",
      .obj
        [("definitions",
          .obj
            [("$comment", .str "\"definitions\" has been replaced by \"$defs\"."),
             ("type", .str "object"),
             ("additionalProperties", toMeta),
             ("deprecated", .bool true),
             ("default", .obj [])]),
         ("dependencies",
          .obj
            [("$comment", .str ("\"dependencies\" has been split and replaced by " ++
                                "\"dependentSchemas\" and \"dependentRequired\" in order " ++
                                "to serve their differing semantics.")),
             ("type", .str "object"),
             ("additionalProperties",
              .obj [("anyOf", .arr [toMeta, toAddress "meta/validation#/$defs/stringArray"])]),
             ("deprecated", .bool true),
             ("default", .obj [])]),
         ("$recursiveAnchor",
          .obj
            [("$comment", .str "\"$recursiveAnchor\" has been replaced by \"$dynamicAnchor\"."),
             ("$ref", .str "meta/core#/$defs/anchorString"),
             ("deprecated", .bool true)]),
         ("$recursiveRef",
          .obj
            [("$comment", .str "\"$recursiveRef\" has been replaced by \"$dynamicRef\"."),
             ("$ref", .str "meta/core#/$defs/uriReferenceString"),
             ("deprecated", .bool true)])])]

/-- The vocabulary of addresses and references. -/
def core : Json :=
  .obj
    [("$schema", .str "https://json-schema.org/draft/2020-12/schema"),
     ("$id", .str "https://json-schema.org/draft/2020-12/meta/core"),
     ("$vocabulary", .obj [("https://json-schema.org/draft/2020-12/vocab/core", .bool true)]),
     ("$dynamicAnchor", .str "meta"),
     ("title", .str "Core vocabulary meta-schema"),
     ("type", schemaTypes),
     ("properties",
      .obj
        [("$id",
          .obj
            [("$ref", .str "#/$defs/uriReferenceString"),
             ("$comment", .str "Non-empty fragments not allowed."),
             ("pattern", .str "^[^#]*#?$")]),
         ("$schema", toAddress "#/$defs/uriString"),
         ("$ref", toAddress "#/$defs/uriReferenceString"),
         ("$anchor", toAddress "#/$defs/anchorString"),
         ("$dynamicRef", toAddress "#/$defs/uriReferenceString"),
         ("$dynamicAnchor", toAddress "#/$defs/anchorString"),
         ("$vocabulary",
          .obj
            [("type", .str "object"),
             ("propertyNames", toAddress "#/$defs/uriString"),
             ("additionalProperties", anyTruth)]),
         ("$comment", anyText),
         ("$defs", .obj [("type", .str "object"), ("additionalProperties", toMeta)])]),
     ("$defs",
      .obj
        [("anchorString",
          .obj [("type", .str "string"), ("pattern", .str "^[A-Za-z_][-A-Za-z0-9._]*$")]),
         ("uriString", addressText),
         ("uriReferenceString", referenceText)])]

/-- The vocabulary of schemas inside schemas. -/
def applicator : Json :=
  .obj
    [("$schema", .str "https://json-schema.org/draft/2020-12/schema"),
     ("$id", .str "https://json-schema.org/draft/2020-12/meta/applicator"),
     ("$vocabulary",
      .obj [("https://json-schema.org/draft/2020-12/vocab/applicator", .bool true)]),
     ("$dynamicAnchor", .str "meta"),
     ("title", .str "Applicator vocabulary meta-schema"),
     ("type", schemaTypes),
     ("properties",
      .obj
        [("prefixItems", toAddress "#/$defs/schemaArray"),
         ("items", toMeta),
         ("contains", toMeta),
         ("additionalProperties", toMeta),
         ("properties",
          .obj
            [("type", .str "object"),
             ("additionalProperties", toMeta),
             ("default", .obj [])]),
         ("patternProperties",
          .obj
            [("type", .str "object"),
             ("additionalProperties", toMeta),
             ("propertyNames", .obj [("format", .str "regex")]),
             ("default", .obj [])]),
         ("dependentSchemas",
          .obj
            [("type", .str "object"),
             ("additionalProperties", toMeta),
             ("default", .obj [])]),
         ("propertyNames", toMeta),
         ("if", toMeta),
         ("then", toMeta),
         ("else", toMeta),
         ("allOf", toAddress "#/$defs/schemaArray"),
         ("anyOf", toAddress "#/$defs/schemaArray"),
         ("oneOf", toAddress "#/$defs/schemaArray"),
         ("not", toMeta)]),
     ("$defs",
      .obj
        [("schemaArray",
          .obj [("type", .str "array"), ("minItems", .int 1), ("items", toMeta)])])]

/-- The vocabulary of what other keywords leave over. -/
def unevaluated : Json :=
  .obj
    [("$schema", .str "https://json-schema.org/draft/2020-12/schema"),
     ("$id", .str "https://json-schema.org/draft/2020-12/meta/unevaluated"),
     ("$vocabulary",
      .obj [("https://json-schema.org/draft/2020-12/vocab/unevaluated", .bool true)]),
     ("$dynamicAnchor", .str "meta"),
     ("title", .str "Unevaluated applicator vocabulary meta-schema"),
     ("type", schemaTypes),
     ("properties", .obj [("unevaluatedItems", toMeta), ("unevaluatedProperties", toMeta)])]

/-- The vocabulary of assertions. -/
def validation : Json :=
  .obj
    [("$schema", .str "https://json-schema.org/draft/2020-12/schema"),
     ("$id", .str "https://json-schema.org/draft/2020-12/meta/validation"),
     ("$vocabulary",
      .obj [("https://json-schema.org/draft/2020-12/vocab/validation", .bool true)]),
     ("$dynamicAnchor", .str "meta"),
     ("title", .str "Validation vocabulary meta-schema"),
     ("type", schemaTypes),
     ("properties",
      .obj
        [("type",
          .obj
            [("anyOf",
              .arr
                [toAddress "#/$defs/simpleTypes",
                 .obj
                   [("type", .str "array"),
                    ("items", toAddress "#/$defs/simpleTypes"),
                    ("minItems", .int 1),
                    ("uniqueItems", .bool true)]])]),
         ("const", .bool true),
         ("enum", .obj [("type", .str "array"), ("items", .bool true)]),
         ("multipleOf", .obj [("type", .str "number"), ("exclusiveMinimum", .int 0)]),
         ("maximum", anyNumber),
         ("exclusiveMaximum", anyNumber),
         ("minimum", anyNumber),
         ("exclusiveMinimum", anyNumber),
         ("maxLength", toAddress "#/$defs/nonNegativeInteger"),
         ("minLength", toAddress "#/$defs/nonNegativeIntegerDefault0"),
         ("pattern", regexText),
         ("maxItems", toAddress "#/$defs/nonNegativeInteger"),
         ("minItems", toAddress "#/$defs/nonNegativeIntegerDefault0"),
         ("uniqueItems", truthUnlessSaid),
         ("maxContains", toAddress "#/$defs/nonNegativeInteger"),
         ("minContains",
          .obj [("$ref", .str "#/$defs/nonNegativeInteger"), ("default", .int 1)]),
         ("maxProperties", toAddress "#/$defs/nonNegativeInteger"),
         ("minProperties", toAddress "#/$defs/nonNegativeIntegerDefault0"),
         ("required", toAddress "#/$defs/stringArray"),
         ("dependentRequired",
          .obj
            [("type", .str "object"),
             ("additionalProperties", toAddress "#/$defs/stringArray")])]),
     ("$defs",
      .obj
        [("nonNegativeInteger", .obj [("type", .str "integer"), ("minimum", .int 0)]),
         ("nonNegativeIntegerDefault0",
          .obj [("$ref", .str "#/$defs/nonNegativeInteger"), ("default", .int 0)]),
         ("simpleTypes", simpleTypes),
         ("stringArray",
          .obj
            [("type", .str "array"),
             ("items", anyText),
             ("uniqueItems", .bool true),
             ("default", .arr [])])])]

/-- The vocabulary of remarks. -/
def metaData : Json :=
  .obj
    [("$schema", .str "https://json-schema.org/draft/2020-12/schema"),
     ("$id", .str "https://json-schema.org/draft/2020-12/meta/meta-data"),
     ("$vocabulary",
      .obj [("https://json-schema.org/draft/2020-12/vocab/meta-data", .bool true)]),
     ("$dynamicAnchor", .str "meta"),
     ("title", .str "Meta-data vocabulary meta-schema"),
     ("type", schemaTypes),
     ("properties",
      .obj
        [("title", anyText),
         ("description", anyText),
         ("default", .bool true),
         ("deprecated", truthUnlessSaid),
         ("readOnly", truthUnlessSaid),
         ("writeOnly", truthUnlessSaid),
         ("examples", .obj [("type", .str "array"), ("items", .bool true)])])]

/-- The vocabulary of formats that only inform. -/
def formatAnnotation : Json :=
  .obj
    [("$schema", .str "https://json-schema.org/draft/2020-12/schema"),
     ("$id", .str "https://json-schema.org/draft/2020-12/meta/format-annotation"),
     ("$vocabulary",
      .obj [("https://json-schema.org/draft/2020-12/vocab/format-annotation", .bool true)]),
     ("$dynamicAnchor", .str "meta"),
     ("title", .str "Format vocabulary meta-schema for annotation results"),
     ("type", schemaTypes),
     ("properties", .obj [("format", anyText)])]

/-- The vocabulary of formats that are checked. -/
def formatAssertion : Json :=
  .obj
    [("$schema", .str "https://json-schema.org/draft/2020-12/schema"),
     ("$id", .str "https://json-schema.org/draft/2020-12/meta/format-assertion"),
     ("$vocabulary",
      .obj [("https://json-schema.org/draft/2020-12/vocab/format-assertion", .bool true)]),
     ("$dynamicAnchor", .str "meta"),
     ("title", .str "Format vocabulary meta-schema for assertion results"),
     ("type", schemaTypes),
     ("properties", .obj [("format", anyText)])]

/-- The vocabulary of encoded content. -/
def content : Json :=
  .obj
    [("$schema", .str "https://json-schema.org/draft/2020-12/schema"),
     ("$id", .str "https://json-schema.org/draft/2020-12/meta/content"),
     ("$vocabulary",
      .obj [("https://json-schema.org/draft/2020-12/vocab/content", .bool true)]),
     ("$dynamicAnchor", .str "meta"),
     ("title", .str "Content vocabulary meta-schema"),
     ("type", schemaTypes),
     ("properties",
      .obj
        [("contentEncoding", anyText),
         ("contentMediaType", anyText),
         ("contentSchema", toMeta)])]

/-- All schemas that describe the dialect. -/
def documents : List Json :=
  [whole, core, applicator, unevaluated, validation, metaData, formatAnnotation, formatAssertion,
   content]

end TypeRegistry.Standard.Draft202012
