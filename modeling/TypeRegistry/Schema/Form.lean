import TypeRegistry.Schema.Assertion

/-!
# The form of a schema

Before a schema is used, the values of its keywords must have the form that its dialect demands.
The demands of a dialect are a table, in the order in which they are checked; schemas inside a
schema are checked where their keyword comes up.  The first fault found is the one reported.
Keywords that are in no table may hold anything.  A pattern that is too large to be read breaks the
check down, unless a fault was found before; where a value has a choice of forms, all faults of a
form are looked for before the next form is tried.

Main definitions:

- `Shape`: what a dialect demands of the value of a keyword.
- `Dialect.shapes`: the demands of a dialect.
- `FormCheck`: what a check of a form finds, with `andThen` and `orElse`.
- `formCheck`: the check of the form of a schema.
-/

namespace TypeRegistry

open Dictionary

/-! ## Demands -/

/-- What a dialect demands of the value of a keyword. -/
inductive Shape where
  | text
  | textLike (pattern : String)
  | regex
  | truth
  | truths
  | number
  | positiveNumber
  | integer
  | count
  | list
  | distinctList
  | typeNames
  | nameList
  | someNames
  | nameLists
  | schema
  | schemaList
  | schemaOrList
  | schemaOrTruth
  | schemas
  | schemasByRegex
  | schemasOrNames
  | schemasOrSomeNames
  | types
  | schemaOr (other : String)
  | schemasOrTexts
deriving DecidableEq, Repr

/-- The demands of draft-03, in the order of its own description. -/
def draft03Shapes : List (String × Shape) :=
  [("type", .types), ("properties", .schemas), ("patternProperties", .schemas),
   ("additionalProperties", .schemaOr "boolean"), ("items", .schemaOr "array"),
   ("additionalItems", .schemaOr "boolean"), ("required", .truth),
   ("dependencies", .schemasOrTexts), ("minimum", .number), ("maximum", .number),
   ("exclusiveMinimum", .truth), ("exclusiveMaximum", .truth), ("minItems", .count),
   ("maxItems", .count), ("uniqueItems", .truth), ("pattern", .regex), ("minLength", .count),
   ("maxLength", .integer), ("enum", .distinctList), ("title", .text), ("description", .text),
   ("format", .text), ("divisibleBy", .positiveNumber), ("disallow", .types),
   ("extends", .schemaOr "array"), ("id", .text), ("$ref", .text), ("$schema", .text)]

/-- The demands of draft-04, in the order of its own description. -/
def draft04Shapes : List (String × Shape) :=
  [("id", .text), ("$schema", .text), ("title", .text), ("description", .text),
   ("multipleOf", .positiveNumber), ("maximum", .number), ("exclusiveMaximum", .truth),
   ("minimum", .number), ("exclusiveMinimum", .truth), ("maxLength", .count),
   ("minLength", .count), ("pattern", .regex), ("additionalItems", .schemaOrTruth),
   ("items", .schemaOrList), ("maxItems", .count), ("minItems", .count), ("uniqueItems", .truth),
   ("maxProperties", .count), ("minProperties", .count), ("required", .someNames),
   ("additionalProperties", .schemaOrTruth), ("definitions", .schemas), ("properties", .schemas),
   ("patternProperties", .schemas), ("dependencies", .schemasOrSomeNames),
   ("enum", .distinctList), ("type", .typeNames), ("format", .text), ("allOf", .schemaList),
   ("anyOf", .schemaList), ("oneOf", .schemaList), ("not", .schema)]

/-- The demands of draft-06, in the order of its own description. -/
def draft06Shapes : List (String × Shape) :=
  [("$id", .text), ("$schema", .text), ("$ref", .text), ("title", .text), ("description", .text),
   ("examples", .list), ("multipleOf", .positiveNumber), ("maximum", .number),
   ("exclusiveMaximum", .number), ("minimum", .number), ("exclusiveMinimum", .number),
   ("maxLength", .count), ("minLength", .count), ("pattern", .regex),
   ("additionalItems", .schema), ("items", .schemaOrList), ("maxItems", .count),
   ("minItems", .count), ("uniqueItems", .truth), ("contains", .schema),
   ("maxProperties", .count), ("minProperties", .count), ("required", .nameList),
   ("additionalProperties", .schema), ("definitions", .schemas), ("properties", .schemas),
   ("patternProperties", .schemasByRegex), ("dependencies", .schemasOrNames),
   ("propertyNames", .schema), ("enum", .list), ("type", .typeNames), ("format", .text),
   ("allOf", .schemaList), ("anyOf", .schemaList), ("oneOf", .schemaList), ("not", .schema)]

/-- The demands of draft-07, in the order of its own description. -/
def draft07Shapes : List (String × Shape) :=
  [("$id", .text), ("$schema", .text), ("$ref", .text), ("$comment", .text), ("title", .text),
   ("description", .text), ("readOnly", .truth), ("examples", .list),
   ("multipleOf", .positiveNumber), ("maximum", .number), ("exclusiveMaximum", .number),
   ("minimum", .number), ("exclusiveMinimum", .number), ("maxLength", .count),
   ("minLength", .count), ("pattern", .regex), ("additionalItems", .schema),
   ("items", .schemaOrList), ("maxItems", .count), ("minItems", .count), ("uniqueItems", .truth),
   ("contains", .schema), ("maxProperties", .count), ("minProperties", .count),
   ("required", .nameList), ("additionalProperties", .schema), ("definitions", .schemas),
   ("properties", .schemas), ("patternProperties", .schemasByRegex),
   ("dependencies", .schemasOrNames), ("propertyNames", .schema), ("enum", .list),
   ("type", .typeNames), ("format", .text), ("contentMediaType", .text),
   ("contentEncoding", .text), ("if", .schema), ("then", .schema), ("else", .schema),
   ("allOf", .schemaList), ("anyOf", .schemaList), ("oneOf", .schemaList), ("not", .schema)]

/-- The demands of draft 2019-09, vocabulary by vocabulary. -/
def draft201909Shapes : List (String × Shape) :=
  [("$id", .textLike "^[^#]*#?$"), ("$schema", .text),
   ("$anchor", .textLike "^[A-Za-z][-A-Za-z0-9.:_]*$"), ("$ref", .text), ("$recursiveRef", .text),
   ("$recursiveAnchor", .truth), ("$vocabulary", .truths), ("$comment", .text),
   ("$defs", .schemas),
   ("additionalItems", .schema), ("unevaluatedItems", .schema), ("items", .schemaOrList),
   ("contains", .schema), ("additionalProperties", .schema), ("unevaluatedProperties", .schema),
   ("properties", .schemas), ("patternProperties", .schemasByRegex),
   ("dependentSchemas", .schemas), ("propertyNames", .schema), ("if", .schema),
   ("then", .schema), ("else", .schema), ("allOf", .schemaList), ("anyOf", .schemaList),
   ("oneOf", .schemaList), ("not", .schema),
   ("multipleOf", .positiveNumber), ("maximum", .number), ("exclusiveMaximum", .number),
   ("minimum", .number), ("exclusiveMinimum", .number), ("maxLength", .count),
   ("minLength", .count), ("pattern", .regex), ("maxItems", .count), ("minItems", .count),
   ("uniqueItems", .truth), ("maxContains", .count), ("minContains", .count),
   ("maxProperties", .count), ("minProperties", .count), ("required", .nameList),
   ("dependentRequired", .nameLists), ("enum", .list), ("type", .typeNames),
   ("title", .text), ("description", .text), ("deprecated", .truth), ("readOnly", .truth),
   ("writeOnly", .truth), ("examples", .list), ("format", .text), ("contentMediaType", .text),
   ("contentEncoding", .text), ("contentSchema", .schema), ("definitions", .schemas),
   ("dependencies", .schemasOrNames)]

/-- The demands of draft 2020-12, vocabulary by vocabulary. -/
def draft202012Shapes : List (String × Shape) :=
  [("$id", .textLike "^[^#]*#?$"), ("$schema", .text), ("$ref", .text),
   ("$anchor", .textLike "^[A-Za-z_][-A-Za-z0-9._]*$"), ("$dynamicRef", .text),
   ("$dynamicAnchor", .textLike "^[A-Za-z_][-A-Za-z0-9._]*$"), ("$vocabulary", .truths),
   ("$comment", .text), ("$defs", .schemas),
   ("prefixItems", .schemaList), ("items", .schema), ("contains", .schema),
   ("additionalProperties", .schema), ("properties", .schemas),
   ("patternProperties", .schemasByRegex), ("dependentSchemas", .schemas),
   ("propertyNames", .schema), ("if", .schema), ("then", .schema), ("else", .schema),
   ("allOf", .schemaList), ("anyOf", .schemaList), ("oneOf", .schemaList), ("not", .schema),
   ("unevaluatedItems", .schema), ("unevaluatedProperties", .schema),
   ("type", .typeNames), ("enum", .list), ("multipleOf", .positiveNumber), ("maximum", .number),
   ("exclusiveMaximum", .number), ("minimum", .number), ("exclusiveMinimum", .number),
   ("maxLength", .count), ("minLength", .count), ("pattern", .regex), ("maxItems", .count),
   ("minItems", .count), ("uniqueItems", .truth), ("maxContains", .count),
   ("minContains", .count), ("maxProperties", .count), ("minProperties", .count),
   ("required", .nameList), ("dependentRequired", .nameLists),
   ("title", .text), ("description", .text), ("deprecated", .truth), ("readOnly", .truth),
   ("writeOnly", .truth), ("examples", .list), ("format", .text), ("contentEncoding", .text),
   ("contentMediaType", .text), ("contentSchema", .schema), ("definitions", .schemas),
   ("dependencies", .schemasOrNames),
   ("$recursiveAnchor", .textLike "^[A-Za-z_][-A-Za-z0-9._]*$"), ("$recursiveRef", .text)]

/-- The demands of a dialect. -/
def Dialect.shapes : Dialect → List (String × Shape)
  | draft03 => draft03Shapes
  | draft04 => draft04Shapes
  | draft06 => draft06Shapes
  | draft07 => draft07Shapes
  | draft201909 => draft201909Shapes
  | draft202012 => draft202012Shapes

/-- The types that a schema is of; truth values are schemas since draft-06. -/
def Dialect.schemaTypes (dialect : Dialect) : List String :=
  if dialect.isSince draft06 then ["object", "boolean"] else ["object"]

/-- The keywords that need another one beside them. -/
def Dialect.dependents (dialect : Dialect) : List (String × String) :=
  match dialect with
  | draft03 => [("exclusiveMinimum", "minimum"), ("exclusiveMaximum", "maximum")]
  | draft04 => [("exclusiveMaximum", "maximum"), ("exclusiveMinimum", "minimum")]
  | _ => []

/-! ## Faults of values without schemas inside -/

/-- What is wrong with the form of a schema. -/
inductive FormFault where
  | finding (cause : FindingCause)
  | notRegex (value : Json)

/-- The wording of a fault. -/
def FormFault.message : FormFault → String
  | finding cause => cause.message
  | notRegex value => value.literal ++ " is not a 'regex'"

/-- What a check of a form finds: the first fault, and why the check broke down after it. -/
structure FormCheck where
  fault : Option FormFault := none
  breakdown : Option Breakdown := none

namespace FormCheck

/-- The check that finds a fault, if there is one. -/
def ofFault (fault : Option FormFault) : FormCheck :=
  { fault }

/-- One check after another; nothing comes after a breakdown. -/
def andThen (first second : FormCheck) : FormCheck :=
  match first.breakdown with
  | some _ => first
  | none => ⟨first.fault.or second.fault, second.breakdown⟩

/-- The check of a value that may have one of two forms; the second is tried if the first is found
faulty. -/
def orElse (first : FormCheck) (value : Json) (second : FormCheck) : FormCheck :=
  match first.breakdown, first.fault, second.breakdown, second.fault with
  | some cause, _, _, _ => { breakdown := some cause }
  | none, none, _, _ => {}
  | none, some _, some cause, _ => { breakdown := some cause }
  | none, some _, none, none => {}
  | none, some _, none, some _ => { fault := some (.finding (.noneAccepts value)) }

/-- A check that finds nothing leaves the next one as it is. -/
@[simp]
theorem andThen_empty_left (check : FormCheck) : andThen {} check = check := rfl

/-- Checks one after the other may be grouped in any way. -/
theorem andThen_assoc (first second third : FormCheck) :
    (first.andThen second).andThen third = first.andThen (second.andThen third) := by
  obtain ⟨fault, breakdown⟩ := first
  obtain ⟨fault', breakdown'⟩ := second
  cases breakdown <;> cases breakdown' <;> simp [andThen, Option.or_assoc]

end FormCheck

/-- The fault of a value that is of none of some types. -/
def typesFault? (dialect : Dialect) (names : List String) (value : Json) : Option FormFault :=
  if names.any fun name => hasType dialect name value then none
  else some (.finding (.wrongType value (names.map .str)))

/-- The fault of a value that is not of a type. -/
def typeFault? (dialect : Dialect) (name : String) (value : Json) : Option FormFault :=
  typesFault? dialect [name] value

/-- Whether a value names a type, or several different ones. -/
def isTypeNames : Json → Bool
  | .str name => simpleTypes.contains name
  | .arr names =>
    !names.isEmpty && itemsAreDistinct names &&
      names.all fun
        | .str name => simpleTypes.contains name
        | _ => false
  | _ => false

/-- The fault of items of which two are the same. -/
def repetitionFault? (value : Json) : Option FormFault :=
  match value with
  | .arr items => if itemsAreDistinct items then none else some (.finding (.repeatedItems value))
  | _ => none

/-- The fault of a list with nothing in it. -/
def emptinessFault? (value : Json) : Option FormFault :=
  match value with
  | .arr [] => some (.finding (.shouldBeNonEmpty value))
  | _ => none

/-- The fault of the first item of an array that is not of a type. -/
def itemTypeFault? (dialect : Dialect) (name : String) (value : Json) : Option FormFault :=
  match value with
  | .arr items => items.findSome? (typeFault? dialect name)
  | _ => none

/-- The fault of a list of names: of the list, of an item, or of a repetition. -/
def nameListFault? (dialect : Dialect) (value : Json) : Option FormFault :=
  ((typeFault? dialect "array" value).or (itemTypeFault? dialect "string" value)).or
    (repetitionFault? value)

/-- The fault of a list of names that is to have a name in it. -/
def someNamesFault? (dialect : Dialect) (value : Json) : Option FormFault :=
  (((typeFault? dialect "array" value).or (itemTypeFault? dialect "string" value)).or
    (emptinessFault? value)).or (repetitionFault? value)

/-- The fault of a number that is not above zero. -/
def positiveFault? (value : Json) : Option FormFault :=
  match minimumSteps value (.int 0) true with
  | .ok cause :: _ => some (.finding cause)
  | _ => none

/-- The fault of a number that is below zero. -/
def negativeFault? (value : Json) : Option FormFault :=
  match minimumSteps value (.int 0) false with
  | .ok cause :: _ => some (.finding cause)
  | _ => none

/-- The fault of a text that a pattern does not match. -/
def patternFault? (pattern : String) (value : Json) : Option FormFault :=
  match value with
  | .str s =>
    match patternOccurs pattern s with
    | .ok false => some (.finding (.noPatternMatch value (.str pattern)))
    | _ => none
  | _ => none

/-- The check of a text that is to be a regular expression. -/
def regexCheck (value : Json) : FormCheck :=
  match value with
  | .str s =>
    match SearchPattern.parse s with
    | .ok _ => {}
    | .error .malformed => { fault := some (.notRegex value) }
    | .error fault => { breakdown := some (.pattern fault) }
  | _ => {}

/-- The fault of a value of a shape that has no schemas and no regular expressions inside. -/
def plainFault? (dialect : Dialect) (shape : Shape) (value : Json) : Option FormFault :=
  match shape with
  | .text => typeFault? dialect "string" value
  | .textLike pattern => (typeFault? dialect "string" value).or (patternFault? pattern value)
  | .truth => typeFault? dialect "boolean" value
  | .truths =>
    (typeFault? dialect "object" value).or
      (value.members.findSome? fun member => typeFault? dialect "boolean" member.2)
  | .number => typeFault? dialect "number" value
  | .positiveNumber => (typeFault? dialect "number" value).or (positiveFault? value)
  | .integer => typeFault? dialect "integer" value
  | .count => (typeFault? dialect "integer" value).or (negativeFault? value)
  | .list => typeFault? dialect "array" value
  | .distinctList =>
    ((typeFault? dialect "array" value).or (emptinessFault? value)).or (repetitionFault? value)
  | .typeNames => if isTypeNames value then none else some (.finding (.noneAccepts value))
  | .nameList => nameListFault? dialect value
  | .someNames => someNamesFault? dialect value
  | .nameLists =>
    (typeFault? dialect "object" value).or
      (value.members.findSome? fun member => nameListFault? dialect member.2)
  | _ => none

/-! ## Checks of schemas -/

/-- The check of a value for a type, before another check. -/
def typeCheck (dialect : Dialect) (name : String) (value : Json) (rest : FormCheck) : FormCheck :=
  (FormCheck.ofFault (typeFault? dialect name value)).andThen rest

/-- The check of the names in an object that are to be regular expressions. -/
def nameRegexCheck (value : Json) : FormCheck :=
  value.members.foldl (fun check member => check.andThen (regexCheck (.str member.1))) {}

/-- The check of a list of schemas that is to have a schema in it, given that of its items. -/
def schemaListCheck (dialect : Dialect) (value : Json) (items : FormCheck) : FormCheck :=
  typeCheck dialect "array" value ((FormCheck.ofFault (emptinessFault? value)).andThen items)

/-- The check of a value of draft-03 that is to be of one of some types or a schema, given that as a
schema; the types are listed in front of the schema or behind it. -/
def unionCheck (dialect : Dialect) (before after : List String) (value : Json)
    (schema : FormCheck) : FormCheck :=
  let isOf (names : List String) := names.any fun name => hasType dialect name value
  match schema.breakdown with
  | some cause => if isOf before then {} else { breakdown := some cause }
  | none =>
    if schema.fault.isNone || isOf (before ++ after) then {}
    else
      { fault := some (.finding (.wrongType value
          (before.map .str ++ [.obj [("$ref", .str "#")]] ++ after.map .str))) }

/-- The fault of a schema in which a keyword stands without the one that it needs. -/
def dependentFault? (dialect : Dialect) (members : Json.Members) : Option FormFault :=
  dialect.dependents.findSome? fun (dependent, name) =>
    if has dependent members && !has name members then
      some (.finding (.missingDependency (.str name) dependent))
    else none

/-- The checks of keywords in the order of a table. -/
def inTableOrder (table : List (String × Shape)) (checks : Dictionary FormCheck) : FormCheck :=
  table.foldl (fun check entry => check.andThen ((find? entry.1 checks).getD {})) {}

mutual

/-- The check of a value that is to be a schema: that of its keywords in the order of the table. -/
def schemaCheck (dialect : Dialect) : Json → FormCheck
  | .obj members =>
    (inTableOrder dialect.shapes (memberChecks dialect members)).andThen
      (.ofFault (dependentFault? dialect members))
  | value => .ofFault (typesFault? dialect dialect.schemaTypes value)

/-- The checks of the values of keywords in the table. -/
def memberChecks (dialect : Dialect) : Json.Members → Dictionary FormCheck
  | [] => []
  | (keyword, value) :: rest =>
    match find? keyword dialect.shapes with
    | none => memberChecks dialect rest
    | some shape =>
      let check :=
        match shape with
        | .regex => typeCheck dialect "string" value (regexCheck value)
        | .schema => schemaCheck dialect value
        | .schemaList => schemaListCheck dialect value (itemsCheck dialect value)
        | .schemaOrList =>
          (schemaCheck dialect value).orElse value
            (schemaListCheck dialect value (itemsCheck dialect value))
        | .schemaOrTruth =>
          (FormCheck.ofFault (typeFault? dialect "boolean" value)).orElse value
            (schemaCheck dialect value)
        | .schemas => typeCheck dialect "object" value (partsCheck dialect value)
        | .schemasByRegex =>
          typeCheck dialect "object" value
            ((partsCheck dialect value).andThen (nameRegexCheck value))
        | .schemasOrNames =>
          typeCheck dialect "object" value (choicesCheck dialect (nameListFault? dialect) value)
        | .schemasOrSomeNames =>
          typeCheck dialect "object" value (choicesCheck dialect (someNamesFault? dialect) value)
        | .types =>
          ((FormCheck.ofFault (typesFault? dialect ["string", "array"] value)).andThen
            (typesCheck dialect value)).andThen (.ofFault (repetitionFault? value))
        | .schemaOr other =>
          (unionCheck dialect [] [other] value (schemaCheck dialect value)).andThen
            (if other = "array" then itemsCheck dialect value else {})
        | .schemasOrTexts => typeCheck dialect "object" value (textsCheck dialect value)
        | shape => .ofFault (plainFault? dialect shape value)
      (keyword, check) :: memberChecks dialect rest

/-- The check of the items of an array that are to be schemas. -/
def itemsCheck (dialect : Dialect) : Json → FormCheck
  | .arr items => itemListCheck dialect items
  | _ => {}

/-- The check of items that are to be schemas. -/
def itemListCheck (dialect : Dialect) : List Json → FormCheck
  | [] => {}
  | item :: rest => (schemaCheck dialect item).andThen (itemListCheck dialect rest)

/-- The check of the items of an array that are to be texts or schemas. -/
def typesCheck (dialect : Dialect) : Json → FormCheck
  | .arr items => typeListCheck dialect items
  | _ => {}

/-- The check of items that are to be texts or schemas. -/
def typeListCheck (dialect : Dialect) : List Json → FormCheck
  | [] => {}
  | item :: rest =>
    (unionCheck dialect ["string"] [] item (schemaCheck dialect item)).andThen
      (typeListCheck dialect rest)

/-- The check of the members of an object that are to be schemas. -/
def partsCheck (dialect : Dialect) : Json → FormCheck
  | .obj members => partListCheck dialect members
  | _ => {}

/-- The check of members that are to be schemas. -/
def partListCheck (dialect : Dialect) : Json.Members → FormCheck
  | [] => {}
  | (_, value) :: rest => (schemaCheck dialect value).andThen (partListCheck dialect rest)

/-- The check of the members of an object that are to be schemas or lists of names, given the fault
of a list of names. -/
def choicesCheck (dialect : Dialect) (namesFault? : Json → Option FormFault) : Json → FormCheck
  | .obj members => choiceListCheck dialect namesFault? members
  | _ => {}

/-- The check of members that are to be schemas or lists of names. -/
def choiceListCheck (dialect : Dialect) (namesFault? : Json → Option FormFault) :
    Json.Members → FormCheck
  | [] => {}
  | (_, value) :: rest =>
    ((schemaCheck dialect value).orElse value (.ofFault (namesFault? value))).andThen
      (choiceListCheck dialect namesFault? rest)

/-- The check of the members of an object that are to be texts, lists of texts, or schemas. -/
def textsCheck (dialect : Dialect) : Json → FormCheck
  | .obj members => textListCheck dialect members
  | _ => {}

/-- The check of members that are to be texts, lists of texts, or schemas. -/
def textListCheck (dialect : Dialect) : Json.Members → FormCheck
  | [] => {}
  | (_, value) :: rest =>
    ((unionCheck dialect ["string", "array"] [] value (schemaCheck dialect value)).andThen
      (.ofFault (itemTypeFault? dialect "string" value))).andThen (textListCheck dialect rest)

end

/-- Keywords are checked one by one. -/
theorem memberChecks_cons (dialect : Dialect) (member : String × Json) (rest : Json.Members) :
    memberChecks dialect (member :: rest) =
      memberChecks dialect [member] ++ memberChecks dialect rest := by
  obtain ⟨keyword, value⟩ := member
  rw [memberChecks, memberChecks, memberChecks]
  split <;> rfl

/-- The check of the form of a schema of a dialect. -/
def formCheck (dialect : Dialect) (schema : Json) : FormCheck :=
  schemaCheck dialect schema

end TypeRegistry
