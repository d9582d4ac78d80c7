import TypeRegistry.Json.Literal
import TypeRegistry.Json.Order
import TypeRegistry.Number.Multiple
import TypeRegistry.Regex.Reader
import TypeRegistry.Schema.Dialect

/-!
# Assertions

The keywords of a schema that speak about an instance alone, without further schemas.  Each passes
on instances of a kind it does not speak about, whatever its value.  What a keyword does comes about
in steps, each of which finds something wrong or breaks down.

Main definitions:

- `hasType`: whether an instance is of a named type.
- `FindingCause`, `FindingCause.message`: what a schema can find wrong, and how that is said.
- `assertionSteps`: what a keyword finds wrong with an instance.
-/

namespace TypeRegistry

open Dictionary

/-! ## Types -/

/-- The names of the types of JSON Schema. -/
def simpleTypes : List String :=
  ["array", "boolean", "integer", "null", "number", "object", "string"]

/-- Whether an instance is of a kind of JSON value.  Since draft-06 a whole double is an integer;
truth values are no numbers. -/
def isOfKind (dialect : Dialect) (name : String) : Json → Bool
  | .null => name == "null"
  | .bool _ => name == "boolean"
  | .int _ => name == "integer" || name == "number"
  | .float x => name == "number" || (name == "integer" && dialect.countsWholeDoubles && x.isWhole)
  | .str _ => name == "string"
  | .arr _ => name == "array"
  | .obj _ => name == "object"

/-- Whether an instance is of a named type.  In draft-03 everything is of the type `any`. -/
def hasType (dialect : Dialect) (name : String) (subject : Json) : Bool :=
  isOfKind dialect name subject || (dialect = .draft03 && name == "any")

/-- Whether a dialect knows a type. -/
def Dialect.knowsType (dialect : Dialect) (name : String) : Bool :=
  simpleTypes.contains name || (dialect = .draft03 && name == "any")

/-- Whether an instance is of a type; for an unknown type there is a cause of its own. -/
def isOfType (dialect : Dialect) (unknown : Breakdown) (subject : Json) :
    Json → Except Breakdown Bool
  | .str name =>
    if dialect.knowsType name then .ok (hasType dialect name subject) else .error unknown
  | .arr _ => .error .unfitKind
  | .obj _ => .error .unfitKind
  | _ => .error unknown

/-- Whether an instance is of one of some types, the first of which that it is of settles it. -/
def isOfSomeType (dialect : Dialect) (unknown : Breakdown) (subject : Json) :
    List Json → Except Breakdown Bool
  | [] => .ok false
  | type :: rest => do
    if ← isOfType dialect unknown subject type then return true
    else isOfSomeType dialect unknown subject rest

/-- The types in the value of a keyword: one name, or a list. -/
def typesIn : Json → Except Breakdown (List Json)
  | .str name => .ok [.str name]
  | value => value.listed?

/-- Whether an instance is of one of the types that a schema declares, if it declares any. -/
def matchesDeclaredType (dialect : Dialect) (members : Json.Members) (subject : Json) :
    Except Breakdown Bool :=
  match find? "type" members with
  | some types => do isOfSomeType dialect .unknownDeclaredType subject (← typesIn types)
  | none => .ok false

/-! ## Causes -/

/-- What a schema can find wrong with an instance. -/
inductive FindingCause where
  | wrongType (subject : Json) (types : List Json)
  | missingName (name : Json)
  | missingDependency (name : Json) (dependent : String)
  | additionalNames (names : List String)
  | unmatchedNames (names patterns : List String)
  | unevaluatedNames (names : List String)
  | invalidNames (names : List String)
  | additionalItems (items : List Json)
  | unevaluatedItems (items : List Json)
  | extraItems (limit count : Nat) (rest : Json)
  | refused (subject : Json)
  | notEnumerated (subject values : Json)
  | notConst (const : Json)
  | belowMinimum (subject limit : Json)
  | aboveMaximum (subject limit : Json)
  | notAboveMinimum (subject limit : Json)
  | notBelowMaximum (subject limit : Json)
  | notMultiple (subject factor : Json)
  | shouldBeNonEmpty (subject : Json)
  | shouldBeEmpty (subject : Json)
  | tooShort (subject : Json)
  | tooLong (subject : Json)
  | tooFewProperties (subject : Json)
  | tooManyProperties (subject : Json)
  | repeatedItems (subject : Json)
  | noPatternMatch (subject pattern : Json)
  | noItemValid (subject : Json)
  | noItemMatches (subject : Json)
  | tooFewMatch (limit : Json) (count : Nat)
  | tooManyMatch (limit : Json)
  | noneAccepts (subject : Json)
  | severalAccept (subject : Json) (schemas : List Json)
  | forbidden (subject schema : Json)
  | disallowed (subject schema : Json)

/-- Values as a list in a sentence. -/
def listText (values : List Json) : String :=
  Text.joinWith ", " (values.map Json.literal)

/-- Names as a list in a sentence. -/
def nameListText (names : List String) : String :=
  Text.joinWith ", " (names.map Text.quoted)

/-- A list of a number of things of which something is said. -/
def saidOf (list : String) (count : Nat) (predicate : String) : String :=
  list ++ (if count = 1 then " was " else " were ") ++ predicate

/-- A list of a number of things that were not expected. -/
def unexpectedText (list : String) (count : Nat) : String :=
  saidOf list count "unexpected"

/-- The wording of a cause. -/
def FindingCause.message : FindingCause → String
  | wrongType subject types => subject.literal ++ " is not of type " ++ listText types
  | missingName name => name.literal ++ " is a required property"
  | missingDependency name dependent =>
    name.literal ++ " is a dependency of " ++ Text.quoted dependent
  | additionalNames names =>
    "Additional properties are not allowed (" ++
      unexpectedText (nameListText names) names.length ++ ")"
  | unmatchedNames names patterns =>
    nameListText names ++ (if names.length = 1 then " does" else " do") ++
      " not match any of the regexes: " ++ nameListText patterns
  | unevaluatedNames names =>
    "Unevaluated properties are not allowed (" ++
      unexpectedText (nameListText names) names.length ++ ")"
  | invalidNames names =>
    "Unevaluated properties are not valid under the given schema (" ++
      saidOf (nameListText names) names.length "unevaluated and invalid" ++ ")"
  | additionalItems items =>
    "Additional items are not allowed (" ++ unexpectedText (listText items) items.length ++ ")"
  | unevaluatedItems items =>
    "Unevaluated items are not allowed (" ++ unexpectedText (listText items) items.length ++ ")"
  | extraItems limit count rest =>
    "Expected at most " ++ Text.ofNat limit ++ (if limit = 1 then " item" else " items") ++
      " but found " ++ Text.ofNat count ++ " extra: " ++ rest.literal
  | refused subject => "False schema does not allow " ++ subject.literal
  | notEnumerated subject values => subject.literal ++ " is not one of " ++ values.literal
  | notConst const => const.literal ++ " was expected"
  | belowMinimum subject limit =>
    subject.literal ++ " is less than the minimum of " ++ limit.literal
  | aboveMaximum subject limit =>
    subject.literal ++ " is greater than the maximum of " ++ limit.literal
  | notAboveMinimum subject limit =>
    subject.literal ++ " is less than or equal to the minimum of " ++ limit.literal
  | notBelowMaximum subject limit =>
    subject.literal ++ " is greater than or equal to the maximum of " ++ limit.literal
  | notMultiple subject factor =>
    subject.literal ++ " is not a multiple of " ++ factor.literal
  | shouldBeNonEmpty subject => subject.literal ++ " should be non-empty"
  | shouldBeEmpty subject => subject.literal ++ " is expected to be empty"
  | tooShort subject => subject.literal ++ " is too short"
  | tooLong subject => subject.literal ++ " is too long"
  | tooFewProperties subject => subject.literal ++ " does not have enough properties"
  | tooManyProperties subject => subject.literal ++ " has too many properties"
  | repeatedItems subject => subject.literal ++ " has non-unique elements"
  | noPatternMatch subject pattern =>
    subject.literal ++ " does not match " ++ pattern.literal
  | noItemValid subject =>
    "None of " ++ subject.literal ++ " are valid under the given schema"
  | noItemMatches subject =>
    subject.literal ++ " does not contain items matching the given schema"
  | tooFewMatch limit count =>
    "Too few items match the given schema (expected at least " ++ limit.literal ++ " but only " ++
      Text.ofNat count ++ " matched)"
  | tooManyMatch limit =>
    "Too many items match the given schema (expected at most " ++ limit.literal ++ ")"
  | noneAccepts subject => subject.literal ++ " is not valid under any of the given schemas"
  | severalAccept subject schemas =>
    subject.literal ++ " is valid under each of " ++ listText schemas
  | forbidden subject schema =>
    subject.literal ++ " should not be valid under " ++ schema.literal
  | disallowed subject schema => schema.literal ++ " is disallowed for " ++ subject.literal

/-- Whether a cause comes from a choice between schemas, and so says less than others. -/
def FindingCause.isChoice : FindingCause → Bool
  | noneAccepts _ => true
  | severalAccept _ _ => true
  | _ => false

/-! ## Distinct items -/

/-- Whether no two of some items are the same data. -/
def allDiffer : List Json → Bool
  | [] => true
  | item :: rest => rest.all (fun other => !Json.sameData item other) && allDiffer rest

/-- Whether no two neighbours among some items are the same data. -/
def neighboursDiffer : List Json → Bool
  | item :: other :: rest => !Json.sameData item other && neighboursDiffer (other :: rest)
  | _ => true

/-- Whether items count as distinct.  Items that can be sorted are compared with their neighbours in
the order, in which arrays that differ in a truth value and a number stand side by side; items among
which there is a truth value, and any others that cannot be sorted, are compared with one another.
-/
def itemsAreDistinct (items : List Json) : Bool :=
  if items.any Json.isTruth then allDiffer items
  else
    match Json.sorted? items with
    | some sorted => neighboursDiffer sorted
    | none => allDiffer items

/-! ## Steps -/

/-- What comes about when a keyword is evaluated: something is found, or the evaluation breaks down.
-/
abbrev Step := Except Breakdown FindingCause

/-- The steps that a list gives, or the one that breaks down. -/
def stepsOf : Except Breakdown (List Step) → List Step
  | .ok steps => steps
  | .error cause => [.error cause]

/-- The one finding, if a condition holds. -/
def findIf (condition : Bool) (cause : FindingCause) : List Step :=
  if condition then [.ok cause] else []

/-- The one finding, if a condition holds, unless there is no telling whether it does. -/
def findWhere (condition : Except Breakdown Bool) (cause : FindingCause) : List Step :=
  stepsOf (condition.map fun holds => findIf holds cause)

/-! ## Keywords -/

/-- What a bound on numbers finds, given the order that is wrong. -/
def numberSteps (subject limit : Json) (isWrong : Exact → Exact → Bool) (cause : FindingCause) :
    List Step :=
  match Json.number? subject with
  | some x => findWhere (limit.bound?.map (isWrong x)) cause
  | none => []

/-- What a lower bound on numbers finds. -/
def minimumSteps (subject limit : Json) (isExclusive : Bool) : List Step :=
  if isExclusive then numberSteps subject limit Exact.le (.notAboveMinimum subject limit)
  else numberSteps subject limit Exact.lt (.belowMinimum subject limit)

/-- What an upper bound on numbers finds. -/
def maximumSteps (subject limit : Json) (isExclusive : Bool) : List Step :=
  if isExclusive then
    numberSteps subject limit (fun x bound => bound.le x) (.notBelowMaximum subject limit)
  else numberSteps subject limit (fun x bound => bound.lt x) (.aboveMaximum subject limit)

/-- Whether a bound is exclusive because a truth value beside it says so, as it could before
draft-06. -/
def isExclusive (dialect : Dialect) (members : Json.Members) (keyword : String) : Bool :=
  !dialect.isSince .draft06 && ((find? keyword members).map Json.isInhabited).getD false

/-- What becomes of the division of a number by a factor. -/
def divisibility? (subject factor : Json) : Except Breakdown Divisibility :=
  match subject, factor with
  | .int n, .float y => .ok (((Double.ofInt? n).map (·.divisibility y)).getD .tooLarge)
  | .float x, .float y => .ok (x.divisibility y)
  | .int n, .int divisor => .ok (.ofInts n divisor)
  | .float x, .int divisor => .ok (x.divisibilityByInt divisor)
  | .int n, .bool b => .ok (.ofInts n (if b then 1 else 0))
  | .float x, .bool b => .ok (x.divisibilityByInt (if b then 1 else 0))
  | _, _ => .error .unfitKind

/-- What a factor finds in a number that is no multiple of it. -/
def multipleSteps (subject factor : Json) : List Step :=
  if (Json.number? subject).isNone then []
  else
    match divisibility? subject factor with
    | .error cause => [.error cause]
    | .ok .whole => []
    | .ok .notWhole => [.ok (.notMultiple subject factor)]
    | .ok .zeroDivisor => [.error .zeroFactor]
    | .ok .tooLarge => [.error .numberTooLarge]
    | .ok .undefinedQuotient => [.error .undefinedQuotient]

/-- What a lower limit on a count finds; a limit of one asks for something at all. -/
def atLeastSteps (subject limit : Json) (count : Nat) (cause : FindingCause) : List Step :=
  stepsOf (limit.bound?.map fun bound =>
    findIf ((Exact.ofInt count).lt bound)
      (if bound.eq (Exact.ofInt 1) then .shouldBeNonEmpty subject else cause))

/-- What an upper limit on a count finds; a limit of zero asks for nothing at all. -/
def atMostSteps (subject limit : Json) (count : Nat) (cause : FindingCause) : List Step :=
  stepsOf (limit.bound?.map fun bound =>
    findIf (bound.lt (Exact.ofInt count))
      (if bound.eq (Exact.ofInt 0) then .shouldBeEmpty subject else cause))

/-- Whether a value is the name of a member; an array or an object cannot be asked for. -/
def namesMember (members : Json.Members) : Json → Except Breakdown Bool
  | .str name => .ok (has name members)
  | .arr _ => .error .unfitKind
  | .obj _ => .error .unfitKind
  | _ => .ok false

/-- What names find of which every one should be that of a member. -/
def missingSteps (members : Json.Members) (cause : Json → FindingCause)
    (names : Except Breakdown (List Json)) : List Step :=
  stepsOf (names.map fun names => names.flatMap fun name =>
    findWhere ((namesMember members name).map (!·)) (cause name))

/-- Whether a pattern occurs in a text. -/
def occursIn (pattern : Json) (s : String) : Except Breakdown Bool :=
  match pattern with
  | .str pattern => (patternOccurs pattern s).mapError .pattern
  | _ => .error .unfitKind

/-- What a keyword that stands alone finds wrong with an instance, in a schema whose members are
given too; nothing if it is no such keyword. -/
def assertionSteps (dialect : Dialect) (members : Json.Members) (keyword : String)
    (value subject : Json) : List Step :=
  match keyword, subject with
  | "type", _ =>
    stepsOf (do
      let types ← typesIn value
      return findIf (!(← isOfSomeType dialect .unknownType subject types))
        (.wrongType subject types))
  | "required", .obj named => missingSteps named .missingName value.listed?
  | "enum", _ =>
    findWhere (value.listed?.map fun values => !values.any fun each => Json.sameData each subject)
      (.notEnumerated subject value)
  | "const", _ => findIf (!Json.sameData subject value) (.notConst value)
  | "minimum", _ => minimumSteps subject value (isExclusive dialect members "exclusiveMinimum")
  | "maximum", _ => maximumSteps subject value (isExclusive dialect members "exclusiveMaximum")
  | "exclusiveMinimum", _ => minimumSteps subject value true
  | "exclusiveMaximum", _ => maximumSteps subject value true
  | "multipleOf", _ => multipleSteps subject value
  | "divisibleBy", _ => multipleSteps subject value
  | "minLength", .str s => atLeastSteps subject value s.length (.tooShort subject)
  | "maxLength", .str s => atMostSteps subject value s.length (.tooLong subject)
  | "minItems", .arr items => atLeastSteps subject value items.length (.tooShort subject)
  | "maxItems", .arr items => atMostSteps subject value items.length (.tooLong subject)
  | "minProperties", .obj named =>
    atLeastSteps subject value named.length (.tooFewProperties subject)
  | "maxProperties", .obj named =>
    atMostSteps subject value named.length (.tooManyProperties subject)
  | "uniqueItems", .arr items =>
    findIf (value.isInhabited && !itemsAreDistinct items) (.repeatedItems subject)
  | "pattern", .str s =>
    findWhere ((occursIn value s).map (!·)) (.noPatternMatch subject value)
  | "dependentRequired", .obj named =>
    stepsOf (value.named?.map fun dependents => dependents.flatMap fun (name, names) =>
      if has name named then missingSteps named (.missingDependency · name) names.listed? else [])
  | _, _ => []

end TypeRegistry
