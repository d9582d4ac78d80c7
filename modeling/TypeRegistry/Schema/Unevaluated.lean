import TypeRegistry.Schema.Applicator

/-!
# What a schema leaves over

Since draft 2019-09 a schema can speak about the members and items of an instance that none of its
other keywords evaluates.  A keyword evaluates what it applies schemas to; a combination of schemas
evaluates what those of its schemas evaluate that accept the instance.  The keywords are considered
in a fixed order, and by the rules of the dialect in which the question came up.

Main definitions:

- `evaluatedNames`, `evaluatedPlaces`: the names and the places that a schema evaluates.
- `unevaluatedPropertiesTrace`, `unevaluatedItemsTrace`: the traces of the two keywords.
-/

namespace TypeRegistry

open Dictionary

/-! ## Through other schemas -/

/-- What a keyword evaluates, if it is there. -/
def evaluatedBy {α : Type} (frame : Frame) (evaluated : Part → Trial (List α)) (keyword : String) :
    Trial (List α) :=
  match frame.part? keyword with
  | some part => evaluated part
  | none => .pure []

/-- What the schema that a keyword leads to evaluates. -/
def evaluatedThrough {α : Type} (frame : Frame) (evaluated : Branch → Trial (List α))
    (lead : Lead) : Trial (List α) :=
  (frame.follow lead).withoutName.bind evaluated

/-- What the schema that a reference leads to evaluates; `null` is no reference. -/
def evaluatedByReference {α : Type} (frame : Frame) (evaluated : Branch → Trial (List α))
    (value : Json) : Trial (List α) :=
  match value with
  | .null => .pure []
  | .str ref => evaluatedThrough frame evaluated (.to ref)
  | _ => .ofFault (.breakdown .noMembers)

/-- What those of several schemas evaluate that accept an instance. -/
def evaluatedByAccepting {α : Type} (evaluated : Branch → Trial (List α)) (subject : Json)
    (part : Part) : Trial (List α) :=
  (Trial.ofExcept part.branches).bind (Trial.flatMap fun branch =>
    (branch.enter subject).verdict.bind fun isValid =>
      if isValid then evaluated branch else .pure [])

/-- What a condition evaluates: it itself and what follows it, or what stands against it. -/
def evaluatedByCondition {α : Type} (frame : Frame) (evaluated : Branch → Trial (List α))
    (whole : Branch) (subject : Json) : Trial (List α) :=
  (whole.test subject).verdict.bind fun isValid =>
    if isValid then
      (evaluated whole).bind fun first =>
        (evaluatedBy frame (fun part => evaluated part.whole) "then").bind fun others =>
          .pure (first ++ others)
    else evaluatedBy frame (fun part => evaluated part.whole) "else"

/-- What is kept of those candidates that pass a test. -/
def accepted {α β : Type} (test : α → Trace) (keep : α → β) (candidates : List α) :
    Trial (List β) :=
  Trial.flatMap (fun candidate =>
    (test candidate).verdict.bind fun isValid =>
      .pure (if isValid then [keep candidate] else [])) candidates

/-! ## Names -/

/-- The names among the members of an instance that a schema declares, if it is an object. -/
def declaredNames (schema : Json) (values : Json.Members) : List String :=
  (keys schema.members).filter fun name => has name values

/-- The names that some patterns declare; every pattern is tried on every name. -/
def matchedNames (patterns : Json) (values : Json.Members) : Except Breakdown (List String) := do
  let found ← (keys values).mapM fun name => do
    let occurs ← (← patterns.listed?).mapM fun pattern => occursIn pattern name
    return if occurs.any id then [name] else []
  return found.flatten

/-- The names that a value covers by the rules of draft 2019-09: a truth value all of them, an object
those that it holds. -/
def coveredNames (schema : Json) (values : Json.Members) : List String :=
  match schema with
  | .bool true => keys values
  | _ => declaredNames schema values

/-- The names that `properties` evaluates. -/
def propertyNamesIn (rules : Dialect) (schema : Json) (values : Json.Members) : List String :=
  if rules = .draft202012 then declaredNames schema values else coveredNames schema values

/-- The names that a schema for all other names evaluates: in draft 2020-12 those whose values it
accepts, if it is not `null`. -/
def otherNames (rules : Dialect) (whole : Branch) (values : Json.Members) : Trial (List String) :=
  match rules, whole.schema with
  | .draft202012, .null => .pure []
  | .draft202012, _ => accepted (fun value => whole.enter value.2) (·.1) values
  | _, schema => .pure (coveredNames schema values)

/-- The keywords that evaluate names, in the order in which they are considered. -/
def nameKeywords : List String :=
  ["$ref", "$dynamicRef", "$recursiveRef", "properties", "additionalProperties",
    "unevaluatedProperties", "patternProperties", "dependentSchemas", "allOf", "oneOf", "anyOf",
    "if"]

/-- The names of an instance that a keyword evaluates. -/
def namesOfPart (rules : Dialect) (frame : Frame) (subject : Json) (part : Part) :
    Trial (List String) :=
  let evaluated (branch : Branch) := branch.names rules subject
  let values := subject.members
  match part.keyword with
  | "$ref" => evaluatedByReference frame evaluated part.whole.schema
  | "$dynamicRef" =>
    if rules = .draft202012 then evaluatedByReference frame evaluated part.whole.schema
    else .pure []
  | "$recursiveRef" =>
    if rules = .draft201909 then evaluatedThrough frame evaluated .around else .pure []
  | "properties" => .pure (propertyNamesIn rules part.whole.schema values)
  | "additionalProperties" => otherNames rules part.whole values
  | "unevaluatedProperties" => otherNames rules part.whole values
  | "patternProperties" => .ofExcept (matchedNames part.whole.schema values)
  | "dependentSchemas" =>
    (Trial.ofExcept part.namedBranches).bind (Trial.flatMap fun named =>
      if has named.1 values then evaluated named.2 else .pure [])
  | "allOf" => evaluatedByAccepting evaluated subject part
  | "oneOf" => evaluatedByAccepting evaluated subject part
  | "anyOf" => evaluatedByAccepting evaluated subject part
  | "if" => evaluatedByCondition frame evaluated part.whole subject
  | _ => .pure []

/-- The names of an instance that a schema evaluates. -/
def evaluatedNames (rules : Dialect) (frame : Frame) (subject : Json) : Trial (List String) :=
  Trial.flatMap (evaluatedBy frame (namesOfPart rules frame subject)) nameKeywords

/-- The names of members, each as often as a schema finds something wrong with the member. -/
def namesFoundWrong (whole : Branch) (values : Json.Members) : Trial (List String) :=
  Trial.flatMap (fun (value : String × Json) =>
    (whole.enter value.2).allFindings.bind fun findings =>
      .pure (findings.map fun _ => value.1)) values

/-- The trace of `unevaluatedProperties`. -/
def unevaluatedPropertiesTrace (frame : Frame) (whole : Branch) (subject : Json) : Trace :=
  match subject with
  | .obj values =>
    .ofTrial (evaluatedNames frame.dialect frame subject) fun evaluated =>
      .ofTrial (namesFoundWrong whole (values.filter (!evaluated.contains ·.1))) fun wrong =>
        frame.own subject
          (findIf (!wrong.isEmpty)
            (match whole.schema with
              | .bool false => .unevaluatedNames (sortedNames wrong)
              | _ => .invalidNames wrong))
  | _ => {}

/-! ## Items -/

/-- The places of an instance that a keyword evaluates. -/
def placesOfPart (rules : Dialect) (frame : Frame) (items : List Json) (subject : Json)
    (part : Part) : Trial (List Nat) :=
  let evaluated (branch : Branch) := branch.places rules subject
  match part.keyword with
  | "$ref" => evaluatedByReference frame evaluated part.whole.schema
  | "$dynamicRef" => evaluatedByReference frame evaluated part.whole.schema
  | "$recursiveRef" => evaluatedThrough frame evaluated .around
  | "prefixItems" => .ofExcept (part.whole.schema.count?.map List.range)
  | "contains" => accepted (fun item => part.whole.test item.1) (·.2) items.zipIdx
  | "unevaluatedItems" => accepted (fun item => part.whole.test item.1) (·.2) items.zipIdx
  | "allOf" => evaluatedByAccepting evaluated subject part
  | "oneOf" => evaluatedByAccepting evaluated subject part
  | "anyOf" => evaluatedByAccepting evaluated subject part
  | "if" => evaluatedByCondition frame evaluated part.whole subject
  | _ => .pure []

/-- The places of an instance that some keywords evaluate, one after the other. -/
def placesOf (rules : Dialect) (frame : Frame) (items : List Json) (subject : Json)
    (keywords : List String) : Trial (List Nat) :=
  Trial.flatMap (evaluatedBy frame (placesOfPart rules frame items subject)) keywords

/-- The keywords that evaluate places by testing schemas, in the order in which they are considered.
-/
def testingKeywords : List String :=
  ["if", "contains", "unevaluatedItems", "allOf", "oneOf", "anyOf"]

/-- The places of an array that a schema evaluates.  In draft 2020-12 `items` evaluates all of them;
before, it does so if it is one schema or if `additionalItems` stands beside it. -/
def evaluatedPlaces (rules : Dialect) (frame : Frame) (items : List Json) (subject : Json) :
    Trial (List Nat) :=
  let places := placesOf rules frame items subject
  let all := List.range items.length
  if rules = .draft202012 then
    if has "items" frame.members then .pure all
    else places (["$ref", "$dynamicRef", "prefixItems"] ++ testingKeywords)
  else
    (places ["$ref", "$recursiveRef"]).bind fun first =>
      match find? "items" frame.members with
      | none => (places testingKeywords).bind fun others => .pure (first ++ others)
      | some schemas =>
        if schemas.isObject || has "additionalItems" frame.members then .pure all
        else
          (Trial.ofExcept schemas.count?).bind fun before =>
            (places testingKeywords).bind fun others =>
              .pure (first ++ List.range before ++ others)

/-- The trace of `unevaluatedItems`. -/
def unevaluatedItemsTrace (frame : Frame) (subject : Json) : Trace :=
  match subject with
  | .arr items =>
    .ofTrial (evaluatedPlaces frame.dialect frame items subject) fun evaluated =>
      let extra := (items.zipIdx.filter fun item => !evaluated.contains item.2).map (·.1)
      frame.own subject (findIf (!extra.isEmpty) (.unevaluatedItems extra))
  | _ => {}

end TypeRegistry
