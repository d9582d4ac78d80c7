import TypeRegistry.Schema.Trace

/-!
# Applicators

The keywords of a schema that apply other schemas, to the instance or to parts of it.  What a
keyword does is said here in terms of what the schemas in its value do, which is given: a schema is
entered from the schema around it, or it is tested on its own.

Main definitions:

- `Branch`: a schema with what it does on an instance.
- `Part`, `Frame`: a keyword with the schemas in its value, and the schema that it stands in.
- `Part.branches`, `Part.namedBranches`: the schemas in a list and those under names.
- `referenceTrace`, `propertiesTrace` and the other traces: what each keyword does.
-/

namespace TypeRegistry

open Dictionary

/-! ## Schemas and keywords -/

/-- A schema with what it does on an instance: its trace when it is entered from the schema around
it, its trace when it is tested on its own, and the names and places in the instance that it
evaluates by the rules of a dialect. -/
structure Branch where
  schema : Json
  enter : Json → Trace
  test : Json → Trace
  names : Dialect → Json → Trial (List String)
  places : Dialect → Json → Trial (List Nat)

/-- A keyword with the schemas in its value: the value itself, what it is a list of, and its
members. -/
structure Part where
  keyword : String
  whole : Branch
  items : List Branch
  named : List (String × Branch)

/-- The schemas in a value that is used as a list. -/
def Part.branches (part : Part) : Except Breakdown (List Branch) :=
  part.whole.schema.listed?.map fun _ => part.items

/-- The schemas in a value that is used as an object. -/
def Part.namedBranches (part : Part) : Except Breakdown (List (String × Branch)) :=
  part.whole.schema.named?.map fun _ => part.named

/-- Where a keyword leads elsewhere: to what a reference names, or around a recursion. -/
inductive Lead where
  | to (ref : String)
  | around

/-- A schema that is evaluated: its dialect, its members, its keywords, and what it is led to. -/
structure Frame where
  dialect : Dialect
  members : Json.Members
  parts : List Part
  follow : Lead → Trial Branch

/-- A keyword of a schema. -/
def Frame.part? (frame : Frame) (keyword : String) : Option Part :=
  frame.parts.find? fun part => part.keyword = keyword

/-- The trace of a branch on a part of an instance, seen from the whole.  What a schema that refuses
everything finds keeps the place of the whole. -/
def Branch.enterAt (branch : Branch) (step : PathStep) (part : Json) : Trace :=
  match branch.schema with
  | .bool _ => branch.enter part
  | _ => (branch.enter part).under step

/-! ## Findings -/

/-- A finding that a schema makes itself on an instance, with what is found inside it. -/
def Frame.finding (frame : Frame) (subject : Json) (cause : FindingCause)
    (context : List Finding) : Trace :=
  .ofFindings [.mk cause [] (matchesDeclaredType frame.dialect frame.members subject) context]

/-- The trace of steps that a schema takes itself on an instance. -/
def Frame.own (frame : Frame) (subject : Json) (steps : List Step) : Trace :=
  inTurn (fun step => .ofExcept step fun cause => frame.finding subject cause []) steps

/-! ## References -/

/-- The trace of a keyword whose value is a reference. -/
def referenceTrace (frame : Frame) (value subject : Json) : Trace :=
  match value with
  | .str ref => .ofTrial (frame.follow (.to ref)) fun branch => branch.enter subject
  | _ => .ofBreakdown .noMembers

/-- The trace of a recursion. -/
def recursionTrace (frame : Frame) (subject : Json) : Trace :=
  .ofTrial (frame.follow .around).withoutName fun branch => branch.enter subject

/-! ## Members -/

/-- The trace of `properties`: of every declared property that the instance has. -/
def propertiesTrace (part : Part) (subject : Json) : Trace :=
  match subject with
  | .obj values =>
    .ofExcept part.namedBranches (inTurn fun (name, branch) =>
      match find? name values with
      | some value => branch.enterAt (.name name) value
      | none => {})
  | _ => {}

/-- The finding of draft-03 that a property is missing which says that it is required. -/
def requiredTrace (frame : Frame) (name : String) (schema subject : Json) : Trace :=
  .ofExcept schema.named? fun members =>
    if ((find? "required" members).map Json.isInhabited).getD false then
      (frame.finding subject (.missingName (.str name)) []).under (.name "required")
    else {}

/-- The trace of `properties` in draft-03, where a property itself says whether it is required. -/
def requiringPropertiesTrace (frame : Frame) (part : Part) (subject : Json) : Trace :=
  match subject with
  | .obj values =>
    .ofExcept part.namedBranches (inTurn fun (name, branch) =>
      match find? name values with
      | some value => branch.enterAt (.name name) value
      | none => requiredTrace frame name branch.schema subject)
  | _ => {}

/-- The trace of `patternProperties`: of every pattern on every property whose name it matches. -/
def patternPropertiesTrace (part : Part) (subject : Json) : Trace :=
  match subject with
  | .obj values =>
    .ofExcept part.namedBranches (inTurn fun (pattern, branch) =>
      inTurn (fun (name, value) =>
        .ofExcept (occursIn (.str pattern) name) fun occurs =>
          if occurs then branch.enterAt (.name name) value else {}) values)
  | _ => {}

/-- The patterns of `patternProperties`, which have to be texts. -/
def patternsOf (members : Json.Members) : Except Breakdown (List String) :=
  match find? "patternProperties" members with
  | none => .ok []
  | some patterns => do
    (← patterns.listed?).mapM fun
      | .str pattern => .ok pattern
      | _ => .error .unfitKind

/-- Whether a schema declares a name, by name or by pattern.  The patterns are taken as the
alternatives of one; if that is empty, it declares nothing. -/
def isDeclared (properties : Json) (pattern name : String) : Except Breakdown Bool := do
  if ← properties.holds? name then return true
  else if pattern.isEmpty then return false
  else occursIn (.str pattern) name

/-- The names of an object that its schema does not declare. -/
def undeclaredNames (members values : Json.Members) : Except Breakdown (List String) := do
  let properties := (find? "properties" members).getD (.obj [])
  let pattern := Text.joinWith "|" (← patternsOf members)
  (keys values).filterM fun name => do return !(← isDeclared properties pattern name)

/-- Strings in ascending order of code points. -/
def sortedNames (names : List String) : List String :=
  (sortByName (names.map fun name => (name, ()))).map (·.1)

/-- The finding that an object has names which its schema does not declare. -/
def undeclaredCause (members : Json.Members) (names : List String) :
    Except Breakdown FindingCause := do
  if has "patternProperties" members then
    return .unmatchedNames (sortedNames names) (sortedNames (← patternsOf members))
  else return .additionalNames (sortedNames names)

/-- The trace of `additionalProperties` on the names that a schema does not declare: a schema is
evaluated on each, and what is nothing refuses them. -/
def additionalPropertiesTrace (frame : Frame) (whole : Branch) (subject : Json) : Trace :=
  match subject with
  | .obj values =>
    .ofExcept (undeclaredNames frame.members values) fun names =>
      if whole.schema.isObject then
        inTurn (fun (name, value) =>
          if names.contains name then whole.enterAt (.name name) value else {}) values
      else if whole.schema.isInhabited || names.isEmpty then {}
      else frame.own subject [undeclaredCause frame.members names]
  | _ => {}

/-- The trace of `propertyNames`: of a schema on every name. -/
def propertyNamesTrace (whole : Branch) (subject : Json) : Trace :=
  inTurn (fun name => whole.enter (.str name)) (keys subject.members)

/-- The trace of `dependentSchemas`: of the schema under every name that the instance has. -/
def dependentSchemasTrace (part : Part) (subject : Json) : Trace :=
  match subject with
  | .obj values =>
    .ofExcept part.namedBranches (inTurn fun (name, branch) =>
      if has name values then branch.enter subject else {})
  | _ => {}

/-- The trace of what a name brings with it in draft-03: a schema, a name, or names. -/
def earlyDependencyTrace (frame : Frame) (values : Json.Members) (name : String) (branch : Branch)
    (subject : Json) : Trace :=
  match branch.schema with
  | .obj _ => branch.enter subject
  | .str other =>
    frame.own subject (missingSteps values (.missingDependency · name) (.ok [.str other]))
  | others => frame.own subject (missingSteps values (.missingDependency · name) others.listed?)

/-- The trace of what a name brings with it: names or a schema. -/
def dependencyTrace (frame : Frame) (values : Json.Members) (name : String) (branch : Branch)
    (subject : Json) : Trace :=
  match branch.schema with
  | .arr others => frame.own subject (missingSteps values (.missingDependency · name) (.ok others))
  | _ => branch.enter subject

/-- The trace of `dependencies`: what the names that the instance has bring with them. -/
def dependenciesTrace (frame : Frame) (part : Part) (subject : Json) : Trace :=
  match subject with
  | .obj values =>
    .ofExcept part.namedBranches (inTurn fun (name, branch) =>
      if !has name values then {}
      else if frame.dialect = .draft03 then earlyDependencyTrace frame values name branch subject
      else dependencyTrace frame values name branch subject)
  | _ => {}

/-! ## Items -/

/-- The findings of `items: false` in draft 2020-12 behind a number of items. -/
def extraItems (limit : Nat) : List Json → List Step
  | [] => []
  | [item] => [.ok (.extraItems limit 1 item)]
  | items => [.ok (.extraItems limit items.length (.arr items))]

/-- The trace of schemas on the items of an array, one for each. -/
def tupleTrace (branches : List Branch) (items : List Json) : Trace :=
  inTurn (fun (branch, item, place) => branch.enterAt (.place place) item)
    (branches.zip items.zipIdx)

/-- The trace of a schema on the items of an array from a place on. -/
def everyItemTrace (place : Nat) (branch : Branch) (items : List Json) : Trace :=
  inTurn (fun (item, place) => branch.enterAt (.place place) item) (items.zipIdx place)

/-- The number of schemas in the value of a keyword that holds a list of them; none if the keyword
is missing. -/
def tupleLength (members : Json.Members) (keyword : String) : Except Breakdown Nat :=
  match find? keyword members with
  | some schemas => schemas.count?
  | none => .ok 0

/-- The trace of `items` in draft 2020-12, on the items behind those of `prefixItems`; a refusal
refuses all of them at once. -/
def remainingItemsTrace (frame : Frame) (whole : Branch) (items : List Json) (subject : Json) :
    Trace :=
  .ofExcept (tupleLength frame.members "prefixItems") fun before =>
    let extra := items.drop before
    match whole.schema with
    | .bool false => frame.own subject (extraItems before extra)
    | _ => everyItemTrace before whole extra

/-- Whether the value of `items` is one schema for every item, and not a list of schemas, one for
each. -/
def isForEveryItem (dialect : Dialect) (schema : Json) : Bool :=
  match schema with
  | .obj _ => true
  | .arr _ => false
  | _ => dialect.isSince .draft06

/-- The trace of `items`. -/
def itemsTrace (frame : Frame) (part : Part) (subject : Json) : Trace :=
  match subject with
  | .arr items =>
    if frame.dialect = .draft202012 then remainingItemsTrace frame part.whole items subject
    else if isForEveryItem frame.dialect part.whole.schema then everyItemTrace 0 part.whole items
    else .ofExcept part.branches fun branches => tupleTrace branches items
  | _ => {}

/-- The trace of `additionalItems` on the items behind those that a list of schemas speaks about. -/
def additionalItemsTrace (frame : Frame) (whole : Branch) (subject : Json) : Trace :=
  match subject, find? "items" frame.members with
  | .arr items, some (.arr schemas) => behind items schemas.length
  | .arr _, none => {}
  | .arr _, some (.obj _) => {}
  | .arr items, some other => .ofExcept other.count? (behind items)
  | _, _ => {}
where
  /-- The trace on the items behind a number of them. -/
  behind (items : List Json) (before : Nat) : Trace :=
    let extra := items.drop before
    if whole.schema.isObject then everyItemTrace before whole extra
    else if whole.schema.isInhabited || extra.isEmpty then {}
    else frame.own subject [.ok (.additionalItems extra)]

/-- The trace of `prefixItems`. -/
def prefixItemsTrace (part : Part) (subject : Json) : Trace :=
  match subject with
  | .arr items => .ofExcept part.branches fun branches => tupleTrace branches items
  | _ => {}

/-- Whether one of some items is valid under a schema. -/
def someItemValid (branch : Branch) : List Json → Trial Bool
  | [] => .pure false
  | item :: rest =>
    (branch.test item).verdict.bind fun isValid =>
      if isValid then .pure true else someItemValid branch rest

/-- Whether a number of items is more than a limit, if there is one. -/
def exceeds (limit : Option Json) (count : Nat) : Except Breakdown Bool :=
  match limit with
  | some limit => limit.bound?.map fun bound => bound.lt (Exact.ofInt count)
  | none => .ok false

/-- How many of some items are valid under a schema, given the number so far; none as soon as there
are more than a limit. -/
def countValid (branch : Branch) (limit : Option Json) : (sofar : Nat) → List Json →
    Trial (Option Nat)
  | sofar, [] => .pure (some sofar)
  | sofar, item :: rest =>
    (branch.test item).verdict.bind fun isValid =>
      if !isValid then countValid branch limit sofar rest
      else
        (Trial.ofExcept (exceeds limit (sofar + 1))).bind fun isOver =>
          if isOver then .pure none else countValid branch limit (sofar + 1) rest

/-- What the number of items that are valid under a schema finds. -/
def containedSteps (members : Json.Members) (subject : Json) : Option Nat → List Step
  | none => [.ok (.tooManyMatch ((find? "maxContains" members).getD .null))]
  | some count =>
    let least := (find? "minContains" members).getD (.int 1)
    stepsOf (least.bound?.map fun bound =>
      findIf ((Exact.ofInt count).lt bound)
        (if count = 0 then .noItemMatches subject else .tooFewMatch least count))

/-- The trace of `contains`: some item is valid, or since draft 2019-09 a number of items within
limits. -/
def containsTrace (frame : Frame) (whole : Branch) (subject : Json) : Trace :=
  match subject with
  | .arr items =>
    if frame.dialect.isSince .draft201909 then
      .ofExcept (frame.dialect.adopt whole.schema) fun _ =>
        .ofTrial (countValid whole (find? "maxContains" frame.members) 0 items) fun count =>
          frame.own subject (containedSteps frame.members subject count)
    else
      .ofTrial (someItemValid whole items) fun found =>
        frame.own subject (findIf (!found) (.noItemValid subject))
  | _ => {}

/-! ## Combinations -/

/-- The trace of `allOf`: of every branch. -/
def allTrace (part : Part) (subject : Json) : Trace :=
  .ofExcept part.branches (inTurn fun branch => branch.enter subject)

/-- The trace of `anyOf` from some branch on, given what the branches before found. -/
def anyTrace (frame : Frame) (subject : Json) (context : List Finding) : List Branch → Trace
  | [] => frame.finding subject (.noneAccepts subject) context
  | branch :: rest =>
    .ofTrial (branch.enter subject).allFindings fun findings =>
      if findings.isEmpty then {} else anyTrace frame subject (context ++ findings) rest

/-- The trace of the branches of `oneOf` behind the first that accepts, given those that accept
too. -/
def othersTrace (frame : Frame) (subject first : Json) (accepting : List Json) :
    List Branch → Trace
  | [] =>
    frame.own subject
      (findIf (!accepting.isEmpty) (.severalAccept subject (accepting ++ [first])))
  | branch :: rest =>
    .ofTrial (branch.test subject).verdict fun isValid =>
      othersTrace frame subject first
        (if isValid then accepting ++ [branch.schema] else accepting) rest

/-- The trace of `oneOf` from some branch on, given what the branches before found. -/
def oneTrace (frame : Frame) (subject : Json) (context : List Finding) : List Branch → Trace
  | [] => frame.finding subject (.noneAccepts subject) context
  | branch :: rest =>
    .ofTrial (branch.enter subject).allFindings fun findings =>
      if findings.isEmpty then othersTrace frame subject branch.schema [] rest
      else oneTrace frame subject (context ++ findings) rest

/-- The trace of `not`. -/
def notTrace (frame : Frame) (whole : Branch) (subject : Json) : Trace :=
  .ofTrial (whole.test subject).verdict fun isValid =>
    frame.own subject (findIf isValid (.forbidden subject whole.schema))

/-- The trace of a schema under another keyword, if there is one. -/
def besideTrace (frame : Frame) (keyword : String) (subject : Json) : Trace :=
  match frame.part? keyword with
  | some part => part.whole.enter subject
  | none => {}

/-- The trace of `if`, with `then` and `else` beside it. -/
def conditionTrace (frame : Frame) (whole : Branch) (subject : Json) : Trace :=
  .ofTrial (whole.test subject).verdict fun isValid =>
    besideTrace frame (if isValid then "then" else "else") subject

/-- The trace of `extends` in draft-03: of one schema, or of all in a list. -/
def extendsTrace (part : Part) (subject : Json) : Trace :=
  if part.whole.schema.isObject then part.whole.enter subject else allTrace part subject

/-! ## Types of draft-03 -/

/-- The types in the value of a keyword of draft-03, which may be schemas: one name, or a list. -/
def typeBranches (part : Part) : Except Breakdown (List Branch) :=
  match part.whole.schema with
  | .str _ => .ok [part.whole]
  | _ => part.branches

/-- What a type of draft-03 finds: nothing if the instance is of it. -/
def typeFindings (dialect : Dialect) (branch : Branch) (subject : Json) :
    Trial (Option (List Finding)) :=
  match branch.schema with
  | .obj _ =>
    (branch.enter subject).allFindings.bind fun findings =>
      .pure (if findings.isEmpty then none else some findings)
  | type =>
    (Trial.ofExcept (isOfType dialect .unknownType subject type)).bind fun holds =>
      .pure (if holds then none else some [])

/-- How a type of draft-03 is called: by its name, if it is a schema that has one. -/
def typeName (type : Json) : Json :=
  (type.get? "name").getD type

/-- The trace of `type` in draft-03 from some type on, given how all are called and what the types
before found. -/
def typeTrace (frame : Frame) (names : List Json) (subject : Json) (context : List Finding) :
    List Branch → Trace
  | [] => frame.finding subject (.wrongType subject names) context
  | branch :: rest =>
    .ofTrial (typeFindings frame.dialect branch subject) fun
      | none => {}
      | some findings => typeTrace frame names subject (context ++ findings) rest

/-- The trace of `disallow` in draft-03. -/
def disallowTrace (frame : Frame) (part : Part) (subject : Json) : Trace :=
  .ofExcept (typeBranches part) (inTurn fun branch =>
    .ofTrial (typeFindings frame.dialect branch subject) fun findings =>
      frame.own subject (findIf findings.isNone (.disallowed subject branch.schema)))

end TypeRegistry
