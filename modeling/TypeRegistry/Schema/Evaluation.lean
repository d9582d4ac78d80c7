import TypeRegistry.Schema.Standard
import TypeRegistry.Schema.Unevaluated

/-!
# Evaluating a schema

A schema is evaluated on an instance keyword by keyword, in the order in which they are written, as
far as its dialect gives them a meaning.  Whether a reference stands for the whole schema is settled
by the dialect of the schema around it where the schema is entered from there, and by its own where
it is tested; only a schema that is entered has the address that it calls itself by.

The evaluation of a schema's own parts is recursion on the schema, given what references do; what
references do is recursion on a number that bounds how deep they are nested.

Main definitions:

- `keywordTrace`: the trace of a keyword.
- `evaluate`: the trace of a schema on an instance, given what references do.
- `follow`: what a reference leads to.
- `schemaTrace`: the trace of a schema with its references.
-/

namespace TypeRegistry

open Dictionary

/-! ## Keywords -/

/-- The trace of `type` in draft-03, where types may be schemas. -/
def earlyTypeTrace (frame : Frame) (part : Part) (subject : Json) : Trace :=
  .ofExcept (typeBranches part) fun branches =>
    typeTrace frame (branches.map fun branch => typeName branch.schema) subject [] branches

/-- The trace of a keyword that its dialect gives a meaning. -/
def keywordTrace (frame : Frame) (part : Part) (subject : Json) : Trace :=
  match part.keyword with
  | "$ref" => referenceTrace frame part.whole.schema subject
  | "$dynamicRef" => referenceTrace frame part.whole.schema subject
  | "$recursiveRef" => recursionTrace frame subject
  | "properties" =>
    if frame.dialect = .draft03 then requiringPropertiesTrace frame part subject
    else propertiesTrace part subject
  | "patternProperties" => patternPropertiesTrace part subject
  | "additionalProperties" => additionalPropertiesTrace frame part.whole subject
  | "propertyNames" => propertyNamesTrace part.whole subject
  | "dependencies" => dependenciesTrace frame part subject
  | "dependentSchemas" => dependentSchemasTrace part subject
  | "unevaluatedProperties" => unevaluatedPropertiesTrace frame part.whole subject
  | "items" => itemsTrace frame part subject
  | "additionalItems" => additionalItemsTrace frame part.whole subject
  | "prefixItems" => prefixItemsTrace part subject
  | "contains" => containsTrace frame part.whole subject
  | "unevaluatedItems" => unevaluatedItemsTrace frame subject
  | "allOf" => allTrace part subject
  | "anyOf" => .ofExcept part.branches (anyTrace frame subject [])
  | "oneOf" => .ofExcept part.branches (oneTrace frame subject [])
  | "not" => notTrace frame part.whole subject
  | "if" => conditionTrace frame part.whole subject
  | "extends" => extendsTrace part subject
  | "disallow" => disallowTrace frame part subject
  | keyword =>
    if keyword = "type" && frame.dialect = .draft03 then earlyTypeTrace frame part subject
    else
      frame.own subject
        (assertionSteps frame.dialect frame.members keyword part.whole.schema subject)

/-- The trace of all keywords of a schema. -/
def Frame.trace (frame : Frame) (subject : Json) : Trace :=
  inTurn (fun part =>
    if frame.dialect.knows part.keyword then keywordTrace frame part subject else {}) frame.parts

/-! ## Schemas -/

/-- What is led to from a scope. -/
abbrev Follow := Scope → Lead → Trial Branch

/-- The reference that stands for a schema, where references stand for the whole schema. -/
def soleReference? (ruling : Dialect) (members : Json.Members) : Option Json :=
  match ruling.referenceStandsAlone, find? "$ref" members with
  | false, _ | true, some .null => none
  | true, ref => ref

/-- Why something that is no schema cannot be evaluated in a scope. -/
def Scope.breakdownOf (scope : Scope) (schema : Json) : Breakdown :=
  match scope.adopt schema with
  | .error cause => cause
  | .ok _ => .noMembers

/-- A schema in a scope with what it does, given its trace in a scope under the dialect that rules
on its references, if that is not its own, and what it evaluates. -/
def Branch.ofSchema (scope : Scope) (schema : Json)
    (run : Option Dialect → Scope → Json → Trace)
    (names : Scope → Dialect → Json → Trial (List String))
    (places : Scope → Dialect → Json → Trial (List Nat)) : Branch where
  schema := schema
  enter := fun subject =>
    match schema with
    | .bool _ => run (some scope.dialect) scope subject
    | _ => .ofExcept (scope.into schema) fun inner => run (some scope.dialect) inner subject
  test := run none scope
  names := names scope
  places := places scope

/-- The places of an array that something evaluates which is no schema: all, if `items` occurs in
it and the rules are those of draft 2020-12. -/
def strayPlaces (rules : Dialect) (schema subject : Json) : Trial (List Nat) :=
  (Trial.ofExcept (if rules = .draft202012 then schema.holds? "items" else .ok false)).bind
    fun holds =>
      match holds, subject with
      | true, .arr items => .pure (List.range items.length)
      | _, _ => .ofFault (.breakdown .noMembers)

/-- The name of a member, or a part of a text, that stands where a schema should, with what it does.
-/
def Branch.ofStray (scope : Scope) (schema : Json) : Branch :=
  .ofSchema scope schema (fun _ scope _ => .ofBreakdown (scope.breakdownOf schema))
    (fun _ _ _ => .ofFault (.breakdown .noMembers))
    (fun _ rules subject => strayPlaces rules schema subject)

mutual

/-- The trace of a schema on an instance, given what references do and the dialect that rules on its
own, if that is not its own dialect. -/
def evaluate (refs : Follow) (ruling? : Option Dialect) (scope : Scope) : Json → Json → Trace
  | .bool true, _ => {}
  | .bool false, subject => .ofFindings [.mk (.refused subject) [] (.ok false) []]
  | .obj members, subject =>
    .ofExcept (scope.adopt (.obj members)) fun inner =>
      let frame : Frame := ⟨inner.dialect, members, partsOf refs inner members, refs inner⟩
      match soleReference? (ruling?.getD inner.dialect) members with
      | some ref => referenceTrace frame ref subject
      | none => frame.trace subject
  | schema, _ => .ofBreakdown (scope.breakdownOf schema)

/-- The names of an instance that a schema evaluates. -/
def namesIn (refs : Follow) (scope : Scope) : Json → Dialect → Json → Trial (List String)
  | .bool _, _, _ => .pure []
  | .obj members, rules, subject =>
    evaluatedNames rules ⟨scope.dialect, members, partsOf refs scope members, refs scope⟩ subject
  | _, _, _ => .ofFault (.breakdown .noMembers)

/-- The places of an instance that a schema evaluates. -/
def placesIn (refs : Follow) (scope : Scope) : Json → Dialect → Json → Trial (List Nat)
  | .bool _, _, _ => .pure []
  | .obj members, rules, .arr items =>
    evaluatedPlaces rules ⟨scope.dialect, members, partsOf refs scope members, refs scope⟩ items
      (.arr items)
  | .obj _, _, _ => .pure []
  | schema, rules, subject => strayPlaces rules schema subject

/-- The keywords of a schema with the schemas in their values. -/
def partsOf (refs : Follow) (scope : Scope) : Json.Members → List Part
  | [] => []
  | (keyword, value) :: rest =>
    { keyword
      whole := .ofSchema scope value (fun ruling? scope => evaluate refs ruling? scope value)
        (fun scope => namesIn refs scope value) (fun scope => placesIn refs scope value)
      items := match value with
        | .arr schemas => branchesOf refs scope schemas
        | other => ((other.listed?.toOption).getD []).map (.ofStray scope)
      named := match value with
        | .obj schemas => namedBranchesOf refs scope schemas
        | _ => [] } :: partsOf refs scope rest

/-- Schemas in a list with what they do. -/
def branchesOf (refs : Follow) (scope : Scope) : List Json → List Branch
  | [] => []
  | schema :: rest =>
    .ofSchema scope schema (fun ruling? scope => evaluate refs ruling? scope schema)
      (fun scope => namesIn refs scope schema) (fun scope => placesIn refs scope schema) ::
        branchesOf refs scope rest

/-- Schemas under names with what they do. -/
def namedBranchesOf (refs : Follow) (scope : Scope) : Json.Members → List (String × Branch)
  | [] => []
  | (name, schema) :: rest =>
    (name, .ofSchema scope schema (fun ruling? scope => evaluate refs ruling? scope schema)
      (fun scope => namesIn refs scope schema) (fun scope => placesIn refs scope schema)) ::
        namedBranchesOf refs scope rest

end

/-! ## References -/

/-- A schema that is led to, in the scope there, with what it does. -/
def Branch.ofTarget (refs : Follow) (scope : Scope) (schema : Json) : Branch where
  schema := schema
  enter := evaluate refs (some scope.dialect) scope schema
  test := evaluate refs none scope schema
  names := fun rules subject =>
    (Trial.ofExcept (scope.adopt schema)).bind fun inner => namesIn refs inner schema rules subject
  places := fun rules subject =>
    (Trial.ofExcept (scope.adopt schema)).bind fun inner => placesIn refs inner schema rules subject

/-- What is led to, references being nested no deeper than a number. -/
def follow (fetch : String → Consulted (Option Resource)) : (depth : Nat) → Follow
  | 0, _, _ => .ofFault (.breakdown .endless)
  | depth + 1, scope, lead =>
    Trial.bind (match lead with
      | .to ref => scope.resolve fetch ref
      | .around => scope.recur fetch) fun (schema, scope) =>
        .pure (.ofTarget (follow fetch depth) scope schema)

/-- The keywords that lead elsewhere. -/
def leadingKeywords : List String := ["$ref", "$dynamicRef", "$recursiveRef"]

/-- How deep references can be nested before a reference is met again with the same part of the
instance: no deeper than there are references and steps down the instance. -/
def referenceDepth (store : Store) (schema subject : Json) : Nat :=
  let known := Standard.documents ++ store.known.map fun entry => entry.2.content
  (Json.countNamedInItems leadingKeywords (schema :: known) + 1) * (subject.height + 1)

/-- The trace of a schema on an instance, its references leading to registered schemas. -/
def schemaTrace (store : Store) (schema subject : Json) : Trace :=
  .ofExcept (Dialect.draft202012.adopt schema) fun dialect =>
    .ofExcept (dialect.idOf schema) fun id =>
      let base := id.getD ""
      let scope : Scope :=
        { dialect, base, library := Library.standard.put base ⟨schema, dialect⟩ }
      evaluate (follow (fetchRegistered store.lookup?) (referenceDepth store schema subject)) none
        scope schema subject

end TypeRegistry
