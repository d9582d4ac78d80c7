import TypeRegistry.Address
import TypeRegistry.Schema.Breakdown

/-!
# Dialects

A schema declares the dialect of JSON Schema that it is written in by the address of the dialect.
The drafts that appeared over time are known; a schema that declares none of them is read in the
dialect of its surroundings, and in draft 2020-12 where there are none.

Main definitions:

- `Dialect`, `Dialect.isSince`: the dialects, in the order in which they appeared.
- `Dialect.address`, `Dialect.ofAddress`: their addresses.
- `Dialect.adopt`: the dialect of a schema in its surroundings.
- `Dialect.knows`: the keywords that a dialect gives a meaning to.
-/

namespace TypeRegistry

/-- A dialect of JSON Schema. -/
inductive Dialect where
  | draft03
  | draft04
  | draft06
  | draft07
  | draft201909
  | draft202012
deriving DecidableEq, Repr

namespace Dialect

/-- All dialects, the latest first. -/
def all : List Dialect :=
  [draft202012, draft07, draft201909, draft06, draft04, draft03]

/-- The place of a dialect in the order in which the dialects appeared. -/
def rank : Dialect → Nat
  | draft03 => 0
  | draft04 => 1
  | draft06 => 2
  | draft07 => 3
  | draft201909 => 4
  | draft202012 => 5

/-- Whether a dialect is another one or appeared after it. -/
def isSince (dialect first : Dialect) : Bool :=
  first.rank ≤ dialect.rank

/-! ## Addresses -/

/-- The address of a dialect. -/
def address : Dialect → String
  | draft03 => "http://json-schema.org/draft-03/schema"
  | draft04 => "http://json-schema.org/draft-04/schema"
  | draft06 => "http://json-schema.org/draft-06/schema"
  | draft07 => "http://json-schema.org/draft-07/schema"
  | draft201909 => "https://json-schema.org/draft/2019-09/schema"
  | draft202012 => "https://json-schema.org/draft/2020-12/schema"

/-- The dialect at an address, if there is one; what does not count in an address, such as an empty
fragment, is ignored. -/
def ofAddress (given : String) : Except Breakdown (Option Dialect) :=
  match Address.normal? given with
  | some address => .ok (all.find? fun dialect => dialect.address = address)
  | none => .error .malformedAddress

/-- The dialect that a value declares, if it is a known one. -/
def ofDeclaration : Json → Except Breakdown (Option Dialect)
  | .str address => ofAddress address
  | .arr _ => .error .unfitKind
  | .obj _ => .error .unfitKind
  | value => if value.isInhabited then .error .noMembers else .ok none

/-- The dialect of a schema: its own if it declares a known one, else that of its surroundings. -/
def adopt (surroundings : Dialect) : Json → Except Breakdown Dialect
  | .bool _ => .ok surroundings
  | .obj members =>
    match Dictionary.find? "$schema" members with
    | some value => (ofDeclaration value).map (·.getD surroundings)
    | none => .ok surroundings
  | value => do
    if ← value.holds? "$schema" then throw .unfitKind else return surroundings

/-! ## Keywords -/

/-- Whether a reference stands for the whole schema that it is in, as it did in the drafts before
2019-09. -/
def referenceStandsAlone (dialect : Dialect) : Bool :=
  !dialect.isSince draft201909

/-- Whether a double without a fraction is an integer. -/
def countsWholeDoubles (dialect : Dialect) : Bool :=
  dialect.isSince draft06

/-- Whether a dialect gives a keyword a meaning. -/
def knows (dialect : Dialect) (keyword : String) : Bool :=
  match keyword with
  | "$ref" | "additionalProperties" | "enum" | "items" | "maxItems" | "maxLength" | "maximum"
  | "minItems" | "minLength" | "minimum" | "pattern" | "patternProperties" | "properties" | "type"
  | "uniqueItems" => true
  | "disallow" | "divisibleBy" | "extends" => dialect = draft03
  | "allOf" | "anyOf" | "maxProperties" | "minProperties" | "multipleOf" | "not" | "oneOf"
  | "required" => dialect.isSince draft04
  | "const" | "contains" | "exclusiveMaximum" | "exclusiveMinimum" | "propertyNames" =>
    dialect.isSince draft06
  | "if" => dialect.isSince draft07
  | "dependencies" => !dialect.isSince draft201909
  | "additionalItems" => dialect ≠ draft202012
  | "dependentRequired" | "dependentSchemas" | "unevaluatedItems" | "unevaluatedProperties" =>
    dialect.isSince draft201909
  | "$recursiveRef" => dialect = draft201909
  | "$dynamicRef" | "prefixItems" => dialect = draft202012
  | _ => false

/-- A dialect is found at its address. -/
theorem ofAddress_address (dialect : Dialect) :
    (ofAddress dialect.address).toOption = some (some dialect) := by
  cases dialect <;> decide +kernel

end Dialect

end TypeRegistry
