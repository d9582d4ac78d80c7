import TypeRegistry.Json.Path
import TypeRegistry.Schema.Dialect

/-!
# Schemas inside schemas

Where the schemas inside a schema stand, what a schema calls itself, and what it can be called by,
depends on the dialect that it is written in.  A schema that calls itself by an address changes what
the references inside it stand at.

Main definitions:

- `PartForm`, `Dialect.partForm?`: how the value of a keyword holds schemas.
- `Dialect.ofExactAddress?`, `Dialect.declaredOr`: the dialect whose rules tell the parts of a
  schema.
- `Dialect.idOf`, `Dialect.anchorsOf`: what a schema calls itself.
- `Dialect.leadsToPart`: whether the steps of a pointer lead to a schema inside a schema.
-/

namespace TypeRegistry

open Dictionary

/-! ## Places -/

/-- How the value of a keyword holds schemas: it is one, its items are, its members are, it is one
or its items are, or its members are if the first of them is. -/
inductive PartForm where
  | whole
  | items
  | members
  | wholeOrItems
  | membersIfFirst
deriving DecidableEq, Repr

namespace Dialect

/-- How the value of a keyword holds schemas, if it holds any. -/
def partForm? (dialect : Dialect) (keyword : String) : Option PartForm :=
  let given (condition : Bool) (form : PartForm) := if condition then some form else none
  match keyword with
  | "definitions" | "patternProperties" | "properties" => some .members
  | "$defs" | "dependentSchemas" => given (dialect.isSince draft201909) .members
  | "allOf" | "anyOf" | "oneOf" => given (dialect.isSince draft04) .items
  | "extends" => given (dialect = draft03) .items
  | "prefixItems" => given (dialect = draft202012) .items
  | "additionalProperties" => some .whole
  | "additionalItems" => given (dialect ≠ draft202012) .whole
  | "not" => given (dialect.isSince draft04) .whole
  | "contains" | "propertyNames" => given (dialect.isSince draft06) .whole
  | "if" | "then" | "else" => given (dialect.isSince draft07) .whole
  | "contentSchema" | "unevaluatedItems" | "unevaluatedProperties" =>
    given (dialect.isSince draft201909) .whole
  | "items" => if dialect = draft202012 then some .whole else some .wholeOrItems
  | "dependencies" => given (!dialect.isSince draft201909) .membersIfFirst
  | _ => none

/-- Whether some steps of a pointer lead from a schema to a schema inside it, as they do if what
they lead to is `part`. -/
def leadsToPart (dialect : Dialect) (part : Json) : List PathStep → Bool
  | [] => true
  | .place _ :: _ => false
  | .name keyword :: rest =>
    match dialect.partForm? keyword with
    | none => false
    | some .whole => leadsToPart dialect part rest
    | some .items =>
      match rest with
      | [] => false
      | _ :: rest => leadsToPart dialect part rest
    | some .members =>
      match rest with
      | [] => false
      | _ :: rest => leadsToPart dialect part rest
    | some .wholeOrItems => part.isObject
    | some .membersIfFirst => part.isObject

/-! ## Dialects of parts -/

/-- The dialect at an address that is spelled as the dialect spells it, number signs at the end
apart. -/
def ofExactAddress? (given : String) : Option Dialect :=
  all.find? fun dialect => dialect.address = Text.dropEndWhere (· == '#') given

/-- The dialect whose rules tell the parts of a schema: its own if it declares a known one by the
exact address, else a given one. -/
def declaredOr (otherwise : Dialect) (schema : Json) : Except Breakdown Dialect :=
  match schema.get? "$schema" with
  | none => .ok otherwise
  | some .null => .ok otherwise
  | some (.str address) => .ok ((ofExactAddress? address).getD otherwise)
  | some _ => .error .noMembers

/-! ## Names -/

/-- The keyword under which a schema calls itself. -/
def idKeyword (dialect : Dialect) : String :=
  if dialect.isSince draft06 then "$id" else "id"

/-- What a schema calls itself, number signs at the end apart.  Before draft 2019-09 a name that is
a mere fragment does not count, nor one beside a reference; a truth value calls itself nothing. -/
def idOf (dialect : Dialect) (schema : Json) : Except Breakdown (Option String) :=
  if dialect.isSince draft06 && schema.isTruth then .ok none
  else do
    if !dialect.isSince draft201909 && (← schema.holds? "$ref") then return none
    match find? dialect.idKeyword (← schema.named?) with
    | none => return none
    | some .null => return none
    | some (.str id) =>
      if !dialect.isSince draft201909 && Text.startsWith "#" id then return none
      else return some (Text.dropEndWhere (· == '#') id)
    | some _ => throw .noMembers

/-- The fragments that a schema can be called by, each with whether it moves with the place it is
called from. -/
def anchorsOf (dialect : Dialect) (schema : Json) : List (String × Bool) :=
  let named (keyword : String) (moves : Bool) : List (String × Bool) :=
    ((Json.getString? keyword schema.members).map fun name => (name, moves)).toList
  match dialect with
  | draft202012 => named "$anchor" false ++ named "$dynamicAnchor" true
  | draft201909 => named "$anchor" false
  | _ =>
    ((Json.getString? dialect.idKeyword schema.members).bind fun id =>
      (Text.dropStart? "#" id).map fun name => (name, false)).toList

end Dialect

end TypeRegistry
