import TypeRegistry.Json.Writer
import TypeRegistry.Pattern

/-!
# Queries

A query is an identifier or a pattern, optionally followed by filters in square brackets:
`gts.x.core.*[status=active, kind="a"]`.  A filter gives the text that a top-level field must have,
or a star for any text at all.  Parts of the filter block without an equals sign are left out of
account, and a repeated key keeps its last value.

Main definitions:

- `Query`, `Query.parse`, `Query.pattern`: queries and the pattern at their base.
- `QueryFault`: why a text is no query.
- `Json.filterText?`: the text of a field, as filters compare it.
- `Query.filtersAccept`: whether a document passes the filters.
-/

namespace TypeRegistry

open Dictionary

/-! ## Faults -/

/-- Why a text is no query. -/
inductive QueryFault where
  | bracketMissing
  | filtersOnTypes
  | misplacedWildcard
  | identifier (fault : IdentifierFault)
  | pattern (fault : PatternFault)
deriving DecidableEq, Repr

/-- The wording of a fault. -/
def QueryFault.message : QueryFault → String
  | bracketMissing => "Invalid query: missing closing bracket ']'"
  | filtersOnTypes =>
    "Invalid query: filters cannot be used with type patterns (ending with ~ or ~*)"
  | misplacedWildcard => "Invalid query: wildcard patterns must end with .* or ~*"
  | identifier fault => "Invalid query: " ++ fault.message
  | pattern fault => "Invalid query: " ++ fault.message

/-! ## Reading -/

/-- A query: the text of its pattern, and the text wanted of each filtered field. -/
structure Query where
  base : String
  filters : Dictionary String
deriving DecidableEq, Repr

namespace Query

/-- The quotes that may surround a filter's value. -/
def isQuote (c : Char) : Bool :=
  c == '"' || c == '\''

/-- The key and the value of a part of the filter block, if it has an equals sign. -/
def filterOfPart? (part : List Char) : Option (String × String) :=
  (Text.cutAt? '=' (Text.trimBlanks part)).map fun (key, value) =>
    (String.ofList (Text.trimBlanks key),
      String.ofList (Text.trimWhere isQuote (Text.trimBlanks value)))

/-- The filters of the text between the brackets. -/
def filtersOfBlock (block : List Char) : Dictionary String :=
  putAll [] ((Text.splitOn ',' block).filterMap filterOfPart?)

/-- The base and the filters that a text spells.  Filters on a pattern for types are refused unless
they are allowed. -/
def parse (allowTypeFilters : Bool) (expression : String) : Except QueryFault Query :=
  match Text.cutAt? '[' expression.toList with
  | none => .ok ⟨Text.trim expression, []⟩
  | some (lead, rest) =>
    let base := String.ofList (Text.trimBlanks lead)
    let block := Text.trimBlanks rest
    if block.getLast? ≠ some ']' then .error .bracketMissing
    else if !allowTypeFilters && (Text.endsWith "~" base || Text.endsWith "~*" base) then
      .error .filtersOnTypes
    else
      .ok ⟨base, filtersOfBlock block.dropLast⟩

/-- The pattern at the base of a query. -/
def pattern (base : String) : Except QueryFault Pattern :=
  if base.toList.contains '*' then
    if Pattern.endsInWildcard base then
      match Pattern.parse base with
      | .ok p => .ok p
      | .error fault => .error (.pattern fault)
    else .error .misplacedWildcard
  else
    match Identifier.parse base with
    | .error fault => .error (.identifier fault)
    | .ok _ =>
      match Pattern.parse base with
      | .ok p => .ok p
      | .error fault => .error (.pattern fault)

end Query

/-! ## Filtering -/

/-- The text of a value, as filters compare it.  A whole double is written as an integer; `null` has
no text. -/
def Json.filterText? : Json → Option String
  | .null => none
  | .bool b => some (if b then "true" else "false")
  | .int n => some (Text.ofInt n)
  | .float x =>
    match x.toInt? with
    | some n => some (Text.ofInt n)
    | none => some x.text
  | .str s => some s
  | document => some (document.write .compact)

/-- Whether the text of a field is the wanted one, or any at all if a star is wanted. -/
def filterAccepts (wanted : String) (actual : Option String) : Bool :=
  if wanted = "*" then
    match actual with
    | some text => !text.isEmpty
    | none => false
  else
    actual == some wanted

/-- Whether an object passes the filters. -/
def filtersAccept (filters : Dictionary String) (members : Json.Members) : Bool :=
  filters.all fun (key, wanted) =>
    filterAccepts wanted ((find? key members).bind Json.filterText?)

end TypeRegistry
