import TypeRegistry.Json.Writer
import TypeRegistry.Text.Quoted

/-!
# Values in diagnostics

Validation messages show values in a literal notation of their own: `None`, `True` and `False`,
numbers in their shortest form, strings in quotes, arrays in square and objects in curly brackets,
members in their own order.

Main definitions:

- `Json.literal`: a document in this notation.
- `Json.plain`: the same, with the text of a string left as it is.
-/

namespace TypeRegistry.Json

mutual

/-- A document in the notation of diagnostics. -/
def literal : Json → String
  | .null => "None"
  | .bool b => if b then "True" else "False"
  | .int n => Text.ofInt n
  | .float x => x.text
  | .str s => Text.quoted s
  | .arr items => "[" ++ Text.joinWith ", " (literalItems items) ++ "]"
  | .obj members => "\x7b" ++ Text.joinWith ", " (literalMembers members) ++ "\x7d"

/-- The items of an array in the notation of diagnostics. -/
def literalItems : List Json → List String
  | [] => []
  | item :: rest => literal item :: literalItems rest

/-- The members of an object in the notation of diagnostics. -/
def literalMembers : Members → List String
  | [] => []
  | (name, value) :: rest => (Text.quoted name ++ ": " ++ literal value) :: literalMembers rest

end

/-- A document in the notation of diagnostics, a string standing for its own text. -/
def plain : Json → String
  | .str s => s
  | document => document.literal

end TypeRegistry.Json
