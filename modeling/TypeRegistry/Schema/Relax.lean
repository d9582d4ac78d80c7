import TypeRegistry.Identifier.Parser
import TypeRegistry.Json.Basic

/-!
# Relaxed schemas

A discriminator pins a field to one identifier by `const`.  After a cast such a field may rightly
hold another identifier, so the outcome is checked against a schema in which every identifier-valued
`const` is replaced by the demand for a string.

Main definitions:

- `Json.relax`: the relaxed form of a schema.
-/

namespace TypeRegistry.Json

open Dictionary

/-- Whether a member pins its field to an identifier. -/
def pinsIdentifier (name : String) : Json → Bool
  | .str s => name = "const" && Identifier.isValid s
  | _ => false

mutual

/-- The document with every identifier-valued `const` replaced by the type of strings. -/
def relax : Json → Json
  | .obj members => .obj (relaxMembers [] members)
  | .arr items => .arr (relaxItems items)
  | scalar => scalar

/-- The relaxed items of an array. -/
def relaxItems : List Json → List Json
  | [] => []
  | item :: rest => relax item :: relaxItems rest

/-- The relaxed members of an object, put behind or into those done so far. -/
def relaxMembers (done : Members) : Members → Members
  | [] => done
  | (name, value) :: rest =>
    if pinsIdentifier name value then relaxMembers (put "type" (.str "string") done) rest
    else relaxMembers (put name (relax value) done) rest

end

end TypeRegistry.Json
