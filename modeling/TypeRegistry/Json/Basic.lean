import TypeRegistry.Dictionary
import TypeRegistry.Number.Double

/-!
# JSON documents

Entities, schemas and answers are JSON documents.  The members of an object keep the order in which
they were written, because references, diagnostics and schema keywords are reported in that order.
A number without point and exponent is an integer of any size, any other number a double.

Main definitions:

- `Json`: documents.
- `Json.Members`: the members of an object, a dictionary of documents.
- `Json.get?`, `Json.getString?`: a member of an object by name.
- `Json.WellFormed`: no object of the document has two members of one name.
- `Json.kindName`: the name of a kind of value in diagnostics.
-/

namespace TypeRegistry

open Dictionary

/-- A JSON document. -/
inductive Json where
  | null
  | bool (value : Bool)
  | int (value : Int)
  | float (value : Double)
  | str (value : String)
  | arr (items : List Json)
  | obj (members : List (String × Json))
deriving Inhabited, Repr

namespace Json

/-- The members of an object: names with their values, in insertion order. -/
abbrev Members := Dictionary Json

/-! ## Documents as objects -/

/-- The value of a member has a smaller size than the object's members. -/
theorem sizeOf_lt_of_find? {name : String} {members : Members} {value : Json}
    (h : find? name members = some value) : sizeOf value < sizeOf members := by
  induction members with
  | nil => simp [find?] at h
  | cons member rest ih =>
    obtain ⟨key, old⟩ := member
    simp only [find?] at h
    split at h
    · simp only [Option.some.injEq] at h
      subst h
      simp
      omega
    · have := ih h
      simp
      omega

/-- The members of a document that is an object; none otherwise. -/
def members : Json → Members
  | .obj members => members
  | _ => []

/-- The member of a document that is an object. -/
def get? (name : String) (document : Json) : Option Json :=
  find? name document.members

/-- The string value of a member, if the member is a string. -/
def getString? (name : String) (members : Members) : Option String :=
  match find? name members with
  | some (.str s) => some s
  | _ => none

/-- Whether a document is an object. -/
def isObject : Json → Bool
  | .obj _ => true
  | _ => false

/-- Whether a document is a truth value. -/
def isTruth : Json → Bool
  | .bool _ => true
  | _ => false

/-- Whether a document is an object or an array with something in it, a text with a character, a
number other than zero, or true. -/
def isInhabited : Json → Bool
  | .null => false
  | .bool b => b
  | .int n => n ≠ 0
  | .float (.finite _ mantissa _) => mantissa ≠ 0
  | .float _ => true
  | .str s => !s.isEmpty
  | .arr items => !items.isEmpty
  | .obj members => !members.isEmpty

/-- The name of a kind of value, as diagnostics give it. -/
def kindName : Json → String
  | .null => "NoneType"
  | .bool _ => "bool"
  | .int _ => "int"
  | .float _ => "float"
  | .str _ => "str"
  | .arr _ => "list"
  | .obj _ => "dict"

/-! ## Size and form -/

mutual

/-- The number of values in a document, itself included. -/
def nodeCount : Json → Nat
  | .arr items => nodeCountItems items + 1
  | .obj members => nodeCountMembers members + 1
  | _ => 1

/-- The number of values in the items of an array. -/
def nodeCountItems : List Json → Nat
  | [] => 0
  | item :: rest => nodeCount item + nodeCountItems rest

/-- The number of values in the members of an object. -/
def nodeCountMembers : Members → Nat
  | [] => 0
  | (_, value) :: rest => nodeCount value + nodeCountMembers rest

end

mutual

/-- The number of steps down to the deepest value in a document. -/
def height : Json → Nat
  | .arr items => heightOfItems items
  | .obj members => heightOfMembers members
  | _ => 0

/-- The number of steps down to the deepest value in the items of an array. -/
def heightOfItems : List Json → Nat
  | [] => 0
  | item :: rest => max (height item + 1) (heightOfItems rest)

/-- The number of steps down to the deepest value in the members of an object. -/
def heightOfMembers : Members → Nat
  | [] => 0
  | (_, value) :: rest => max (height value + 1) (heightOfMembers rest)

end

mutual

/-- The number of members of some names in a document, at any depth. -/
def countNamed (names : List String) : Json → Nat
  | .arr items => countNamedInItems names items
  | .obj members => countNamedInMembers names members
  | _ => 0

/-- The number of members of some names in the items of an array. -/
def countNamedInItems (names : List String) : List Json → Nat
  | [] => 0
  | item :: rest => countNamed names item + countNamedInItems names rest

/-- The number of members of some names in the members of an object. -/
def countNamedInMembers (names : List String) : Members → Nat
  | [] => 0
  | (name, value) :: rest =>
    (if names.contains name then 1 else 0) + countNamed names value +
      countNamedInMembers names rest

end

mutual

/-- No object in the document has two members of one name.  Every document that is read from text
has this form. -/
def WellFormed : Json → Prop
  | .arr items => WellFormedItems items
  | .obj members => (keys members).Nodup ∧ WellFormedMembers members
  | _ => True

/-- Every item is well formed. -/
def WellFormedItems : List Json → Prop
  | [] => True
  | item :: rest => WellFormed item ∧ WellFormedItems rest

/-- The value of every member is well formed. -/
def WellFormedMembers : Members → Prop
  | [] => True
  | (_, value) :: rest => WellFormed value ∧ WellFormedMembers rest

end

end Json

end TypeRegistry
