import TypeRegistry.Json.Equality
import TypeRegistry.Regex.Progress
import TypeRegistry.Text.Split

/-!
# Breakdowns

A schema that is checked for its form can be evaluated on any instance.  One that is not checked,
such as a registered schema that a reference leads to, may hold anything under a keyword, and what a
keyword does with its value need not be defined for that value: then the evaluation breaks down.
Within a number of uses a value need not be of the usual kind: a text counts as the list of its
characters, an object as the list of its names, and a truth value as the number one or zero.

Main definitions:

- `Breakdown`: why an evaluation breaks down.
- `Json.listed?`, `Json.named?`, `Json.bound?`, `Json.count?`: values used as lists, as objects, as
  bounds, and as things with a length.
-/

namespace TypeRegistry

/-- Why an evaluation breaks down. -/
inductive Breakdown where
  /-- A value is of a kind that does not have what is asked of it. -/
  | unfitKind
  /-- Members are asked of a value that is no object. -/
  | noMembers
  /-- A name in a pointer leads into a list or a text and is no position. -/
  | notPosition
  /-- An address is malformed. -/
  | malformedAddress
  /-- A quotient of numbers is undefined. -/
  | undefinedQuotient
  /-- An integer is beyond all doubles. -/
  | numberTooLarge
  /-- A factor is zero. -/
  | zeroFactor
  /-- A type is unknown. -/
  | unknownType
  /-- The type that a schema with a finding declares is unknown. -/
  | unknownDeclaredType
  /-- A pattern cannot be searched for. -/
  | pattern (fault : RegexFault)
  /-- References lead to themselves without end. -/
  | endless
deriving DecidableEq, Repr

namespace Json

/-- What a value is a list of: its items, its characters, its names. -/
def listed? : Json → Except Breakdown (List Json)
  | .arr items => .ok items
  | .str s => .ok (s.toList.map fun c => .str (String.ofList [c]))
  | .obj members => .ok ((Dictionary.keys members).map .str)
  | _ => .error .unfitKind

/-- The members of a value that is used as an object. -/
def named? : Json → Except Breakdown Members
  | .obj members => .ok members
  | _ => .error .noMembers

/-- The number that a value is as a bound. -/
def bound? (value : Json) : Except Breakdown Exact :=
  match numberOrTruth? value with
  | some bound => .ok bound
  | none => .error .unfitKind

/-- The number of items, characters or members of a value. -/
def count? (value : Json) : Except Breakdown Nat :=
  value.listed?.map List.length

/-- Whether a value used as a list holds a text; a text holds the texts that occur in it. -/
def holds? (text : String) : Json → Except Breakdown Bool
  | .str s => .ok (Text.contains text s)
  | value => value.listed?.map fun items =>
    items.any fun
      | .str item => item == text
      | _ => false

/-- The items of an array are what it is a list of. -/
@[simp]
theorem listed?_arr (items : List Json) : (Json.arr items).listed? = .ok items := rfl

/-- An object used as a list holds its names. -/
theorem holds?_obj (text : String) (members : Members) :
    (Json.obj members).holds? text = .ok (Dictionary.has text members) := by
  rw [holds?, listed?, Except.map, Except.ok.injEq]
  · rw [Bool.eq_iff_iff, Dictionary.has_iff_mem_keys]
    simp [List.any_map]
  · simp

end Json

end TypeRegistry
