import TypeRegistry.Json.Basic

/-!
# Equality of documents

Two documents are compared in two ways.  As *data*, the way a schema's `enum` and `const` compare,
an integer equals the double of the same value, while truth values equal only themselves.  As
*values*, the way two versions of a property are compared, truth values also count as the numbers
one and zero.  In both an undefined number is the same as itself, the order of an object's members
does not matter, and `null`, strings, arrays and objects equal only their own kind.

Main definitions:

- `Json.sameScalarData`, `Json.sameScalarValue`: which documents without parts are equal.
- `Json.equalBy`: deep equality over a choice of scalars.
- `Json.sameData`, `Json.sameValue`: the two equalities.
-/

namespace TypeRegistry.Json

open Dictionary

/-! ## Scalars -/

/-- The exact value of a number. -/
def number? : Json → Option Exact
  | .int n => some (Exact.ofInt n)
  | .float x => some (Exact.ofDouble x)
  | _ => none

/-- The exact value of a number, truth values counting as one and zero. -/
def numberOrTruth? : Json → Option Exact
  | .bool b => some (Exact.ofInt (if b then 1 else 0))
  | value => number? value

/-- Two scalars are the same data: truth values apart, numbers by value. -/
def sameScalarData (a b : Json) : Bool :=
  match a, b with
  | .null, .null => true
  | .bool x, .bool y => x == y
  | .str x, .str y => x == y
  | a, b =>
    match number? a, number? b with
    | some x, some y => x.same y
    | _, _ => false

/-- Two scalars are the same value: truth values and numbers by value. -/
def sameScalarValue (a b : Json) : Bool :=
  match a, b with
  | .null, .null => true
  | .str x, .str y => x == y
  | a, b =>
    match numberOrTruth? a, numberOrTruth? b with
    | some x, some y => x.same y
    | _, _ => false

/-! ## Deep equality -/

mutual

/-- Deep equality over an equality of scalars: arrays item by item, objects name by name. -/
def equalBy (scalars : Json → Json → Bool) : Json → Json → Bool
  | .arr xs, .arr ys => equalItems scalars xs ys
  | .obj ms, .obj ns => ms.length == ns.length && equalMembers scalars ms ns
  | a, b => scalars a b

/-- Two arrays have the same length and equal items at every place. -/
def equalItems (scalars : Json → Json → Bool) : List Json → List Json → Bool
  | [], [] => true
  | x :: xs, y :: ys => equalBy scalars x y && equalItems scalars xs ys
  | _, _ => false

/-- Every member of one object has an equal counterpart of its name in another. -/
def equalMembers (scalars : Json → Json → Bool) : Members → Members → Bool
  | [], _ => true
  | (name, x) :: rest, ns =>
    (match find? name ns with
      | some y => equalBy scalars x y
      | none => false) && equalMembers scalars rest ns

end

/-- Two documents are the same data. -/
def sameData (a b : Json) : Bool :=
  equalBy sameScalarData a b

/-- Two documents are the same value. -/
def sameValue (a b : Json) : Bool :=
  equalBy sameScalarValue a b

/-- As data, one is not true; as a value it is. -/
theorem one_and_true : sameData (.int 1) (.bool true) = false ∧
    sameValue (.int 1) (.bool true) = true := by
  decide

end TypeRegistry.Json
