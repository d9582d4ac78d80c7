import TypeRegistry.Json.Equality

/-!
# The order of documents

Numbers are ordered by value, truth values counting as one and zero, strings by code points, and
arrays item by item: the first items that are not the same value decide, and where there are none
the shorter array comes first.  No other two documents stand in an order.  Documents of which any
two stand in an order can be sorted; items that are equal keep their order.

Main definitions:

- `Json.precedes?`: whether one document comes before another, if they stand in an order.
- `Json.sorted?`: documents in ascending order, if they can be sorted.
-/

namespace TypeRegistry.Json

mutual

/-- Whether one document comes before another, if they stand in an order. -/
def precedes? : Json → Json → Option Bool
  | .str s, .str t => some (decide (s < t))
  | .arr xs, .arr ys => itemsPrecede? xs ys
  | a, b =>
    match numberOrTruth? a, numberOrTruth? b with
    | some x, some y => some (x.lt y)
    | _, _ => none

/-- Whether one array comes before another, if they stand in an order. -/
def itemsPrecede? : List Json → List Json → Option Bool
  | [], ys => some (!ys.isEmpty)
  | _ :: _, [] => some false
  | x :: xs, y :: ys => if sameValue x y then itemsPrecede? xs ys else precedes? x y

end

/-- Insert a document into sorted ones, behind all that do not come after it. -/
def insertInOrder? (item : Json) : List Json → Option (List Json)
  | [] => some [item]
  | other :: rest =>
    match precedes? item other with
    | none => none
    | some true => some (item :: other :: rest)
    | some false => (insertInOrder? item rest).map (other :: ·)

/-- Insert documents one by one into sorted ones. -/
def insertAllInOrder? : List Json → List Json → Option (List Json)
  | sorted, [] => some sorted
  | sorted, item :: rest => (insertInOrder? item sorted).bind fun sorted =>
    insertAllInOrder? sorted rest

/-- Documents in ascending order, if any two of them stand in an order. -/
def sorted? (items : List Json) : Option (List Json) :=
  insertAllInOrder? [] items

/-- Between arrays truth values count as numbers; an object has no place in the order. -/
theorem sorted?_truth_and_object :
    precedes? (.arr [.bool false]) (.arr [.int 1]) = some true ∧
      sorted? [.obj [], .int 1] = none := by
  decide

end TypeRegistry.Json
