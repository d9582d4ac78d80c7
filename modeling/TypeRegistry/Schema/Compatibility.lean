import TypeRegistry.Json.Writer
import TypeRegistry.Number.Fixed
import TypeRegistry.Schema.Flat

/-!
# Compatibility of two schemas

Two versions of a schema are compared property by property, in one of two modes.  *Backward*: data
written for the old version must be accepted by the new one, so new required names, new values in an
enumeration and tighter bounds are violations.  *Forward*: data written for the new version must be
accepted by the old one, so the opposite changes are.  A changed type is a violation in both modes.
Objects and items of arrays are compared in the same way, one level down.

Bounds are compared as doubles; an integer bound beyond all finite doubles has no double, and two
schemas with such a bound where bounds are compared are not compared at all.

Main definitions:

- `Mode`, `Violation`, `Violation.message`: the modes, and what can be wrong.
- `violations`: all violations between two schemas, in order.
- `boundsAreRepresentable`: every bound that is compared has a double.
-/

namespace TypeRegistry

open Dictionary

/-- Which way data must flow between two versions. -/
inductive Mode where
  | backward
  | forward
deriving DecidableEq, Repr

/-- The name of a mode. -/
def Mode.name : Mode → String
  | backward => "backward"
  | forward => "forward"

/-! ## Violations -/

/-- What stands in the way of compatibility. -/
inductive Violation where
  | requiredAdded (names : List String)
  | requiredRemoved (names : List String)
  | typeChanged (property old new : String)
  | valuesAdded (property : String) (values : List String)
  | valuesRemoved (property : String) (values : List String)
  | boundIncreased (property keyword : String) (old new : Double)
  | boundDecreased (property keyword : String) (old new : Double)
  | boundAdded (property keyword : String) (new : Double)
  | boundRemoved (property keyword : String)
  | inObject (property : String) (inner : Violation)
  | inItems (property : String) (inner : Violation)
deriving DecidableEq, Repr

/-- A property, as violations name it. -/
def propertyText (property : String) : String :=
  "Property '" ++ property ++ "'"

/-- The wording of a violation. -/
def Violation.message : Violation → String
  | requiredAdded names => "Added required properties: " ++ Text.joinWith ", " names
  | requiredRemoved names => "Removed required properties: " ++ Text.joinWith ", " names
  | typeChanged property old new =>
    propertyText property ++ " type changed from " ++ old ++ " to " ++ new
  | valuesAdded property values =>
    propertyText property ++ " added enum values: " ++ Text.joinWith ", " values
  | valuesRemoved property values =>
    propertyText property ++ " removed enum values: " ++ Text.joinWith ", " values
  | boundIncreased property keyword old new =>
    propertyText property ++ " " ++ keyword ++ " increased from " ++ old.trimmedFixed ++ " to " ++
      new.trimmedFixed
  | boundDecreased property keyword old new =>
    propertyText property ++ " " ++ keyword ++ " decreased from " ++ old.trimmedFixed ++ " to " ++
      new.trimmedFixed
  | boundAdded property keyword new =>
    propertyText property ++ " added " ++ keyword ++ " constraint: " ++ new.trimmedFixed
  | boundRemoved property keyword =>
    propertyText property ++ " removed " ++ keyword ++ " constraint"
  | inObject property inner => propertyText property ++ ": " ++ inner.message
  | inItems property inner => propertyText property ++ " array items: " ++ inner.message

/-! ## Required names -/

/-- The strings of a first list that are not in a second, in ascending order, each once. -/
def newcomers (now past : List String) : List String :=
  Text.sortedDistinct (now.filter fun s => !past.contains s)

/-- The violation by required names. -/
def requiredViolations (mode : Mode) (old new : FlatSchema) : List Violation :=
  match mode with
  | .backward =>
    let added := newcomers new.requiredNames old.requiredNames
    if added.isEmpty then [] else [.requiredAdded added]
  | .forward =>
    let removed := newcomers old.requiredNames new.requiredNames
    if removed.isEmpty then [] else [.requiredRemoved removed]

/-! ## Types and enumerations -/

/-- The declared type of a property, empty if none is declared as a string. -/
def declaredType (members : Json.Members) : String :=
  (Json.getString? "type" members).getD ""

/-- The violation by a changed type. -/
def typeViolations (property : String) (old new : Json.Members) : List Violation :=
  let oldType := declaredType old
  let newType := declaredType new
  if oldType ≠ "" ∧ newType ≠ "" ∧ oldType ≠ newType then [.typeChanged property oldType newType]
  else []

/-- The text under which a value of an enumeration is compared. -/
def valueKey : Json → String
  | .str s => s
  | value => value.write .spaced

/-- The values of an enumeration that is declared and not empty. -/
def enumeration? (members : Json.Members) : Option (List Json) :=
  match find? "enum" members with
  | some (.arr (value :: rest)) => some (value :: rest)
  | _ => none

/-- The violation by values that came or went. -/
def enumViolations (mode : Mode) (property : String) (old new : Json.Members) : List Violation :=
  match enumeration? old, enumeration? new with
  | some oldValues, some newValues =>
    match mode with
    | .backward =>
      let added := newcomers (newValues.map valueKey) (oldValues.map valueKey)
      if added.isEmpty then [] else [.valuesAdded property added]
    | .forward =>
      let removed := newcomers (oldValues.map valueKey) (newValues.map valueKey)
      if removed.isEmpty then [] else [.valuesRemoved property removed]
  | _, _ => []

/-! ## Bounds -/

/-- Which end of a range a bound is. -/
inductive RangeEnd where
  | lower
  | upper
deriving DecidableEq, Repr

/-- The keyword of a bound of a type that has bounds. -/
def boundKeyword? (typeName : String) (rangeEnd : RangeEnd) : Option String :=
  let choose (lower upper : String) : Option String :=
    match rangeEnd with
    | .lower => some lower
    | .upper => some upper
  if typeName = "number" ∨ typeName = "integer" then choose "minimum" "maximum"
  else if typeName = "string" then choose "minLength" "maxLength"
  else if typeName = "array" then choose "minItems" "maxItems"
  else none

/-- A bound as a double.  An integer beyond all finite doubles counts as infinite here. -/
def bound? (members : Json.Members) (keyword : String) : Option Double :=
  match find? keyword members with
  | some (.int n) => some ((Double.ofInt? n).getD (.infinity (decide (n < 0))))
  | some (.float x) => some x
  | _ => none

/-- Whether one double is less than another. -/
def Double.less (x y : Double) : Bool :=
  (Exact.ofDouble x).lt (Exact.ofDouble y)

/-- Whether a bound gets tighter on the way from one value to another. -/
def tightens (rangeEnd : RangeEnd) (past now : Double) : Bool :=
  match rangeEnd with
  | .lower => past.less now
  | .upper => now.less past

/-- The violation by a bound that moved. -/
def boundMoved (property keyword : String) (old new : Double) : Violation :=
  if old.less new then .boundIncreased property keyword old new
  else .boundDecreased property keyword old new

/-- The violation at one end of the range of a property. -/
def boundViolations (mode : Mode) (property : String) (old new : Json.Members)
    (rangeEnd : RangeEnd) : List Violation :=
  match boundKeyword? (declaredType old) rangeEnd with
  | none => []
  | some keyword =>
    match mode, bound? old keyword, bound? new keyword with
    | .backward, some o, some n =>
      if tightens rangeEnd o n then [boundMoved property keyword o n] else []
    | .backward, none, some n => [.boundAdded property keyword n]
    | .forward, some o, some n =>
      if tightens rangeEnd n o then [boundMoved property keyword o n] else []
    | .forward, some _, none => [.boundRemoved property keyword]
    | _, _, _ => []

/-! ## The comparison -/

/-- The names of the properties that two schemas share, in ascending order. -/
def commonNames (old new : FlatSchema) : List String :=
  Text.sortedDistinct ((keys old.properties).filter fun name => has name new.properties)

/-- The violations at a property itself, not below it. -/
def propertyViolations (mode : Mode) (property : String) (old new : Json.Members) :
    List Violation :=
  typeViolations property old new ++ enumViolations mode property old new ++
    boundViolations mode property old new .lower ++ boundViolations mode property old new .upper

/-- All violations between two versions of a schema: required names first, then property by property
in ascending order of names. -/
def violations (mode : Mode) (old new : Json) : List Violation :=
  requiredViolations mode old.flatten new.flatten ++
    (commonNames old.flatten new.flatten).flatMap fun name =>
      match _ho : find? name old.flatten.properties, find? name new.flatten.properties with
      | some (.obj o), some (.obj n) =>
        propertyViolations mode name o n ++
          (if declaredType o = "object" ∧ declaredType n = "object" then
            (violations mode (.obj o) (.obj n)).map (.inObject name)
          else []) ++
          (if declaredType o = "array" ∧ declaredType n = "array" then
            match _hi : find? "items" o, find? "items" n with
            | some (.obj oi), some (.obj ni) =>
              (violations mode (.obj oi) (.obj ni)).map (.inItems name)
            | _, _ => []
          else [])
      | _, _ => []
termination_by sizeOf old
decreasing_by
  · exact Json.sizeOf_lt_of_find?_flatten _ho
  · have h1 := Json.sizeOf_lt_of_find?_flatten _ho
    have h2 := Json.sizeOf_lt_of_find? _hi
    simp at h1 h2 ⊢
    omega

/-- Whether a bound has a double: integers beyond all finite doubles have none. -/
def isRepresentable (members : Json.Members) (keyword : String) : Bool :=
  match find? keyword members with
  | some (.int n) => (Double.ofInt? n).isSome
  | _ => true

/-- Whether the bounds that are compared at a property have doubles. -/
def propertyBoundsAreRepresentable (old new : Json.Members) : Bool :=
  [RangeEnd.lower, RangeEnd.upper].all fun rangeEnd =>
    match boundKeyword? (declaredType old) rangeEnd with
    | some keyword => isRepresentable old keyword && isRepresentable new keyword
    | none => true

/-- Whether every bound that is compared between two schemas has a double. -/
def boundsAreRepresentable (old new : Json) : Bool :=
  (commonNames old.flatten new.flatten).all fun name =>
    match _ho : find? name old.flatten.properties, find? name new.flatten.properties with
    | some (.obj o), some (.obj n) =>
      propertyBoundsAreRepresentable o n &&
        (if declaredType o = "object" ∧ declaredType n = "object" then
          boundsAreRepresentable (.obj o) (.obj n)
        else true) &&
        (if declaredType o = "array" ∧ declaredType n = "array" then
          match _hi : find? "items" o, find? "items" n with
          | some (.obj oi), some (.obj ni) => boundsAreRepresentable (.obj oi) (.obj ni)
          | _, _ => true
        else true)
    | _, _ => true
termination_by sizeOf old
decreasing_by
  · exact Json.sizeOf_lt_of_find?_flatten _ho
  · have h1 := Json.sizeOf_lt_of_find?_flatten _ho
    have h2 := Json.sizeOf_lt_of_find? _hi
    simp at h1 h2 ⊢
    omega

end TypeRegistry
