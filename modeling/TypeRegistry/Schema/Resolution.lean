import TypeRegistry.Json.Literal
import TypeRegistry.Schema.Registered
import TypeRegistry.Selector
import TypeRegistry.Text.Percent

/-!
# Resolving references

A reference is joined to the address where it stands.  The part before its number sign names a
schema in the library or a registered one, which is put into the library; the part behind it is a
pointer into that schema or an anchor.  A pointer that passes a schema with a name of its own leads
to a place at the address of that schema.  An anchor that moves with the place it is called from
names the outermost schema so called among those that references came through.

Main definitions:

- `ResolutionFault`: why a reference leads nowhere.
- `EvaluationFault`, `Trial`: why an evaluation has no answer, and evaluations that may have none.
- `Scope`: where a reference stands.
- `Scope.into`: the scope of a schema inside a schema.
- `Scope.resolve`, `Scope.recur`: the schema that a reference leads to, with the scope there.
-/

namespace TypeRegistry

/-! ## Faults -/

/-- Why a reference leads nowhere while a schema is used. -/
inductive ResolutionFault where
  | unresolvable (ref : String)
  | pointerToNowhere (pointer : String) (document : Json)
  | noSuchAnchor (anchor : String) (document : Json)
  | invalidAnchor (anchor : String)

/-- The advice that goes with a pointer that is a mere slash. -/
def slashAdvice : String :=
  ". The pointer '/' is a valid JSON Pointer but it points to an empty string property ''. " ++
    "If you intended to point to the entire resource, you should use '#'."

/-- The name of a fault, and what is said about it. -/
def ResolutionFault.parts : ResolutionFault → String × String
  | unresolvable ref => ("Unresolvable", ref)
  | pointerToNowhere pointer document =>
    ("PointerToNowhere", Text.quoted pointer ++ " does not exist within " ++ document.literal ++
      (if pointer = "/" then slashAdvice else ""))
  | noSuchAnchor anchor document =>
    ("NoSuchAnchor", Text.quoted anchor ++ " does not exist within " ++ document.literal)
  | invalidAnchor anchor =>
    ("InvalidAnchor", "'#" ++ anchor ++
      "' is not a valid anchor, neither as a plain name anchor nor as a JSON Pointer. " ++
      "You may have intended to use '#/" ++ anchor ++
      "', as the slash is required *before each segment* of a JSON pointer.")

/-- The wording of a fault, with its name unless that is left out. -/
def ResolutionFault.message (fault : ResolutionFault) (isNamed : Bool) : String :=
  "Unresolvable reference: " ++ (if isNamed then fault.parts.1 ++ ": " else "") ++ fault.parts.2

/-- Why an evaluation has no answer: a reference leads nowhere, or the evaluation breaks down.  The
name of what is wrong with a reference is left out where the reference is not followed to evaluate
a schema. -/
inductive EvaluationFault where
  | unresolved (fault : ResolutionFault) (isNamed : Bool)
  | breakdown (cause : Breakdown)

/-- An answer that a fault may stand in the way of, with what was looked up for it. -/
abbrev Trial (α : Type) := Consulted (Except EvaluationFault α)

namespace Trial

/-- An answer for which nothing was looked up. -/
def pure {α : Type} (value : α) : Trial α :=
  Consulted.pure (.ok value)

/-- A fault for which nothing was looked up. -/
def ofFault {α : Type} (fault : EvaluationFault) : Trial α :=
  Consulted.pure (.error fault)

/-- A reference that leads nowhere. -/
def ofResolution {α : Type} (fault : ResolutionFault) : Trial α :=
  ofFault (.unresolved fault true)

/-- An answer unless the evaluation breaks down. -/
def ofExcept {α : Type} : Except Breakdown α → Trial α
  | .ok value => pure value
  | .error cause => ofFault (.breakdown cause)

/-- Work on with an answer. -/
def bind {α β : Type} (trial : Trial α) (next : α → Trial β) : Trial β :=
  Consulted.bind trial fun
    | .ok value => next value
    | .error fault => ofFault fault

/-- The answers of several trials one after the other, joined. -/
def flatMap {α β : Type} (trial : α → Trial (List β)) : List α → Trial (List β)
  | [] => pure []
  | a :: rest => bind (trial a) fun found => bind (flatMap trial rest) fun others =>
    pure (found ++ others)

/-- A trial in which what is wrong with a reference is not named. -/
def withoutName {α : Type} (trial : Trial α) : Trial α :=
  trial.mapValue fun
    | .error (.unresolved fault _) => .error (.unresolved fault false)
    | other => other

end Trial

/-! ## Scopes -/

/-- Where a reference stands: the dialect in use, the address at hand, the addresses that references
came through, the last one first, and what is known. -/
structure Scope where
  dialect : Dialect
  base : String
  outer : List String := []
  library : Library

namespace Scope

/-- The scope of a schema: that of its surroundings, in its own dialect. -/
def adopt (scope : Scope) (schema : Json) : Except Breakdown Scope := do
  return { scope with dialect := ← scope.dialect.adopt schema }

/-- The scope of what has a name of its own, if it has. -/
def named (scope : Scope) (id : Option String) : Except Breakdown Scope := do
  return { scope with base := ← addressOf scope.base id }

/-- The scope of a schema inside a schema. -/
def into (scope : Scope) (schema : Json) : Except Breakdown Scope := do
  scope.named (← scope.dialect.idOf schema)

/-- The scope behind a reference to an address. -/
def moved (scope : Scope) (address : String) (library : Library) : Scope :=
  let passes := !scope.base.isEmpty && (scope.outer.isEmpty || address ≠ scope.base)
  { scope with
    base := address
    outer := if passes then scope.base :: scope.outer else scope.outer
    library := library }

end Scope

/-! ## Pointers -/

/-- A name in a pointer with its escapes undone: first `~1`, then `~0`. -/
def unescapeName : List Char → List Char
  | '~' :: '1' :: rest => '/' :: unescapeName rest
  | '~' :: '0' :: rest => '~' :: unescapeName rest
  | c :: rest => c :: unescapeName rest
  | [] => []

/-- The item of an array at a position; negative positions count from its end. -/
def itemFromEitherEnd? (items : List Json) (position : Int) : Option Json :=
  if position < 0 then itemAt? items (position + items.length) else itemAt? items position

/-- The step that a name in a pointer makes into a document, and where it leads, if it leads
anywhere.  Into an array or a text a position leads, into all else but an object nothing can. -/
def stepInto (name : List Char) : Json → Except Breakdown (Option (PathStep × Json))
  | .obj members =>
    let name := String.ofList (unescapeName name)
    .ok ((Dictionary.find? name members).map fun part => (.name name, part))
  | value => do
    match value, Text.wholeNumber? (String.ofList name) with
    | .arr items, some position =>
      return (itemFromEitherEnd? items position).map fun part => (.place position.toNat, part)
    | .str s, some position =>
      return (itemFromEitherEnd? (← (Json.str s).listed?) position).map fun part =>
        (.place position.toNat, part)
    | .arr _, none => throw .notPosition
    | .str _, none => throw .notPosition
    | _, _ => throw .unfitKind

/-- What the names of a pointer lead to, if they lead anywhere, with the scope there, given the
steps since the last schema with a name of its own. -/
def pointTo (rules : Dialect) : (steps : List PathStep) → List (List Char) → Json → Scope →
    Except Breakdown (Option (Json × Scope))
  | _, [], document, scope => .ok (some (document, scope))
  | steps, name :: rest, document, scope => do
    match ← stepInto name document with
    | none => return none
    | some (step, part) =>
      let id ← if rules.leadsToPart part (steps ++ [step]) then rules.idOf part else pure none
      pointTo rules (if id.isSome then [] else steps ++ [step]) rest part (← scope.named id)

/-- The names of a pointer that starts with a slash. -/
def pointerNames (pointer : String) : List (List Char) :=
  Text.splitOn '/' (Text.percentDecoded (pointer.toList.drop 1))

/-! ## Resolution -/

namespace Scope

/-- What an anchor that moves names from a scope, given the addresses that references came through:
the schema of the outermost one that has an anchor of its name which moves too. -/
def outermost (scope : Scope) (name : String) : (found : Resource) → List String →
    Except Breakdown Resource
  | found, [] => .ok found
  | found, address :: rest => do
    match (← scope.library.anchor? address name).1 with
    | some other => scope.outermost name (if other.moves then other.resource else found) rest
    | none => scope.outermost name found rest

/-- What an anchor names from a scope, with the scope there. -/
def atAnchor (scope : Scope) (anchor : Anchor) : Except Breakdown (Json × Scope) := do
  if anchor.moves then
    let outermost ← scope.outermost anchor.name anchor.resource scope.outer
    return (outermost.content, ← scope.named (← outermost.id?))
  else return (anchor.resource.content, scope)

/-- What a fragment leads to in a schema, with the scope there, given that of the schema. -/
def atFragment (scope : Scope) (resource : Resource) (fragment : String) : Trial (Json × Scope) :=
  if fragment.isEmpty then .pure (resource.content, scope)
  else if Text.startsWith "/" fragment then
    (Trial.ofExcept (pointTo resource.rules [] (pointerNames fragment) resource.content scope)).bind
      fun
      | some target => .pure target
      | none => .ofResolution (.pointerToNowhere fragment resource.content)
  else
    (Trial.ofExcept (scope.library.anchor? scope.base fragment)).bind fun
      | (some anchor, library) => .ofExcept ({ scope with library }.atAnchor anchor)
      | (none, _) =>
        if fragment.toList.contains '/' then .ofResolution (.invalidAnchor fragment)
        else .ofResolution (.noSuchAnchor fragment resource.content)

/-- The schema at an address, known or fetched, with the scope there, if there is one. -/
def obtain (fetch : String → Consulted (Option Resource)) (scope : Scope) (address : String) :
    Trial (Option (Resource × Scope)) :=
  (Trial.ofExcept (scope.library.find? address)).bind fun
    | (some resource, library) => .pure (some (resource, scope.moved address library))
    | (none, library) =>
      (fetch address).mapValue fun fetched =>
        .ok (fetched.map fun resource =>
          (resource, scope.moved address (library.put address resource)))

/-- The address and the fragment that a reference names where it stands. -/
def target (scope : Scope) (ref : String) : Except Breakdown (String × String) :=
  match Text.dropStart? "#" ref with
  | some fragment => .ok (scope.base, fragment)
  | none =>
    match (Address.join? scope.base ref).bind Address.withoutFragment? with
    | some target => .ok target
    | none => .error .malformedAddress

/-- The schema that a reference leads to, with the scope there. -/
def resolve (fetch : String → Consulted (Option Resource)) (scope : Scope) (ref : String) :
    Trial (Json × Scope) :=
  (Trial.ofExcept (scope.target ref)).bind fun (address, fragment) =>
    (scope.obtain fetch address).bind fun
      | none => .ofResolution (.unresolvable ref)
      | some (resource, scope') => scope'.atFragment resource fragment

/-- Whether a schema lets a recursion go on outside it. -/
def isRecursive (schema : Json) : Bool :=
  ((schema.get? "$recursiveAnchor").map Json.isInhabited).getD false

/-- The last of some addresses up to which all schemas let the recursion go on, given the one found
so far. -/
def recurThrough (fetch : String → Consulted (Option Resource)) (scope : Scope)
    (found : Json × Scope) : List String → Trial (Json × Scope)
  | [] => .pure found
  | address :: rest =>
    (scope.resolve fetch address).bind fun next =>
      if isRecursive next.1 then recurThrough fetch scope next rest else .pure found

/-- The schema that a recursion leads to: the schema at hand, or, as long as the schemas let the
recursion go on, one that references came through. -/
def recur (fetch : String → Consulted (Option Resource)) (scope : Scope) : Trial (Json × Scope) :=
  (scope.resolve fetch "#").bind fun found =>
    if isRecursive found.1 then recurThrough fetch scope found scope.outer else .pure found

end Scope

end TypeRegistry
