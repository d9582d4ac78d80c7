import TypeRegistry.Json.Path
import TypeRegistry.Text.Split

/-!
# Selectors

A selector reads one value out of an entity: an identifier, an at sign and a path.  A path is a list
of parts between points or slashes; a part may be followed, or replaced, by positions in square
brackets.  A bracket that is not closed is part of a name.  In an array any part must spell a
position, in an object a bracketed part names nothing.

Main definitions:

- `PathPart`, `PathPart.ofPath`: the parts of a path.
- `SelectionFault`: why a path leads nowhere.
- `Json.select`: the value that parts lead to.
- `Selection`, `Selection.toJson`: the outcome of a selector.
-/

namespace TypeRegistry

/-! ## Parts of a path -/

/-- A part of a path: a name, or what stands between square brackets. -/
inductive PathPart where
  | name (text : String)
  | index (inner : String)
deriving DecidableEq, Repr

namespace PathPart

/-- The part as it is written. -/
def text : PathPart → String
  | name text => text
  | index inner => "[" ++ inner ++ "]"

/-- What spells a position when the part is used on an array. -/
def spelling : PathPart → String
  | name text => text
  | index inner => inner

/-- A name, if any characters were read for it. -/
def nameOf (buffer : List Char) : List PathPart :=
  if buffer.isEmpty then [] else [name (String.ofList buffer)]

/-- The parts of a segment between points.  `buffer` is the name read so far, `bracket` what is read
behind an opening bracket that is not closed yet. -/
def scan : (buffer : List Char) → (bracket : Option (List Char)) → List Char → List PathPart
  | buffer, none, [] => nameOf buffer
  | buffer, some inner, [] => nameOf (buffer ++ '[' :: inner)
  | buffer, none, c :: rest =>
    if c = '[' then scan buffer (some []) rest else scan (buffer ++ [c]) none rest
  | buffer, some inner, c :: rest =>
    if c = ']' then nameOf buffer ++ index (String.ofList inner) :: scan [] none rest
    else scan buffer (some (inner ++ [c])) rest

/-- The parts of a path; points and slashes separate them alike. -/
def ofPath (path : String) : List PathPart :=
  let dotted := path.toList.map fun c => if c = '/' then '.' else c
  (Text.splitOn '.' dotted).flatMap (scan [] none)

end PathPart

/-! ## Following a path -/

/-- Why a path leads nowhere. -/
inductive SelectionFault where
  | pathMissing
  | entityMissing (id : String)
  | noSuchMember (part path : String) (available : List String)
  | positionExpected (part : String) (available : List String)
  | outOfRange (part : String) (available : List String)
  | noContainer (kind part : String)
deriving DecidableEq, Repr

namespace SelectionFault

/-- The wording of a fault. -/
def message : SelectionFault → String
  | pathMissing => "Attribute selector requires '@path' in the identifier"
  | entityMissing id => "Entity not found: " ++ id
  | noSuchMember part path _ =>
    "Path not found at segment '" ++ part ++ "' in '" ++ path ++ "', see available fields"
  | positionExpected part _ => "Expected list index at segment '" ++ part ++ "'"
  | outOfRange part _ => "Index out of range at segment '" ++ part ++ "'"
  | noContainer kind part => "Cannot descend into " ++ kind ++ " at segment '" ++ part ++ "'"

/-- The paths that would have led further. -/
def available : SelectionFault → List String
  | noSuchMember _ _ fields => fields
  | positionExpected _ fields => fields
  | outOfRange _ fields => fields
  | _ => []

end SelectionFault

/-- The item at a position, if the position is one of the array's. -/
def itemAt? (items : List Json) (position : Int) : Option Json :=
  match position with
  | .ofNat place => items[place]?
  | .negSucc _ => none

namespace Json

/-- The value that one part leads to; `path` is the whole path, for the fault. -/
def selectPart (path : String) (part : PathPart) (document : Json) : Except SelectionFault Json :=
  match document with
  | .obj members =>
    match part with
    | .name name =>
      match Dictionary.find? name members with
      | some value => .ok value
      | none => .error (.noSuchMember part.text path (innerPaths "" document))
    | .index _ => .error (.noSuchMember part.text path (innerPaths "" document))
  | .arr items =>
    match Text.wholeNumber? part.spelling with
    | none => .error (.positionExpected part.text (innerPaths "" document))
    | some position =>
      match itemAt? items position with
      | some item => .ok item
      | none => .error (.outOfRange part.text (innerPaths "" document))
  | scalar => .error (.noContainer scalar.kindName part.text)

/-- The value that parts lead to, one after the other. -/
def selectParts (path : String) : List PathPart → Json → Except SelectionFault Json
  | [], document => .ok document
  | part :: rest, document =>
    match selectPart path part document with
    | .ok value => selectParts path rest value
    | .error fault => .error fault

/-- The value that a path leads to. -/
def select (path : String) (document : Json) : Except SelectionFault Json :=
  selectParts path (PathPart.ofPath path) document

end Json

/-! ## Outcomes -/

/-- The outcome of a selector. -/
structure Selection where
  id : String
  path : String
  outcome : Except SelectionFault Json

/-- The identifier and the path of a selector. -/
def Selection.split (selector : String) : String × String :=
  match Text.cutAt? '@' selector.toList with
  | some (id, path) => (String.ofList id, String.ofList path)
  | none => (selector, "")

/-- An outcome as a document. -/
def Selection.toJson (selection : Selection) : Json :=
  let head : Json.Members := [("gts_id", .str selection.id), ("path", .str selection.path)]
  match selection.outcome with
  | .ok value => .obj (head ++ [("resolved", .bool true), ("value", value)])
  | .error fault =>
    let available : Json.Members :=
      if fault.available.isEmpty then []
      else [("available_fields", .arr (fault.available.map .str))]
    .obj (head ++ [("resolved", .bool false), ("error", .str fault.message)] ++ available)

end TypeRegistry
