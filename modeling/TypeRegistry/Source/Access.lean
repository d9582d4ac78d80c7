import TypeRegistry.Source.FileTree
import TypeRegistry.Text.Quoted

/-!
# Opening files

A path is followed name by name from the working directory, or from the top if it begins with a
slash.  Every name before the last must be that of a directory, and the path as a whole must lead to
a file that may be opened.  Names and paths have a greatest length.

Main definitions:

- `AccessFault`: why a path cannot be opened.
- `FileTree.enter`, `Workspace.openFile`: following names, and the bytes of the file at a path.
-/

namespace TypeRegistry

/-- Why a path cannot be opened. -/
inductive AccessCause where
  | missing
  | isDirectory
  | notDirectory
  | denied
  | tooLong
deriving DecidableEq, Repr

/-- A path that cannot be opened. -/
structure AccessFault where
  path : String
  cause : AccessCause
deriving DecidableEq, Repr

/-- The number and the wording of a cause. -/
def AccessCause.message : AccessCause → String
  | missing => "[Errno 2] No such file or directory"
  | isDirectory => "[Errno 21] Is a directory"
  | notDirectory => "[Errno 20] Not a directory"
  | denied => "[Errno 13] Permission denied"
  | tooLong => "[Errno 36] File name too long"

/-- The wording of a fault. -/
def AccessFault.message (fault : AccessFault) : String :=
  fault.cause.message ++ ": " ++ Text.quoted fault.path

/-- The greatest number of bytes in a name. -/
def nameLimit : Nat := 255

/-- The greatest number of bytes in a path. -/
def pathLimit : Nat := 4095

/-- What names lead to, one after the other, from a location of a tree: a point stays, two points go
up, and no name can be followed from a file. -/
def FileTree.enter (tree : FileTree) (location : Location) : List String →
    Except AccessCause FileTree
  | [] =>
    match tree.at? location with
    | some found => .ok found
    | none => .error .missing
  | name :: rest =>
    match tree.at? location with
    | none => .error .missing
    | some (.file _) => .error .notDirectory
    | some .unreadable => .error .notDirectory
    | some (.directory _) =>
      if name = "" ∨ name = "." then tree.enter location rest
      else if name = ".." then tree.enter location.dropLast rest
      else if nameLimit < name.utf8ByteSize then .error .tooLong
      else tree.enter (location ++ [name]) rest

/-- The bytes of the file at a path. -/
def Workspace.openFile (workspace : Workspace) (path : String) : Except AccessFault ByteArray :=
  let start := if Text.startsWith "/" path then [] else workspace.directory
  if path.isEmpty then .error ⟨path, .missing⟩
  else if pathLimit < path.utf8ByteSize then .error ⟨path, .tooLong⟩
  else
    match workspace.tree.enter start (Text.pieces '/' path) with
    | .error cause => .error ⟨path, cause⟩
    | .ok (.directory _) => .error ⟨path, .isDirectory⟩
    | .ok .unreadable => .error ⟨path, .denied⟩
    | .ok (.file bytes) => .ok bytes

end TypeRegistry
