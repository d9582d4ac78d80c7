import TypeRegistry.CommandLine.Run

/-!
# The program

The outer layer of the command line: it reads the variables of the environment and the files that a
run needs, prints what the run prints and ends with its exit code.
-/

namespace TypeRegistry

/-- A file, with its bytes if it can be read. -/
def readFile (entry : IO.FS.DirEntry) : IO FileTree := do
  try return .file (← IO.FS.readBinFile entry.path)
  catch _ => return .unreadable

/-- A file or a directory with all that is in it.  Links to directories are not followed, and a
directory that cannot be listed is left out. -/
partial def readEntry (entry : IO.FS.DirEntry) : IO (Option FileTree) := do
  try
    match (← entry.path.symlinkMetadata).type with
    | .dir =>
      let mut entries : List (String × FileTree) := []
      for inner in ← entry.path.readDir do
        if let some tree ← readEntry inner then entries := (inner.fileName, tree) :: entries
      return some (.directory entries)
    | _ => return some (← readFile entry)
  catch _ => return none

/-- What stands at a location, without what is in it. -/
def readOutline (location : Location) : IO (Option FileTree) := do
  let path := (⟨"/", Text.joinWith "/" location⟩ : IO.FS.DirEntry).path
  if ← path.isDir then return some (.directory [])
  else if ← path.pathExists then return some (.file .empty)
  else return none

/-- The tree with what stands on the way along a path. -/
def readWay (workspace : Workspace) (path : String) : IO FileTree := do
  let names := Text.pieces '/' path
  let mut tree := workspace.tree
  for count in [0 : names.length] do
    let location := workspace.locate (Text.joinWith "/" (names.take count))
    if (tree.at? location).isNone then
      if let some outline ← readOutline location then tree := tree.graft location outline
  return tree

/-- The workspace with what stands at a path. -/
def readPath (workspace : Workspace) (path : String) : IO Workspace := do
  let location := workspace.locate path
  let tree ← readWay workspace path
  match ← readEntry ⟨"/", Text.joinWith "/" location⟩ with
  | some found => return { workspace with tree := tree.graft location found }
  | none => return { workspace with tree := tree }

/-- The variables of the environment that are read. -/
def readEnvironment : IO Environment := do
  let mut environment : Environment := []
  for name in settingNames do
    if let some value ← IO.getEnv name then environment := environment ++ [(name, value)]
  return environment

end TypeRegistry

open TypeRegistry

/-- Run the command line on the arguments of the program. -/
def main (arguments : List String) : IO UInt32 := do
  let environment ← readEnvironment
  let directory := (← IO.currentDir).components.filter (· ≠ "")
  let empty : FileTree := .directory []
  let home ← IO.getEnv "HOME"
  let mut workspace : Workspace := {
    tree := empty.graft directory empty
    directory := directory
    homes := fun user => if user.isEmpty then home else none }
  for path in pathsToRead workspace environment arguments do
    workspace ← readPath workspace path
  let outcome := runCommandLine workspace environment arguments
  IO.print outcome.output
  return outcome.exitCode.toUInt32
