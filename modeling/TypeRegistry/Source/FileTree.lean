import TypeRegistry.Dictionary
import TypeRegistry.Text.Split

/-!
# File trees

The files that a registry is loaded from, as a tree of directories.  A location is the list of the
names from the top of the tree down.  Only files with one of three extensions hold documents, and
the walk through a directory leaves out the sub-directories of tools and builds.

Main definitions:

- `FileTree`, `SourceFile`: files and directories, and a file with its location.
- `Workspace`, `Workspace.locate`: a tree with a working directory, and the location of a path.
- `Workspace.expandHome`, `Workspace.rootLocation`: home directories, and the location of a root.
- `FileTree.at?`, `FileTree.graft`: what stands at a location, and putting something there.
- `FileTree.documents`: the document files under a directory, in the order of the walk.
- `Workspace.documentsOf`: the document files of several roots, each once.
-/

namespace TypeRegistry

open Dictionary

/-- The names from the top of a tree down. -/
abbrev Location := List String

/-- A file, perhaps one that may not be opened, or a directory.  The names in a directory are
distinct. -/
inductive FileTree where
  | file (bytes : ByteArray)
  | unreadable
  | directory (entries : List (String × FileTree))

/-- A file that may hold documents, with its bytes if it can be read. -/
structure SourceFile where
  location : Location
  bytes : Option ByteArray

/-! ## Names -/

/-- The ends of the names of files that may hold documents. -/
def documentExtensions : List String := [".json", ".jsonc", ".gts"]

/-- The directories that a walk does not enter. -/
def skippedDirectories : List String := ["node_modules", "dist", "build"]

/-- Whether a file of some name may hold documents; capitals count as small letters. -/
def isDocumentName (name : String) : Bool :=
  let lowered := String.ofList (name.toList.map Char.toLower)
  documentExtensions.any fun extension => Text.endsWith extension lowered

/-! ## The walk -/

namespace FileTree

/-- What stands at a location below a tree. -/
def at? : Location → FileTree → Option FileTree
  | [], tree => some tree
  | name :: rest, .directory entries =>
    match find? name entries with
    | some tree => at? rest tree
    | none => none
  | _ :: _, .file _ => none
  | _ :: _, .unreadable => none

/-- The file that a tree is, at a location; a directory is none. -/
def asFile? (location : Location) : FileTree → Option SourceFile
  | .file bytes => some ⟨location, some bytes⟩
  | .unreadable => some ⟨location, none⟩
  | .directory _ => none

/-- The tree with another one put at a location, directories being made on the way down. -/
def graft : (tree : FileTree) → Location → (added : FileTree) → FileTree
  | _, [], added => added
  | .directory entries, name :: rest, added =>
    .directory (put name (graft ((find? name entries).getD (.directory [])) rest added) entries)
  | .file _, name :: rest, added => .directory [(name, graft (.directory []) rest added)]
  | .unreadable, name :: rest, added => .directory [(name, graft (.directory []) rest added)]

/-- What is put at a location stands there. -/
@[simp]
theorem at?_graft (tree : FileTree) (location : Location) (added : FileTree) :
    (tree.graft location added).at? location = some added := by
  induction location generalizing tree with
  | nil => cases tree <;> rfl
  | cons name rest ih =>
    cases tree with
    | file bytes => simp [graft, at?, find?, ih]
    | unreadable => simp [graft, at?, find?, ih]
    | directory entries => simp [graft, at?, ih]

/-- The document files right in a directory, under their names. -/
def ownDocuments (location : Location) (entries : List (String × FileTree)) :
    Dictionary SourceFile :=
  entries.filterMap fun (name, tree) =>
    if isDocumentName name then (tree.asFile? (location ++ [name])).map (name, ·) else none

mutual

/-- The document files under a directory: its own files sorted by name, then those of its
sub-directories in the order of their names.  A file has none under it. -/
def documents (location : Location) : FileTree → List SourceFile
  | .file _ => []
  | .unreadable => []
  | .directory entries =>
    (sortByName (ownDocuments location entries)).map (·.2) ++
      (sortByName (subdirectories location entries)).flatMap (·.2)

/-- The document files of every sub-directory that the walk enters, under its name. -/
def subdirectories (location : Location) :
    List (String × FileTree) → Dictionary (List SourceFile)
  | [] => []
  | (_, .file _) :: rest => subdirectories location rest
  | (_, .unreadable) :: rest => subdirectories location rest
  | (name, .directory entries) :: rest =>
    if name ∈ skippedDirectories then subdirectories location rest
    else
      (name, documents (location ++ [name]) (.directory entries)) :: subdirectories location rest

end

end FileTree

/-! ## Workspaces -/

/-- A tree of files with the working directory that relative paths start from. -/
structure Workspace where
  tree : FileTree
  directory : Location
  /-- The home directories of users; the user at work goes by the empty name. -/
  homes : String → Option String := fun _ => none

namespace Workspace

/-- Follow the names of a path: a point stays, two points go up. -/
def follow (location : Location) : List String → Location
  | [] => location
  | name :: rest =>
    if name = "" ∨ name = "." then follow location rest
    else if name = ".." then follow location.dropLast rest
    else follow (location ++ [name]) rest

/-- The location of a path. -/
def locate (workspace : Workspace) (path : String) : Location :=
  follow (if Text.startsWith "/" path then [] else workspace.directory) (Text.pieces '/' path)

/-- What a path names. -/
def at? (workspace : Workspace) (path : String) : Option FileTree :=
  workspace.tree.at? (workspace.locate path)

/-- A path with a home directory in place of the tilde, and of the name of a user behind it, that it
begins with; the path as it is if the home directory is not known. -/
def expandHome (workspace : Workspace) (path : String) : String :=
  match path.toList with
  | '~' :: rest =>
    match workspace.homes (String.ofList (rest.takeWhile (· ≠ '/'))) with
    | none => path
    | some home =>
      let expanded :=
        Text.dropEndWhere (· == '/') home ++ String.ofList (rest.dropWhile (· ≠ '/'))
      if expanded.isEmpty then "/" else expanded
  | _ => path

/-- The location of a root, which may begin with the tilde of a home directory. -/
def rootLocation (workspace : Workspace) (root : String) : Location :=
  workspace.locate (workspace.expandHome root)

/-- The document files that a root stands for: itself, or those under it. -/
def documentsUnder (workspace : Workspace) (root : String) : List SourceFile :=
  let location := workspace.rootLocation root
  match workspace.tree.at? location with
  | some (.directory entries) => FileTree.documents location (.directory entries)
  | some tree =>
    if isDocumentName (location.getLastD "") then (tree.asFile? location).toList else []
  | none => []

/-- The files whose locations do not occur before in the list or among the given ones. -/
def withoutRepetitions : (seen : List Location) → List SourceFile → List SourceFile
  | _, [] => []
  | seen, file :: rest =>
    if file.location ∈ seen then withoutRepetitions seen rest
    else file :: withoutRepetitions (file.location :: seen) rest

/-- The document files of several roots, each once, in the order of first occurrence. -/
def documentsOf (workspace : Workspace) (roots : List String) : List SourceFile :=
  withoutRepetitions [] (roots.flatMap workspace.documentsUnder)

end Workspace

end TypeRegistry
