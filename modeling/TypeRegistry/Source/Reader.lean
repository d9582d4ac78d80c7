import TypeRegistry.Entity.Extraction
import TypeRegistry.Json.Reader
import TypeRegistry.Source.FileTree

/-!
# Readers

A store is filled by a reader, which hands out entities one at a time and can be rewound.  A file
reader opens the document files of its roots one after the other; a file holds one object or a list
of objects, and files that cannot be read or are no JSON are passed over.  A list reader hands out
given entities, and can also look one up by its identifier.  Only entities with an identifier are
handed out.

Main definitions:

- `SourceFile.document?`, `SourceFile.entities`: the document that a file holds, and its entities.
- `FileReader`, `ListReader`: the two readers, with `next` and `rewound`.
- `Reader`: either of them; `Reader.remaining` is what it would still hand out.
-/

namespace TypeRegistry

/-! ## The entities of a file -/

/-- Every line end as a line feed. -/
def unifyLineEnds : List Char → List Char
  | '\r' :: '\n' :: rest => '\n' :: unifyLineEnds rest
  | '\r' :: rest => '\n' :: unifyLineEnds rest
  | c :: rest => c :: unifyLineEnds rest
  | [] => []

/-- The text that bytes encode in UTF-8, line ends unified. -/
def decodedText? (bytes : ByteArray) : Option String :=
  (String.fromUTF8? bytes).map fun s => String.ofList (unifyLineEnds s.toList)

/-- The entity of an object, if it has an identifier. -/
def identifiedEntity? (names : FieldNames) (origin : Origin) (document : Json) : Option Entity :=
  if document.isObject then
    let entity := Entity.ofContent names (some origin) document
    if entity.id.isSome then some entity else none
  else none

/-- The document that a file holds; a file that cannot be read holds none. -/
def SourceFile.document? (file : SourceFile) : Option Json :=
  (file.bytes.bind decodedText?).bind fun text => (Json.read text).toOption

/-- The entities of a file: of the object it holds, or of the objects in the list it holds. -/
def SourceFile.entities (names : FieldNames) (file : SourceFile) : List Entity :=
  match file.document? with
  | some (.arr items) =>
    items.zipIdx.filterMap fun (item, place) =>
      identifiedEntity? names ⟨file.location, some place⟩ item
  | some document => (identifiedEntity? names ⟨file.location, none⟩ document).toList
  | none => []

/-! ## Reading files -/

/-- A reader of files.  The files are listed at the first request after a start or a rewind. -/
structure FileReader where
  workspace : Workspace
  roots : List String
  names : FieldNames
  /-- The files still to be opened, once they are listed. -/
  files : Option (List SourceFile) := none
  /-- The entities of the file opened last that are still to be handed out. -/
  pending : List Entity := []

namespace FileReader

/-- The files still to be opened. -/
def toOpen (reader : FileReader) : List SourceFile :=
  reader.files.getD (reader.workspace.documentsOf reader.roots)

/-- Open files until one has entities: those entities, and the files behind. -/
def openNext (names : FieldNames) : List SourceFile → List Entity × List SourceFile
  | [] => ([], [])
  | file :: rest =>
    match file.entities names with
    | [] => openNext names rest
    | entities => (entities, rest)

/-- The next entity, if there is one, and the reader behind it. -/
def next (reader : FileReader) : Option Entity × FileReader :=
  match reader.pending with
  | entity :: rest =>
    (some entity, { reader with files := some reader.toOpen, pending := rest })
  | [] =>
    match openNext reader.names reader.toOpen with
    | (entity :: rest, files) => (some entity, { reader with files := some files, pending := rest })
    | ([], files) => (none, { reader with files := some files })

/-- The reader before the first entity. -/
def rewound (reader : FileReader) : FileReader :=
  { reader with files := none, pending := [] }

/-- All entities that are still to be handed out. -/
def remaining (reader : FileReader) : List Entity :=
  reader.pending ++ reader.toOpen.flatMap (·.entities reader.names)

/-- The reader once everything is handed out. -/
def exhausted (reader : FileReader) : FileReader :=
  { reader with files := some [], pending := [] }

end FileReader

/-! ## Reading a list -/

/-- A reader of given entities. -/
structure ListReader where
  entities : List Entity
  position : Nat := 0

namespace ListReader

/-- The reader of those among some entities that have an identifier. -/
def ofEntities (entities : List Entity) : ListReader :=
  ⟨entities.filter (·.id.isSome), 0⟩

/-- The next entity, if there is one, and the reader behind it. -/
def next (reader : ListReader) : Option Entity × ListReader :=
  match reader.entities[reader.position]? with
  | some entity => (some entity, { reader with position := reader.position + 1 })
  | none => (none, reader)

/-- The reader before the first entity. -/
def rewound (reader : ListReader) : ListReader :=
  { reader with position := 0 }

/-- The last entity with an identifier. -/
def find? (reader : ListReader) (id : String) : Option Entity :=
  reader.entities.reverse.find? fun entity => entity.idText == some id

/-- All entities that are still to be handed out. -/
def remaining (reader : ListReader) : List Entity :=
  reader.entities.drop reader.position

/-- The reader once everything is handed out. -/
def exhausted (reader : ListReader) : ListReader :=
  { reader with position := max reader.position reader.entities.length }

end ListReader

/-! ## Either reader -/

/-- A reader of files or of a list. -/
inductive Reader where
  | files (reader : FileReader)
  | list (reader : ListReader)

namespace Reader

/-- The next entity, if there is one, and the reader behind it. -/
def next : Reader → Option Entity × Reader
  | files reader => let (entity, behind) := reader.next; (entity, files behind)
  | list reader => let (entity, behind) := reader.next; (entity, list behind)

/-- The reader before the first entity. -/
def rewound : Reader → Reader
  | files reader => files reader.rewound
  | list reader => list reader.rewound

/-- The entity with an identifier, from readers that can look one up. -/
def find? : Reader → String → Option Entity
  | files _, _ => none
  | list reader, id => reader.find? id

/-- The number of entities that can be looked up. -/
def lookupCount : Reader → Nat
  | files _ => 0
  | list reader => reader.entities.length

/-- All entities that are still to be handed out. -/
def remaining : Reader → List Entity
  | files reader => reader.remaining
  | list reader => reader.remaining

/-- The reader once everything is handed out. -/
def exhausted : Reader → Reader
  | files reader => files reader.exhausted
  | list reader => list reader.exhausted

/-- The reader behind a number of requests. -/
def skip : (requests : Nat) → Reader → Reader
  | 0, reader => reader
  | requests + 1, reader => skip requests reader.next.2

end Reader

/-! ## Requests and what remains -/

/-- The files opened for the next entities had none before the one that has them. -/
theorem FileReader.flatMap_openNext (names : FieldNames) (files : List SourceFile) :
    (openNext names files).1 ++ (openNext names files).2.flatMap (·.entities names) =
      files.flatMap (·.entities names) := by
  induction files with
  | nil => rfl
  | cons file rest ih =>
    simp only [openNext]
    split
    next h => simp [ih, h]
    next h => simp

/-- Files are passed over to the last only if none has an entity. -/
theorem FileReader.openNext_snd_eq_nil {names : FieldNames} {files : List SourceFile}
    (h : (openNext names files).1 = []) : (openNext names files).2 = [] := by
  induction files with
  | nil => rfl
  | cons file rest ih =>
    simp only [openNext] at h ⊢
    split at h
    next => exact ih h
    next hne => exact absurd h hne

/-- A request hands out the first of the remaining entities and leaves the others. -/
theorem FileReader.remaining_eq (reader : FileReader) :
    reader.remaining =
      match reader.next with
      | (some entity, behind) => entity :: behind.remaining
      | (none, _) => [] := by
  cases hp : reader.pending with
  | cons entity rest => simp [next, remaining, hp, toOpen]
  | nil =>
    have hopen := flatMap_openNext reader.names reader.toOpen
    have hend := @openNext_snd_eq_nil reader.names reader.toOpen
    cases ho : openNext reader.names reader.toOpen with
    | mk entities files =>
      rw [ho] at hopen hend
      cases entities with
      | cons entity rest =>
        simp only [next, hp, ho, remaining, List.nil_append]
        simpa [toOpen] using hopen.symm
      | nil =>
        simp only [next, hp, ho, remaining, List.nil_append]
        rw [← hopen, hend rfl]
        rfl

/-- A request hands out the first of the remaining entities and leaves the others. -/
theorem ListReader.remaining_eq (reader : ListReader) :
    reader.remaining =
      match reader.next with
      | (some entity, behind) => entity :: behind.remaining
      | (none, _) => [] := by
  cases h : reader.entities[reader.position]? with
  | some entity =>
    obtain ⟨hlt, heq⟩ := List.getElem?_eq_some_iff.1 h
    simp only [next, h, remaining]
    rw [List.drop_eq_getElem_cons hlt, heq]
  | none => simp [next, remaining, List.getElem?_eq_none_iff.1 h]

end TypeRegistry
