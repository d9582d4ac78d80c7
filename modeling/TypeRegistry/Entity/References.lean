import TypeRegistry.Entity.Basic
import TypeRegistry.Json.Path

/-!
# References in a document

Every string of a document that is an identifier, the lead of a URI aside, refers to another entity.
References are listed in document order with the path at which they stand: names joined by points,
positions in square brackets, and `root` for the document itself.  The same identifier at the same
path is listed once.

Main definitions:

- `Reference.occurrences`: the references of a document, one for each string that is an identifier.
- `Reference.ofDocument`: the same without repetitions.
-/

namespace TypeRegistry.Reference

/-- The path of the document itself. -/
def rootPath : String := "root"

/-- The reference that a string is. -/
def ofString? (path s : String) : Option Reference :=
  let id := Identifier.withoutUriLead s
  if Identifier.isValid id then some ⟨id, if path.isEmpty then rootPath else path⟩ else none

mutual

/-- The references of a document at a path, in document order. -/
def occurrences (path : String) : Json → List Reference
  | .str s => (ofString? path s).toList
  | .arr items => itemOccurrences path 0 items
  | .obj members => memberOccurrences path members
  | _ => []

/-- The references of the items of an array, from a place on. -/
def itemOccurrences (path : String) : (place : Nat) → List Json → List Reference
  | _, [] => []
  | place, item :: rest =>
    occurrences (itemPath path place) item ++ itemOccurrences path (place + 1) rest

/-- The references of the members of an object. -/
def memberOccurrences (path : String) : Json.Members → List Reference
  | [] => []
  | (name, value) :: rest =>
    occurrences (memberPath path name) value ++ memberOccurrences path rest

end

/-- The list without repetitions, every reference at the place of its first occurrence. -/
def firstOccurrences : (seen : List Reference) → List Reference → List Reference
  | _, [] => []
  | seen, ref :: rest =>
    if ref ∈ seen then firstOccurrences seen rest
    else ref :: firstOccurrences (ref :: seen) rest

/-- The references of a document, each once, in document order. -/
def ofDocument (document : Json) : List Reference :=
  firstOccurrences [] (occurrences "" document)

theorem mem_firstOccurrences {ref : Reference} {seen refs : List Reference} :
    ref ∈ firstOccurrences seen refs ↔ ref ∈ refs ∧ ref ∉ seen := by
  induction refs generalizing seen with
  | nil => simp [firstOccurrences]
  | cons first rest ih =>
    simp only [firstOccurrences]
    split
    next h =>
      rw [ih]
      constructor
      · rintro ⟨h1, h2⟩; exact ⟨List.mem_cons_of_mem _ h1, h2⟩
      · rintro ⟨h1, h2⟩
        rcases List.mem_cons.1 h1 with rfl | h1
        · exact absurd h h2
        · exact ⟨h1, h2⟩
    next h =>
      simp only [List.mem_cons, ih, not_or]
      constructor
      · rintro (rfl | ⟨h1, h2, h3⟩)
        · exact ⟨.inl rfl, h⟩
        · exact ⟨.inr h1, h3⟩
      · rintro ⟨rfl | h1, h2⟩
        · exact .inl rfl
        · by_cases he : ref = first
          · exact .inl he
          · exact .inr ⟨h1, he, h2⟩

/-- Dropping repetitions loses no reference. -/
theorem mem_ofDocument {ref : Reference} {document : Json} :
    ref ∈ ofDocument document ↔ ref ∈ occurrences "" document := by
  simp [ofDocument, mem_firstOccurrences]

end TypeRegistry.Reference
