/-!
# Cutting and joining text

Identifiers, selectors and queries are cut at fixed characters.  The cuts are defined on lists of
characters, where they are short recursions, and used on strings.

Main definitions:

- `splitOn`: the pieces between separators; a text without the separator is one piece.
- `cutAfter`: the pieces of a text that is cut behind every separator, nothing being lost.
- `cutAt?`: what stands before and after the first separator.
- `startsWith`, `endsWith`, `contains`, `dropStart?`: tests on the ends and parts of a string.
- `joinWith`: strings with a separator between them.
- `sortedDistinct`: strings in ascending order of code points, each once.
-/

namespace TypeRegistry.Text

/-! ## Cuts on lists of characters -/

/-- The pieces between the separators, empty pieces included. -/
def splitOn (separator : Char) : List Char → List (List Char)
  | [] => [[]]
  | c :: rest =>
    if c = separator then [] :: splitOn separator rest
    else
      match splitOn separator rest with
      | [] => [[c]]
      | piece :: pieces => (c :: piece) :: pieces

/-- The pieces of a text that is cut behind every separator. -/
def cutAfter (separator : Char) : List Char → List (List Char)
  | [] => []
  | c :: rest =>
    if c = separator then [c] :: cutAfter separator rest
    else
      match cutAfter separator rest with
      | [] => [[c]]
      | piece :: pieces => (c :: piece) :: pieces

/-- What stands before and after the first separator, if there is one. -/
def cutAt? (separator : Char) : List Char → Option (List Char × List Char)
  | [] => none
  | c :: rest =>
    if c = separator then some ([], rest)
    else (cutAt? separator rest).map fun cut => (c :: cut.1, cut.2)

/-- Splitting never yields an empty list of pieces. -/
theorem splitOn_ne_nil (separator : Char) (cs : List Char) : splitOn separator cs ≠ [] := by
  cases cs with
  | nil => simp [splitOn]
  | cons c rest =>
    simp only [splitOn]
    split
    · simp
    · split <;> simp

/-- Cutting behind separators loses nothing. -/
@[simp]
theorem flatten_cutAfter (separator : Char) (cs : List Char) :
    (cutAfter separator cs).flatten = cs := by
  induction cs with
  | nil => rfl
  | cons c rest ih =>
    simp only [cutAfter]
    split
    · simp [ih]
    · split
      next h => rw [h] at ih; simp at ih; simp [← ih]
      next h => rw [h] at ih; simp at ih; simp [ih]

/-- No piece of a cut is empty. -/
theorem ne_nil_of_mem_cutAfter {separator : Char} {cs piece : List Char}
    (h : piece ∈ cutAfter separator cs) : piece ≠ [] := by
  induction cs generalizing piece with
  | nil => simp [cutAfter] at h
  | cons c rest ih =>
    simp only [cutAfter] at h
    split at h
    · rcases List.mem_cons.1 h with rfl | h
      · simp
      · exact ih h
    · split at h
      next => simp at h; simp [h]
      next p ps hp =>
        rcases List.mem_cons.1 h with rfl | h
        · simp
        · exact ih (hp ▸ List.mem_cons_of_mem _ h)

/-- The parts of a cut at a separator, with the separator between them, are the text. -/
theorem cutAt?_eq_some {separator : Char} {cs before after : List Char}
    (h : cutAt? separator cs = some (before, after)) :
    cs = before ++ separator :: after ∧ separator ∉ before := by
  induction cs generalizing before with
  | nil => simp [cutAt?] at h
  | cons c rest ih =>
    simp only [cutAt?] at h
    split at h
    next hc => simp only [Option.some.injEq, Prod.mk.injEq] at h; simp [← h.1, ← h.2, hc]
    next hc =>
      obtain ⟨cut, hcut, heq⟩ := Option.map_eq_some_iff.1 h
      simp only [Prod.mk.injEq] at heq
      obtain ⟨hrest, hnot⟩ := @ih cut.1 (by rw [hcut, ← heq.2])
      rw [← heq.1, hrest]
      simpa [hnot] using fun h : separator = c => hc h.symm

/-! ## Tests and cuts on strings -/

/-- Whether a string begins with a given one. -/
def startsWith (lead s : String) : Bool :=
  lead.toList.isPrefixOf s.toList

/-- Whether a string ends with a given one. -/
def endsWith (tail s : String) : Bool :=
  tail.toList.isSuffixOf s.toList

/-- Whether a text occurs inside another. -/
def occursIn (part : List Char) : List Char → Bool
  | [] => part.isEmpty
  | c :: rest => part.isPrefixOf (c :: rest) || occursIn part rest

/-- Whether a string occurs inside another. -/
def contains (part s : String) : Bool :=
  occursIn part.toList s.toList

/-- The string behind a given beginning, if it has that beginning. -/
def dropStart? (lead s : String) : Option String :=
  if startsWith lead s then some (String.ofList (s.toList.drop lead.length)) else none

/-- The string without its last character. -/
def dropLast (s : String) : String :=
  String.ofList s.toList.dropLast

/-- The string without the characters of a class at its end. -/
def dropEndWhere (drop : Char → Bool) (s : String) : String :=
  String.ofList (s.toList.reverse.dropWhile drop).reverse

/-- The part of a string before the first separator: all of it if there is none. -/
def before (separator : Char) (s : String) : String :=
  match cutAt? separator s.toList with
  | some (lead, _) => String.ofList lead
  | none => s

/-- The pieces of a string between separators. -/
def pieces (separator : Char) (s : String) : List String :=
  (splitOn separator s.toList).map String.ofList

/-- How often a character occurs in a string. -/
def count (c : Char) (s : String) : Nat :=
  s.toList.count c

/-! ## Joining and sorting strings -/

/-- Strings with a separator between them. -/
def joinWith (separator : String) : List String → String
  | [] => ""
  | [s] => s
  | s :: rest => s ++ separator ++ joinWith separator rest

/-- Insert a string into an ascending list, unless it is there already. -/
def insertDistinct (s : String) : List String → List String
  | [] => [s]
  | t :: rest =>
    if s = t then t :: rest
    else if s < t then s :: t :: rest
    else t :: insertDistinct s rest

/-- The strings in ascending order of code points, each once. -/
def sortedDistinct (strings : List String) : List String :=
  strings.foldr insertDistinct []

/-- The strings, each once, at the place of its first occurrence. -/
def distinct (strings : List String) : List String :=
  strings.foldl (fun kept s => if s ∈ kept then kept else kept ++ [s]) []

theorem mem_insertDistinct {s t : String} {strings : List String} :
    t ∈ insertDistinct s strings ↔ t = s ∨ t ∈ strings := by
  induction strings with
  | nil => simp [insertDistinct]
  | cons u rest ih =>
    simp only [insertDistinct]
    split
    next h => subst h; simp
    next h =>
      split
      · simp
      · simp only [List.mem_cons, ih]
        constructor
        · rintro (h | h | h) <;> simp [h]
        · rintro (h | h | h) <;> simp [h]

@[simp]
theorem mem_sortedDistinct {t : String} {strings : List String} :
    t ∈ sortedDistinct strings ↔ t ∈ strings := by
  induction strings with
  | nil => simp [sortedDistinct]
  | cons s rest ih => simpa [sortedDistinct, mem_insertDistinct] using or_congr_right ih

/-- Dropping repetitions loses no string. -/
@[simp]
theorem mem_distinct {t : String} {strings : List String} :
    t ∈ distinct strings ↔ t ∈ strings := by
  have hfold : ∀ kept : List String,
      t ∈ strings.foldl (fun kept s => if s ∈ kept then kept else kept ++ [s]) kept ↔
        t ∈ kept ∨ t ∈ strings := by
    induction strings with
    | nil => simp
    | cons s rest ih =>
      intro kept
      rw [List.foldl_cons, ih, List.mem_cons]
      split
      next h =>
        constructor
        · rintro (h' | h') <;> simp [h']
        · rintro (h' | rfl | h')
          · exact .inl h'
          · exact .inl h
          · exact .inr h'
      next => simp [or_assoc]
  simpa [distinct] using hfold []

end TypeRegistry.Text
