/-!
# Dictionaries

Values under names, in the order in which the names were first put in.  The members of an object,
the entities of a store and the filters of a query are dictionaries: their order shows in answers.

Main definitions:

- `find?`, `has`: look a name up.
- `put`: give a name a value, in its place if it is there, else at the end.
- `erase`, `putAll`, `keys`: drop a name, put several in, list the names.
- `sortByName`: the entries in ascending order of names.
-/

namespace TypeRegistry

/-- Values under names, in insertion order. -/
abbrev Dictionary (α : Type) := List (String × α)

namespace Dictionary

variable {α : Type}

/-- The value under a name. -/
def find? (name : String) : Dictionary α → Option α
  | [] => none
  | (key, value) :: rest => if key = name then some value else find? name rest

/-- Whether there is a value under a name. -/
def has (name : String) (entries : Dictionary α) : Bool :=
  (find? name entries).isSome

/-- Give a name a value: in its place if it is there, else at the end. -/
def put (name : String) (value : α) : Dictionary α → Dictionary α
  | [] => [(name, value)]
  | (key, old) :: rest =>
    if key = name then (key, value) :: rest else (key, old) :: put name value rest

/-- The dictionary without a name. -/
def erase (name : String) (entries : Dictionary α) : Dictionary α :=
  entries.filter fun entry => entry.1 ≠ name

/-- Put every entry of a second dictionary into a first one, in turn. -/
def putAll (entries extra : Dictionary α) : Dictionary α :=
  extra.foldl (fun acc entry => put entry.1 entry.2 acc) entries

/-- The names, in order. -/
def keys (entries : Dictionary α) : List String :=
  entries.map (·.1)

/-- Insert an entry behind all entries whose names are not greater. -/
def insertByName (entry : String × α) : Dictionary α → Dictionary α
  | [] => [entry]
  | other :: rest =>
    if entry.1 < other.1 then entry :: other :: rest else other :: insertByName entry rest

/-- The entries in ascending order of the code points of their names. -/
def sortByName (entries : Dictionary α) : Dictionary α :=
  entries.foldl (fun sorted entry => insertByName entry sorted) []

@[simp]
theorem find?_put_self (name : String) (value : α) (entries : Dictionary α) :
    find? name (put name value entries) = some value := by
  induction entries with
  | nil => simp [put, find?]
  | cons entry rest ih =>
    simp only [put]
    split
    next h => simp [find?, h]
    next h => simp [find?, h, ih]

theorem find?_put_of_ne {name other : String} (h : name ≠ other) (value : α)
    (entries : Dictionary α) : find? other (put name value entries) = find? other entries := by
  induction entries with
  | nil => simp [put, find?, h]
  | cons entry rest ih =>
    simp only [put]
    split
    next hk => simp [find?, hk, h]
    next => simp [find?, ih]

/-- Replacing a value keeps the order of names, a new name comes last. -/
theorem keys_put (name : String) (value : α) (entries : Dictionary α) :
    keys (put name value entries) =
      if has name entries then keys entries else keys entries ++ [name] := by
  induction entries with
  | nil => simp [put, keys, has, find?]
  | cons entry rest ih =>
    simp only [put]
    split
    next h => simp [keys, has, find?, h]
    next h =>
      simp only [keys, has, List.map_cons] at ih ⊢
      rw [ih]
      simp only [find?, h, if_false]
      split <;> simp [*]

/-- A name has a value exactly if it is among the names. -/
theorem has_iff_mem_keys {name : String} {entries : Dictionary α} :
    has name entries = true ↔ name ∈ keys entries := by
  induction entries with
  | nil => simp [has, find?, keys]
  | cons entry rest ih =>
    obtain ⟨key, value⟩ := entry
    simp only [has, keys, List.map_cons, List.mem_cons] at ih ⊢
    simp only [find?]
    split
    next h => simp [h]
    next h => rw [ih]; simp [Ne.symm h]

/-- The value under a name that several entries put in comes from one of them. -/
theorem mem_of_mem_put {name key : String} {value found : α}
    {entries : Dictionary α} (h : (key, found) ∈ put name value entries) :
    found = value ∨ (key, found) ∈ entries := by
  induction entries with
  | nil => simp [put] at h; exact .inl h.2
  | cons entry rest ih =>
    simp only [put] at h
    split at h
    next hk =>
      rcases List.mem_cons.1 h with h | h
      · simp only [Prod.mk.injEq] at h; exact .inl h.2
      · exact .inr (List.mem_cons_of_mem _ h)
    next =>
      rcases List.mem_cons.1 h with h | h
      · exact .inr (h ▸ List.mem_cons_self)
      · exact (ih h).imp id (List.mem_cons_of_mem _)

/-- Every value of two merged dictionaries is a value of one of them. -/
theorem value_of_mem_putAll {key : String} {found : α}
    {entries extra : Dictionary α} (h : (key, found) ∈ putAll entries extra) :
    (key, found) ∈ entries ∨ ∃ name, (name, found) ∈ extra := by
  induction extra generalizing entries with
  | nil => exact .inl h
  | cons entry rest ih =>
    rcases @ih (put entry.1 entry.2 entries) h with h | ⟨name, h⟩
    · rcases mem_of_mem_put h with rfl | h
      · exact .inr ⟨entry.1, List.mem_cons_self⟩
      · exact .inl h
    · exact .inr ⟨name, List.mem_cons_of_mem _ h⟩

/-- A value that is found stands under its name. -/
theorem mem_of_find? {name : String} {value : α} {entries : Dictionary α}
    (h : find? name entries = some value) : (name, value) ∈ entries := by
  induction entries with
  | nil => simp [find?] at h
  | cons entry rest ih =>
    obtain ⟨key, old⟩ := entry
    simp only [find?] at h
    split at h
    next hk => simp_all
    next => exact List.mem_cons_of_mem _ (ih h)

/-- A name is looked up in the first of two joined dictionaries before the second. -/
theorem find?_append (name : String) (first second : Dictionary α) :
    find? name (first ++ second) = (find? name first).or (find? name second) := by
  induction first with
  | nil => simp [find?]
  | cons entry rest ih =>
    simp only [List.cons_append, find?]
    split
    · simp
    · exact ih

end Dictionary

end TypeRegistry
