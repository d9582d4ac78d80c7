import TypeRegistry.Proofs.Sorting
import TypeRegistry.Source.FileTree

/-!
# The walk through a directory

A walk lists the document files under a directory: the directory's own files by their names, and
then those of its sub-directories, in the order of the names of these.  Which files are listed can
be said without the walk, through the names that lead to them, and so can their order: where two
locations part, a file right there comes before what stands deeper, and otherwise the names decide.

Main results:

- Definitions `FileTree.WellFormed`, `Location.Precedes`: trees in whose directories no name occurs
  twice, and the order of locations.
- Theorem `FileTree.mem_documents_iff`: the files that the walk lists.
- Theorem `FileTree.documents_pairwise`: the walk lists them in order.
-/

namespace TypeRegistry

open Dictionary

/-! ## The order of locations -/

/-- A location comes before another one if, where they part, it ends and the other goes on, or both
end or both go on and its name is the lesser one. -/
def Location.Precedes (first second : Location) : Prop :=
  ∃ common name other below beneath,
    first = common ++ name :: below ∧ second = common ++ other :: beneath ∧
      (below = [] ∧ beneath ≠ [] ∨ (below = [] ↔ beneath = []) ∧ name < other)

/-- Where two locations have more names in common, they have the next one in common and go on. -/
theorem Location.eq_of_longer_common {common common' below beneath below' beneath' : Location}
    {name other name' other' : String} (hlength : common.length < common'.length)
    (hfirst : common ++ name :: below = common' ++ name' :: below')
    (hsecond : common ++ other :: beneath = common' ++ other' :: beneath') :
    name = other ∧ below ≠ [] ∧ beneath ≠ [] := by
  obtain ⟨more, rfl⟩ : common <+: common' :=
    List.prefix_of_prefix_length_le (List.prefix_append common _)
      (hfirst ▸ List.prefix_append common' _) hlength.le
  cases more with
  | nil => simp at hlength
  | cons next more =>
    simp only [List.append_assoc, List.cons_append, List.append_cancel_left_eq,
      List.cons.injEq] at hfirst hsecond
    exact ⟨hfirst.1.trans hsecond.1.symm, by simp [hfirst.2], by simp [hsecond.2]⟩

/-- Of two locations at most one comes before the other. -/
theorem Location.Precedes.asymm {first second : Location} (h : first.Precedes second) :
    ¬ second.Precedes first := by
  obtain ⟨common, name, other, below, beneath, rfl, rfl, hforth⟩ := h
  rintro ⟨common', other', name', beneath', below', hsecond, hfirst, hback⟩
  -- The two accounts of where the locations part agree, for else one has more names in common.
  rcases lt_trichotomy common.length common'.length with hlength | hlength | hlength
  · obtain ⟨rfl, hbelow, hbeneath⟩ := eq_of_longer_common hlength hfirst hsecond
    simp [hbelow, hbeneath] at hforth
  · obtain ⟨rfl, hbehind⟩ := List.append_inj hfirst hlength
    obtain ⟨-, hbehind'⟩ := List.append_inj hsecond hlength
    obtain ⟨rfl, rfl⟩ := List.cons.inj hbehind
    obtain ⟨rfl, rfl⟩ := List.cons.inj hbehind'
    rcases hforth with ⟨hbelow, hbeneath⟩ | ⟨hends, hless⟩
    · rcases hback with ⟨hnil, -⟩ | ⟨hends, -⟩
      · exact hbeneath hnil
      · exact hbeneath (hends.2 hbelow)
    · rcases hback with ⟨hnil, hne⟩ | ⟨-, hgreater⟩
      · exact hne (hends.2 hnil)
      · exact lt_asymm hless hgreater
  · obtain ⟨rfl, hbelow, hbeneath⟩ := eq_of_longer_common hlength hfirst.symm hsecond.symm
    simp [hbelow, hbeneath] at hback

namespace FileTree

/-! ## Trees -/

/-- No name occurs twice in a directory, nor in the directories in it. -/
inductive WellFormed : FileTree → Prop
  | file (bytes : ByteArray) : WellFormed (.file bytes)
  | unreadable : WellFormed .unreadable
  | directory {entries : List (String × FileTree)} (names : (keys entries).Nodup)
      (inside : ∀ entry ∈ entries, WellFormed entry.2) : WellFormed (.directory entries)

/-- Nothing leads from a tree to what stands at its top. -/
@[simp]
theorem at?_nil (tree : FileTree) : tree.at? [] = some tree := by
  cases tree <;> rfl

/-- What stands in a directory whose names do not repeat is found through its entries. -/
theorem at?_directory_eq_some_iff {entries : List (String × FileTree)} (h : (keys entries).Nodup)
    {name : String} {rest : Location} {found : FileTree} :
    (directory entries).at? (name :: rest) = some found ↔
      ∃ tree, (name, tree) ∈ entries ∧ tree.at? rest = some found := by
  rw [at?]
  cases hname : find? name entries with
  | none =>
    refine iff_of_false (by simp) ?_
    rintro ⟨tree, hmem, -⟩
    rw [(find?_eq_some_iff_mem h).2 hmem] at hname
    cases hname
  | some inner =>
    constructor
    · exact fun hfound => ⟨inner, mem_of_find? hname, hfound⟩
    · rintro ⟨tree, hmem, hfound⟩
      rw [(find?_eq_some_iff_mem h).2 hmem] at hname
      exact Option.some.inj hname ▸ hfound

/-- What stands at a location in a tree is found part by part. -/
theorem at?_append (first second : Location) (tree : FileTree) :
    tree.at? (first ++ second) = (tree.at? first).bind fun found => found.at? second := by
  induction first generalizing tree with
  | nil => rw [at?_nil]; rfl
  | cons name rest ih =>
    cases tree with
    | file bytes => rfl
    | unreadable => rfl
    | directory entries =>
      rw [List.cons_append, at?, at?]
      cases find? name entries with
      | none => rfl
      | some inner => exact ih inner

/-- What stands at a location in a well-formed tree is well formed. -/
theorem WellFormed.at? {tree found : FileTree} (h : tree.WellFormed) {location : Location}
    (hfound : tree.at? location = some found) : found.WellFormed := by
  induction location generalizing tree with
  | nil =>
    rw [at?_nil] at hfound
    exact Option.some.inj hfound ▸ h
  | cons name rest ih =>
    cases h with
    | file bytes => cases hfound
    | unreadable => cases hfound
    | directory names inside =>
      obtain ⟨inner, hmem, hfound⟩ := (at?_directory_eq_some_iff names).1 hfound
      exact ih (inside _ hmem) hfound

/-- The file that a tree is, is at the location. -/
theorem location_of_asFile? {tree : FileTree} {location : Location} {file : SourceFile}
    (h : tree.asFile? location = some file) : file.location = location := by
  cases tree with
  | file bytes => rw [← Option.some.inj h]
  | unreadable => rw [← Option.some.inj h]
  | directory entries => cases h

/-- Nothing stands below a file. -/
theorem at?_cons_of_asFile? {tree : FileTree} {location : Location} {file : SourceFile}
    (h : tree.asFile? location = some file) (name : String) (rest : Location) :
    tree.at? (name :: rest) = none := by
  cases tree with
  | file bytes => rfl
  | unreadable => rfl
  | directory entries => cases h

/-! ## The files of a directory and of those in it -/

/-- The files right in a directory. -/
theorem mem_ownDocuments_iff {location : Location} {entries : List (String × FileTree)}
    {name : String} {file : SourceFile} :
    (name, file) ∈ ownDocuments location entries ↔
      isDocumentName name = true ∧
        ∃ tree, (name, tree) ∈ entries ∧ tree.asFile? (location ++ [name]) = some file := by
  rw [ownDocuments, List.mem_filterMap]
  constructor
  · rintro ⟨⟨key, tree⟩, hmem, h⟩
    by_cases hname : isDocumentName key = true
    · simp only [hname, if_true, Option.map_eq_some_iff, Prod.mk.injEq] at h
      obtain ⟨found, hfile, rfl, rfl⟩ := h
      exact ⟨hname, tree, hmem, hfile⟩
    · simp [hname] at h
  · rintro ⟨hname, tree, hmem, hfile⟩
    exact ⟨(name, tree), hmem, by simp [hname, hfile]⟩

/-- The sub-directories that the walk enters, entry by entry. -/
theorem subdirectories_eq_filterMap (location : Location) (entries : List (String × FileTree)) :
    subdirectories location entries = entries.filterMap fun (name, tree) =>
      match tree with
      | .directory inner =>
        if name ∈ skippedDirectories then none
        else some (name, documents (location ++ [name]) (.directory inner))
      | _ => none := by
  induction entries with
  | nil => rw [subdirectories]; rfl
  | cons entry rest ih =>
    obtain ⟨name, tree⟩ := entry
    rw [List.filterMap_cons]
    cases tree with
    | file bytes => rw [subdirectories, ih]
    | unreadable => rw [subdirectories, ih]
    | directory inner =>
      rw [subdirectories, ih]
      by_cases hname : name ∈ skippedDirectories <;> simp [hname]

/-- The names of the files right in a directory do not repeat. -/
theorem nodup_keys_ownDocuments {location : Location} {entries : List (String × FileTree)}
    (h : (keys entries).Nodup) : (keys (ownDocuments location entries)).Nodup := by
  refine nodup_keys_filterMap h ?_
  rintro ⟨name, tree⟩ changed hchanged
  by_cases hname : isDocumentName name = true
  · simp only [hname, if_true, Option.map_eq_some_iff] at hchanged
    obtain ⟨file, -, rfl⟩ := hchanged
    rfl
  · simp [hname] at hchanged

/-- The names of the sub-directories that the walk enters do not repeat. -/
theorem nodup_keys_subdirectories {location : Location} {entries : List (String × FileTree)}
    (h : (keys entries).Nodup) : (keys (subdirectories location entries)).Nodup := by
  rw [subdirectories_eq_filterMap]
  refine nodup_keys_filterMap h ?_
  rintro ⟨name, tree⟩ changed hchanged
  cases tree with
  | file bytes => cases hchanged
  | unreadable => cases hchanged
  | directory inner =>
    by_cases hname : name ∈ skippedDirectories
    · simp [hname] at hchanged
    · simp only [hname, if_false, Option.some.injEq] at hchanged
      rw [← hchanged]

/-- The sub-directories that the walk enters, with their files. -/
theorem mem_subdirectories_iff {location : Location} {entries : List (String × FileTree)}
    {name : String} {files : List SourceFile} :
    (name, files) ∈ subdirectories location entries ↔
      name ∉ skippedDirectories ∧ ∃ inner, (name, directory inner) ∈ entries ∧
        files = (directory inner).documents (location ++ [name]) := by
  rw [subdirectories_eq_filterMap, List.mem_filterMap]
  constructor
  · rintro ⟨⟨key, tree⟩, hmem, h⟩
    cases tree with
    | file bytes => cases h
    | unreadable => cases h
    | directory inner =>
      by_cases hname : key ∈ skippedDirectories
      · simp [hname] at h
      · simp only [hname, if_false, Option.some.injEq, Prod.mk.injEq] at h
        obtain ⟨rfl, rfl⟩ := h
        exact ⟨hname, inner, hmem, rfl⟩
  · rintro ⟨hname, inner, hmem, rfl⟩
    exact ⟨(name, directory inner), hmem, by simp [hname]⟩

/-- The files in the sub-directories are those under the entries that the walk enters. -/
theorem mem_flatMap_subdirectories_iff {location : Location} {entries : List (String × FileTree)}
    {file : SourceFile} :
    file ∈ (subdirectories location entries).flatMap (·.2) ↔
      ∃ name tree, (name, tree) ∈ entries ∧ name ∉ skippedDirectories ∧
        file ∈ tree.documents (location ++ [name]) := by
  rw [List.mem_flatMap]
  constructor
  · rintro ⟨⟨name, files⟩, hentered, hfile⟩
    obtain ⟨hname, inner, hmem, rfl⟩ := mem_subdirectories_iff.1 hentered
    exact ⟨name, directory inner, hmem, hname, hfile⟩
  · rintro ⟨name, tree, hmem, hname, hfile⟩
    cases tree with
    | file bytes => rw [documents] at hfile; cases hfile
    | unreadable => rw [documents] at hfile; cases hfile
    | directory inner => exact ⟨_, mem_subdirectories_iff.2 ⟨hname, inner, hmem, rfl⟩, hfile⟩

/-! ## The files that the walk lists -/

/-- The walk lists exactly the document files that no skipped directory stands above. -/
theorem mem_documents_iff {tree : FileTree} (h : tree.WellFormed) {location : Location}
    {file : SourceFile} :
    file ∈ tree.documents location ↔
      ∃ between name, (∀ directory ∈ between, directory ∉ skippedDirectories) ∧
        isDocumentName name = true ∧ ∃ found, tree.at? (between ++ [name]) = some found ∧
          found.asFile? (location ++ between ++ [name]) = some file := by
  induction h generalizing location with
  | file bytes =>
    rw [documents]
    refine iff_of_false List.not_mem_nil ?_
    rintro ⟨between, name, -, -, found, hfound, -⟩
    cases between <;> cases hfound
  | unreadable =>
    rw [documents]
    refine iff_of_false List.not_mem_nil ?_
    rintro ⟨between, name, -, -, found, hfound, -⟩
    cases between <;> cases hfound
  | @directory entries names inside ih =>
    rw [documents, List.mem_append, ((sortByName_perm _).flatMap_right _).mem_iff,
      ((sortByName_perm _).map _).mem_iff, mem_flatMap_subdirectories_iff]
    constructor
    · rintro (hown | ⟨name, tree, hmem, hentered, hfile⟩)
      · obtain ⟨⟨name, _⟩, hmem, rfl⟩ := List.mem_map.1 hown
        obtain ⟨hname, tree, hmem, hfile⟩ := mem_ownDocuments_iff.1 hmem
        have hfound := (at?_directory_eq_some_iff names).2 ⟨tree, hmem, at?_nil tree⟩
        exact ⟨[], name, by simp, hname, tree, hfound, by simpa using hfile⟩
      · obtain ⟨between, last, hbetween, hlast, found, hfound, hfile⟩ := (ih _ hmem).1 hfile
        have hfound := (at?_directory_eq_some_iff names).2 ⟨tree, hmem, hfound⟩
        exact ⟨name :: between, last, List.forall_mem_cons.2 ⟨hentered, hbetween⟩, hlast, found,
          hfound, by simpa using hfile⟩
    · rintro ⟨between, last, hbetween, hlast, found, hfound, hfile⟩
      cases between with
      | nil =>
        obtain ⟨tree, hmem, hfound⟩ := (at?_directory_eq_some_iff names).1 hfound
        rw [at?_nil] at hfound
        obtain rfl := Option.some.inj hfound
        refine .inl (List.mem_map.2 ⟨(last, file), ?_, rfl⟩)
        exact mem_ownDocuments_iff.2 ⟨hlast, tree, hmem, by simpa using hfile⟩
      | cons name between =>
        obtain ⟨hname, hbetween⟩ := List.forall_mem_cons.1 hbetween
        obtain ⟨tree, hmem, hfound⟩ := (at?_directory_eq_some_iff names).1 hfound
        refine .inr ⟨name, tree, hmem, hname, (ih _ hmem).2 ?_⟩
        exact ⟨between, last, hbetween, hlast, found, hfound, by simpa using hfile⟩

/-! ## The order in which the walk lists them -/

/-- A file that the walk lists is below where the walk started. -/
theorem location_of_mem_documents {tree : FileTree} (h : tree.WellFormed) {location : Location}
    {file : SourceFile} (hmem : file ∈ tree.documents location) :
    ∃ name below, file.location = location ++ name :: below := by
  obtain ⟨between, last, -, -, found, -, hfile⟩ := (mem_documents_iff h).1 hmem
  rw [location_of_asFile? hfile]
  cases between with
  | nil => exact ⟨last, [], by simp⟩
  | cons name between => exact ⟨name, between ++ [last], by simp⟩

/-- A file right in a directory is there under its name. -/
theorem location_of_mem_ownDocuments {location : Location} {entries : List (String × FileTree)}
    {entry : String × SourceFile} (hmem : entry ∈ sortByName (ownDocuments location entries)) :
    entry.2.location = location ++ [entry.1] := by
  obtain ⟨-, tree, -, hfile⟩ := mem_ownDocuments_iff.1 ((sortByName_perm _).mem_iff.1 hmem)
  exact location_of_asFile? hfile

/-- A file in a sub-directory is further down below the name of that. -/
theorem location_of_mem_subdirectories {location : Location} {entries : List (String × FileTree)}
    (inside : ∀ entry ∈ entries, entry.2.WellFormed) {entry : String × List SourceFile}
    (hmem : entry ∈ sortByName (subdirectories location entries)) {file : SourceFile}
    (hfile : file ∈ entry.2) :
    ∃ name below, file.location = location ++ entry.1 :: name :: below := by
  obtain ⟨-, inner, hentry, hfiles⟩ :=
    mem_subdirectories_iff.1 ((sortByName_perm _).mem_iff.1 hmem)
  obtain ⟨name, below, hlocation⟩ :=
    location_of_mem_documents (inside _ hentry) (hfiles ▸ hfile)
  exact ⟨name, below, by simpa using hlocation⟩

/-- The walk lists files in the order of their locations. -/
theorem documents_pairwise {tree : FileTree} (h : tree.WellFormed) (location : Location) :
    (tree.documents location).Pairwise fun a b => a.location.Precedes b.location := by
  induction h generalizing location with
  | file bytes => rw [documents]; exact List.Pairwise.nil
  | unreadable => rw [documents]; exact List.Pairwise.nil
  | @directory entries names inside ih =>
    rw [documents]
    refine List.pairwise_append.2 ⟨?own, List.pairwise_flatMap.2 ⟨?inner, ?inners⟩, ?both⟩
    case own =>
      refine List.pairwise_map.2
        ((sortByName_pairwise_lt (nodup_keys_ownDocuments names)).imp_of_mem ?_)
      intro first second hfirst hsecond hless
      exact ⟨location, first.1, second.1, [], [], location_of_mem_ownDocuments hfirst,
        location_of_mem_ownDocuments hsecond, .inr ⟨Iff.rfl, hless⟩⟩
    case inner =>
      intro entry hmem
      obtain ⟨-, inner, hentry, hfiles⟩ :=
        mem_subdirectories_iff.1 ((sortByName_perm _).mem_iff.1 hmem)
      exact hfiles ▸ ih _ hentry (location ++ [entry.1])
    case inners =>
      refine (sortByName_pairwise_lt (nodup_keys_subdirectories names)).imp_of_mem ?_
      intro first second hfirst hsecond hless file hfile other hother
      obtain ⟨name, below, hlocation⟩ := location_of_mem_subdirectories inside hfirst hfile
      obtain ⟨name', beneath, hlocation'⟩ := location_of_mem_subdirectories inside hsecond hother
      exact ⟨location, first.1, second.1, name :: below, name' :: beneath, hlocation, hlocation',
        .inr ⟨by simp, hless⟩⟩
    case both =>
      intro file hfile other hother
      obtain ⟨first, hfirst, rfl⟩ := List.mem_map.1 hfile
      obtain ⟨second, hsecond, hother⟩ := List.mem_flatMap.1 hother
      obtain ⟨name, below, hlocation⟩ := location_of_mem_subdirectories inside hsecond hother
      exact ⟨location, first.1, second.1, [], name :: below, location_of_mem_ownDocuments hfirst,
        hlocation, .inl ⟨rfl, by simp⟩⟩

end FileTree

end TypeRegistry
