import TypeRegistry.Proofs.Source.Walk

/-!
# The documents of several roots

The document files of several roots are those that a root stands for or that lie under a root which
is a directory, no skipped directory being between.  Each of them is listed once, however many roots
lead to it: under the first root that does, and in the order of the walk there.  A list of files is
determined by this account of it.

Main results:

- Definitions `Location.Beneath`, `Workspace.HasDocument`, `Location.Sooner`: where a root leads,
  what it finds there, and the order over several roots.
- Structure `Workspace.IsCatalogue`: the account of the document files of roots.
- Theorem `Workspace.documentsOf_isCatalogue`: the files that are listed answer to it.
- Theorem `Workspace.IsCatalogue.unique`: no other list does.
-/

namespace TypeRegistry

/-! ## Roots and locations -/

/-- A location is beneath a start if it is the start or if names lead down to it from there, none of
those between being skipped. -/
def Location.Beneath (start location : Location) : Prop :=
  location = start ∨
    ∃ between name, location = start ++ between ++ [name] ∧
      ∀ directory ∈ between, directory ∉ skippedDirectories

/-- Of two locations one comes sooner, given several starts, if the first start that either of them
is beneath has it beneath, and has the other one not beneath or later in its walk. -/
def Location.Sooner : (starts : List Location) → (first second : Location) → Prop
  | [], _, _ => False
  | start :: rest, first, second =>
    Beneath start first ∧ (Beneath start second → Precedes first second) ∨
      ¬ Beneath start first ∧ ¬ Beneath start second ∧ Sooner rest first second

/-- Of two locations at most one comes sooner than the other. -/
theorem Location.Sooner.asymm {starts : List Location} {first second : Location}
    (h : Sooner starts first second) : ¬ Sooner starts second first := by
  induction starts with
  | nil => exact h.elim
  | cons start rest ih =>
    rcases h with ⟨hfirst, hforth⟩ | ⟨hfirst, hsecond, h⟩
    · rintro (⟨hsecond, hback⟩ | ⟨-, hnot, -⟩)
      · exact (hforth hsecond).asymm (hback hfirst)
      · exact hnot hfirst
    · rintro (⟨hbeneath, -⟩ | ⟨-, -, hback⟩)
      · exact hsecond hbeneath
      · exact ih h hback

namespace Workspace

/-! ## The account of a list of files -/

/-- A workspace has a document file if the file is where it says, under a fitting name. -/
def HasDocument (workspace : Workspace) (file : SourceFile) : Prop :=
  isDocumentName (file.location.getLastD "") = true ∧
    ∃ found, workspace.tree.at? file.location = some found ∧
      found.asFile? file.location = some file

/-- The files are the document files of some roots. -/
structure IsCatalogue (workspace : Workspace) (roots : List String) (files : List SourceFile) :
    Prop where
  /-- They are the document files beneath the roots. -/
  mem_iff (file : SourceFile) : file ∈ files ↔
    workspace.HasDocument file ∧
      ∃ root ∈ roots, (workspace.rootLocation root).Beneath file.location
  /-- None is listed twice. -/
  nodup : (files.map (·.location)).Nodup
  /-- What comes sooner is listed before. -/
  inOrder : files.Pairwise fun a b =>
    Location.Sooner (roots.map workspace.rootLocation) a.location b.location

/-- The account determines the list. -/
theorem IsCatalogue.unique {workspace : Workspace} {roots : List String}
    {files others : List SourceFile} (h : workspace.IsCatalogue roots files)
    (hothers : workspace.IsCatalogue roots others) : others = files := by
  let order (a b : SourceFile) : Prop :=
    Location.Sooner (roots.map workspace.rootLocation) a.location b.location
  have hasymm : ∀ a b, order a b → ¬ order b a := fun a b hab => hab.asymm
  have : Std.Antisymm order := ⟨fun a b hab hba => absurd hba (hasymm a b hab)⟩
  have : Std.Irrefl order := ⟨fun a haa => hasymm a a haa haa⟩
  refine List.Pairwise.eq_of_mem_iff (r := order) hothers.inOrder h.inOrder fun file => ?_
  rw [h.mem_iff, hothers.mem_iff]

/-! ## Leaving out repetitions -/

/-- The files that stay are some of the files, in their order. -/
theorem withoutRepetitions_sublist (seen : List Location) (files : List SourceFile) :
    (withoutRepetitions seen files).Sublist files := by
  induction files generalizing seen with
  | nil => exact List.Sublist.refl _
  | cons file rest ih =>
    rw [withoutRepetitions]
    split
    · exact (ih seen).cons file
    · exact (ih _).cons_cons file

/-- A file that stays is at a location not seen before. -/
theorem location_notMem_of_mem_withoutRepetitions {seen : List Location}
    {files : List SourceFile} {file : SourceFile} (h : file ∈ withoutRepetitions seen files) :
    file.location ∉ seen := by
  induction files generalizing seen with
  | nil => cases h
  | cons first rest ih =>
    rw [withoutRepetitions] at h
    split at h
    next => exact ih h
    next hnew =>
      rcases List.mem_cons.1 h with rfl | hrest
      · exact hnew
      · exact List.not_mem_of_not_mem_cons (ih hrest)

/-- A file is at a location seen before, or one at its location stays. -/
theorem exists_mem_withoutRepetitions {seen : List Location} {files : List SourceFile}
    {file : SourceFile} (h : file ∈ files) (hnew : file.location ∉ seen) :
    ∃ kept ∈ withoutRepetitions seen files, kept.location = file.location := by
  induction files generalizing seen with
  | nil => cases h
  | cons first rest ih =>
    rw [withoutRepetitions]
    split
    next hseen =>
      rcases List.mem_cons.1 h with rfl | hrest
      · exact absurd hseen hnew
      · exact ih hrest hnew
    next =>
      by_cases heq : first.location = file.location
      · exact ⟨first, List.mem_cons_self, heq⟩
      · rcases List.mem_cons.1 h with rfl | hrest
        · exact absurd rfl heq
        · obtain ⟨kept, hkept, hlocation⟩ :=
            ih hrest (List.not_mem_cons_of_ne_of_not_mem (Ne.symm heq) hnew)
          exact ⟨kept, List.mem_cons_of_mem _ hkept, hlocation⟩

/-- Of joined lists, the second one is left without what stays of the first one, too. -/
theorem withoutRepetitions_append (seen : List Location) (first second : List SourceFile) :
    withoutRepetitions seen (first ++ second) =
      withoutRepetitions seen first ++
        withoutRepetitions
          (((withoutRepetitions seen first).map (·.location)).reverse ++ seen) second := by
  induction first generalizing seen with
  | nil => rfl
  | cons file rest ih =>
    rw [List.cons_append, withoutRepetitions, withoutRepetitions]
    split
    · exact ih seen
    · simp [ih]

/-! ## The files of one root -/

variable {workspace : Workspace}

/-- At one location a workspace has one document file at most. -/
theorem HasDocument.eq {first second : SourceFile} (hfirst : workspace.HasDocument first)
    (hsecond : workspace.HasDocument second) (h : first.location = second.location) :
    first = second := by
  obtain ⟨-, found, hfound, hfile⟩ := hfirst
  obtain ⟨-, found', hfound', hfile'⟩ := hsecond
  rw [h] at hfound hfile
  obtain rfl := Option.some.inj (hfound.symm.trans hfound')
  exact Option.some.inj (hfile.symm.trans hfile')

/-- What stands beneath a place stands there, or the names below the place lead to it from there. -/
theorem at?_of_beneath {start location : Location} (h : start.Beneath location)
    {found : FileTree} (hfound : workspace.tree.at? location = some found) :
    ∃ tree, workspace.tree.at? start = some tree ∧
      (location = start ∧ found = tree ∨
        ∃ between name, location = start ++ between ++ [name] ∧
          (∀ directory ∈ between, directory ∉ skippedDirectories) ∧
          tree.at? (between ++ [name]) = some found) := by
  rcases h with rfl | ⟨between, name, rfl, hbetween⟩
  · exact ⟨found, hfound, .inl ⟨rfl, rfl⟩⟩
  · rw [List.append_assoc, FileTree.at?_append] at hfound
    obtain ⟨tree, htree, hfound⟩ := Option.bind_eq_some_iff.1 hfound
    exact ⟨tree, htree, .inr ⟨between, name, rfl, hbetween, hfound⟩⟩

/-- A root that is a file stands for itself, if its name fits. -/
theorem mem_rootDocument_iff {start : Location} {tree : FileTree} {own file : SourceFile}
    (htree : workspace.tree.at? start = some tree) (hown : tree.asFile? start = some own) :
    file ∈ (if isDocumentName (start.getLastD "") then (tree.asFile? start).toList else []) ↔
      workspace.HasDocument file ∧ start.Beneath file.location := by
  have hlocation := FileTree.location_of_asFile? hown
  constructor
  · intro hmem
    split at hmem
    next hname =>
      rw [hown] at hmem
      obtain rfl := List.mem_singleton.1 hmem
      exact ⟨⟨hlocation ▸ hname, tree, hlocation ▸ htree, hlocation ▸ hown⟩, .inl hlocation⟩
    next => cases hmem
  · rintro ⟨⟨hname, found, hfound, hfile⟩, hbeneath⟩
    obtain ⟨tree', htree', hcases⟩ := at?_of_beneath hbeneath hfound
    obtain rfl := Option.some.inj (htree.symm.trans htree')
    rcases hcases with ⟨heq, rfl⟩ | ⟨between, name, -, -, hdeeper⟩
    · rw [heq] at hname hfile
      rw [if_pos hname, hfile]
      exact List.mem_singleton_self file
    · have hnone (rest : Location) (hne : rest ≠ []) : tree.at? rest = none := by
        obtain ⟨first, rest, rfl⟩ := List.exists_cons_of_ne_nil hne
        exact FileTree.at?_cons_of_asFile? hown first rest
      rw [hnone _ (by simp)] at hdeeper
      cases hdeeper

/-- A root stands for the document files beneath it. -/
theorem mem_documentsUnder_iff (h : workspace.tree.WellFormed) {root : String}
    {file : SourceFile} :
    file ∈ workspace.documentsUnder root ↔
      workspace.HasDocument file ∧ (workspace.rootLocation root).Beneath file.location := by
  rw [documentsUnder]
  generalize workspace.rootLocation root = start
  cases htree : workspace.tree.at? start with
  | none =>
    refine iff_of_false List.not_mem_nil ?_
    rintro ⟨⟨-, found, hfound, -⟩, hbeneath⟩
    obtain ⟨tree, hstart, -⟩ := at?_of_beneath hbeneath hfound
    rw [htree] at hstart
    cases hstart
  | some tree =>
    cases tree with
    | file bytes => exact mem_rootDocument_iff htree rfl
    | unreadable => exact mem_rootDocument_iff htree rfl
    | directory entries =>
      refine (FileTree.mem_documents_iff (h.at? htree)).trans ⟨?_, ?_⟩
      · rintro ⟨between, name, hbetween, hname, found, hfound, hfile⟩
        have hlocation := FileTree.location_of_asFile? hfile
        refine ⟨⟨by simpa [hlocation] using hname, found, ?_, hlocation ▸ hfile⟩,
          .inr ⟨between, name, hlocation, hbetween⟩⟩
        rw [hlocation, List.append_assoc, FileTree.at?_append, htree]
        exact hfound
      · rintro ⟨⟨hname, found, hfound, hfile⟩, hbeneath⟩
        obtain ⟨tree, htree', hcases⟩ := at?_of_beneath hbeneath hfound
        obtain rfl := Option.some.inj (htree.symm.trans htree')
        rcases hcases with ⟨-, rfl⟩ | ⟨between, name, hlocation, hbetween, hfound⟩
        · cases hfile
        · rw [hlocation] at hname hfile
          exact ⟨between, name, hbetween, by simpa using hname, found, hfound, hfile⟩

/-- The files that a root stands for are in the order of their locations. -/
theorem documentsUnder_pairwise (h : workspace.tree.WellFormed) (root : String) :
    (workspace.documentsUnder root).Pairwise fun a b => a.location.Precedes b.location := by
  have hone (tree : FileTree) (start : Location) :
      (if isDocumentName (start.getLastD "") then (tree.asFile? start).toList else []).Pairwise
        fun a b => a.location.Precedes b.location := by
    split
    · cases tree.asFile? start with
      | none => exact List.Pairwise.nil
      | some file => exact List.pairwise_singleton _ _
    · exact List.Pairwise.nil
  rw [documentsUnder]
  generalize workspace.rootLocation root = start
  cases htree : workspace.tree.at? start with
  | none => exact List.Pairwise.nil
  | some tree =>
    cases tree with
    | file bytes => exact hone (.file bytes) start
    | unreadable => exact hone .unreadable start
    | directory entries => exact FileTree.documents_pairwise (h.at? htree) start

/-! ## The files of several roots -/

/-- Over several roots, what stays without repetitions is in the order over their starts. -/
theorem withoutRepetitions_inOrder (h : workspace.tree.WellFormed) (roots : List String)
    (seen : List Location) :
    (withoutRepetitions seen (roots.flatMap workspace.documentsUnder)).Pairwise fun a b =>
      Location.Sooner (roots.map workspace.rootLocation) a.location b.location := by
  induction roots generalizing seen with
  | nil => exact List.Pairwise.nil
  | cons root rest ih =>
    rw [List.flatMap_cons, withoutRepetitions_append]
    have hfirst (file) (hmem : file ∈ withoutRepetitions seen (workspace.documentsUnder root)) :
        (workspace.rootLocation root).Beneath file.location :=
      ((mem_documentsUnder_iff h).1 ((withoutRepetitions_sublist _ _).subset hmem)).2
    -- What only a later root leads to is not beneath the first one, for else it would have stayed
    -- or been seen before.
    have hlater (file) (hmem : file ∈ withoutRepetitions
        (((withoutRepetitions seen (workspace.documentsUnder root)).map (·.location)).reverse ++
          seen) (rest.flatMap workspace.documentsUnder)) :
        ¬ (workspace.rootLocation root).Beneath file.location := by
      intro hbeneath
      obtain ⟨hkept, hseen⟩ := not_or.1
        (List.mem_append.not.1 (location_notMem_of_mem_withoutRepetitions hmem))
      obtain ⟨other, -, hother⟩ :=
        List.mem_flatMap.1 ((withoutRepetitions_sublist _ _).subset hmem)
      have hunder := (mem_documentsUnder_iff h).2
        ⟨((mem_documentsUnder_iff h).1 hother).1, hbeneath⟩
      obtain ⟨kept, hmem, hlocation⟩ := exists_mem_withoutRepetitions hunder hseen
      exact hkept (List.mem_reverse.2 (List.mem_map.2 ⟨kept, hmem, hlocation⟩))
    refine List.pairwise_append.2 ⟨?_, ?_, ?_⟩
    · refine List.Pairwise.imp_of_mem ?_
        ((documentsUnder_pairwise h root).sublist (withoutRepetitions_sublist seen _))
      exact fun hfile _ hprecedes => .inl ⟨hfirst _ hfile, fun _ => hprecedes⟩
    · refine List.Pairwise.imp_of_mem ?_ (ih _)
      exact fun hfile hother hsooner => .inr ⟨hlater _ hfile, hlater _ hother, hsooner⟩
    · intro file hfile other hother
      exact .inl ⟨hfirst file hfile, fun hbeneath => absurd hbeneath (hlater other hother)⟩

/-- The files that are listed for roots are the document files of the roots. -/
theorem documentsOf_isCatalogue (h : workspace.tree.WellFormed) (roots : List String) :
    workspace.IsCatalogue roots (workspace.documentsOf roots) where
  mem_iff file := by
    rw [documentsOf]
    constructor
    · intro hmem
      obtain ⟨root, hroot, hunder⟩ :=
        List.mem_flatMap.1 ((withoutRepetitions_sublist _ _).subset hmem)
      obtain ⟨hhas, hbeneath⟩ := (mem_documentsUnder_iff h).1 hunder
      exact ⟨hhas, root, hroot, hbeneath⟩
    · rintro ⟨hhas, root, hroot, hbeneath⟩
      have hunder := (mem_documentsUnder_iff h).2 ⟨hhas, hbeneath⟩
      obtain ⟨kept, hkept, hlocation⟩ := exists_mem_withoutRepetitions
        (List.mem_flatMap.2 ⟨root, hroot, hunder⟩) (List.not_mem_nil (a := file.location))
      -- The one that stayed at this location is this one.
      obtain ⟨other, -, hother⟩ :=
        List.mem_flatMap.1 ((withoutRepetitions_sublist _ _).subset hkept)
      rwa [← ((mem_documentsUnder_iff h).1 hother).1.eq hhas hlocation]
  nodup := by
    refine List.pairwise_map.2 ((withoutRepetitions_inOrder h roots []).imp ?_)
    intro first second hsooner heq
    rw [heq] at hsooner
    exact hsooner.asymm hsooner
  inOrder := withoutRepetitions_inOrder h roots []

end Workspace

end TypeRegistry
