import Mathlib.Data.List.Sigma
import TypeRegistry.Proofs.Entity.Governing
import TypeRegistry.Proofs.Source.Catalogue
import TypeRegistry.Source.Reader

/-!
# Requests to a file reader

A file reader is asked for entities and rewound, in any order.  What it holds between requests comes
to one thing, the entities that remain: a request answers with the first of them and leaves the
others, and rewinding brings all of them back.  So the answers since the last rewinding are the
entities of the documents in their order, each once, and then nothing any more.

Main results:

- Definitions `SourceFile.objects`, `SourceFile.yield`: the objects in a file, and the entities of
  those that have an identifier.
- Theorem `SourceFile.entities_eq_yield`: these are the entities of the file.
- Theorems `FileReader.next_fst`, `FileReader.remaining_next`: what a request does.
- Theorem `FileReader.Session.isAlong_run`: where a reader is after any requests and rewindings.
- Theorem `FileReader.answers_since_rewind`: the answers, in terms of the document files alone.
-/

namespace TypeRegistry

/-! ## The entities of a file -/

/-- The objects that a document is or that are members of the list it is, with their places. -/
def Json.placedObjects : Json → List (Option Nat × Json)
  | .arr items => (items.zipIdx.filter (·.1.isObject)).map fun entry => (some entry.2, entry.1)
  | document => if document.isObject then [(none, document)] else []

/-- The objects in a file, with their places in the list that the file holds, if it holds one. -/
def SourceFile.objects (file : SourceFile) : List (Option Nat × Json) :=
  match file.document? with
  | some document => document.placedObjects
  | none => []

/-- Whether one of the fields for identifiers holds a valid one. -/
def Entity.hasOwnIdentifier (names : FieldNames) (document : Json) : Bool :=
  names.own.any fun name => (fieldText? document.members name).any Identifier.isValid

/-- The entities of the objects in a file that have an identifier. -/
def SourceFile.yield (names : FieldNames) (file : SourceFile) : List Entity :=
  (file.objects.filter fun placed => Entity.hasOwnIdentifier names placed.2).map fun placed =>
    Entity.ofContent names (some ⟨file.location, placed.1⟩) placed.2

/-- A field of some kind is chosen if there is one. -/
theorem Entity.isSome_firstField? (members : Json.Members) (wanted : String → Bool)
    (names : List String) :
    (firstField? members wanted names).isSome =
      names.any fun name => (fieldText? members name).any wanted := by
  induction names with
  | nil => rfl
  | cons name rest ih =>
    rw [firstField?, List.any_cons]
    cases fieldText? members name with
    | none => exact ih
    | some text =>
      cases hwanted : wanted text with
      | true => simp [hwanted]
      | false => simpa [hwanted] using ih

/-- A field that is chosen is one of those given. -/
theorem Entity.mem_of_firstField? {members : Json.Members} {wanted : String → Bool}
    {names : List String} {found : String × String}
    (h : firstField? members wanted names = some found) : found.1 ∈ names := by
  induction names with
  | nil => cases h
  | cons name rest ih =>
    rw [firstField?] at h
    split at h
    next text _ =>
      split at h
      next =>
        obtain rfl := Option.some.inj h
        exact List.mem_cons_self
      next => exact List.mem_cons_of_mem _ (ih h)
    next => exact List.mem_cons_of_mem _ (ih h)

/-- An entity has an identifier exactly if a field of its object holds a valid one. -/
theorem Entity.isSome_id_ofContent (names : FieldNames) (origin : Option Origin)
    (document : Json) :
    (ofContent names origin document).id.isSome = hasOwnIdentifier names document := by
  have hid : (ofContent names origin document).id =
      (identifyingField? document.members names.own).bind fun found =>
        Identifier.parse? found.2 := rfl
  have hany := isSome_firstField? document.members Identifier.isValid names.own
  rw [hid, hasOwnIdentifier, ← hany, identifyingField?]
  cases hvalid : firstField? document.members Identifier.isValid names.own with
  | some found => exact (firstField?_eq_some hvalid).2
  | none =>
    -- A field that is chosen for want of a valid one does not hold one itself.
    cases htext : firstField? document.members (fun _ => true) names.own with
    | none => rfl
    | some found =>
      rw [hvalid, Option.isSome_none, eq_comm, List.any_eq_false] at hany
      have hnot := hany found.1 (mem_of_firstField? htext)
      rw [(firstField?_eq_some htext).1, Option.any_some, Bool.not_eq_true] at hnot
      exact hnot

/-- An object has an entity of its own if one of its fields holds a valid identifier. -/
theorem identifiedEntity?_eq (names : FieldNames) (origin : Origin) (document : Json) :
    identifiedEntity? names origin document =
      if document.isObject && Entity.hasOwnIdentifier names document then
        some (Entity.ofContent names (some origin) document)
      else none := by
  rw [identifiedEntity?, ← Entity.isSome_id_ofContent names (some origin) document]
  cases document.isObject <;> simp

/-- The entities of a file are those of its objects that have an identifier. -/
theorem SourceFile.entities_eq_yield (names : FieldNames) (file : SourceFile) :
    file.entities names = file.yield names := by
  have hlist (entries : List (Json × Nat)) :
      (entries.filterMap fun entry =>
          identifiedEntity? names ⟨file.location, some entry.2⟩ entry.1) =
        (((entries.filter (·.1.isObject)).map fun entry => (some entry.2, entry.1)).filter
            fun placed => Entity.hasOwnIdentifier names placed.2).map fun placed =>
          Entity.ofContent names (some ⟨file.location, placed.1⟩) placed.2 := by
    induction entries with
    | nil => rfl
    | cons entry rest ih =>
      rw [List.filterMap_cons, identifiedEntity?_eq, ih]
      by_cases hobject : entry.1.isObject = true <;>
        by_cases hown : Entity.hasOwnIdentifier names entry.1 = true <;> simp [hobject, hown]
  have hone (document : Json) :
      (identifiedEntity? names ⟨file.location, none⟩ document).toList =
        ((if document.isObject then [((none : Option Nat), document)] else []).filter
            fun placed => Entity.hasOwnIdentifier names placed.2).map fun placed =>
          Entity.ofContent names (some ⟨file.location, placed.1⟩) placed.2 := by
    rw [identifiedEntity?_eq]
    by_cases hobject : document.isObject = true <;>
      by_cases hown : Entity.hasOwnIdentifier names document = true <;> simp [hobject, hown]
  rw [entities, yield, objects]
  cases file.document? with
  | none => rfl
  | some document =>
    cases document with
    | arr items => exact hlist items.zipIdx
    | _ => exact hone _

/-- The objects in a document are at different places. -/
theorem Json.nodup_placedObjects (document : Json) :
    (document.placedObjects.map Prod.fst).Nodup := by
  cases document with
  | arr items =>
    have hplaces : ((items.zipIdx.filter (·.1.isObject)).map Prod.snd).Nodup :=
      (List.nodup_zipIdx_map_snd items).sublist (List.filter_sublist.map Prod.snd)
    have hsome := hplaces.map (Option.some_injective Nat)
    rw [List.map_map] at hsome
    rw [placedObjects, List.map_map]
    exact hsome
  | _ => simp [placedObjects, isObject]

/-- The entities of a file come from different places in it. -/
theorem SourceFile.nodup_origin_yield (names : FieldNames) (file : SourceFile) :
    ((file.yield names).map (·.origin)).Nodup := by
  have hobjects : (file.objects.map Prod.fst).Nodup := by
    rw [objects]
    split
    · exact Json.nodup_placedObjects _
    · exact List.nodup_nil
  have hkept := hobjects.sublist ((List.filter_sublist
    (p := fun placed => Entity.hasOwnIdentifier names placed.2)).map Prod.fst)
  have horigins := hkept.map (f := fun place => some (Origin.mk file.location place))
    fun _ _ h => (Origin.mk.inj (Option.some.inj h)).2
  rw [List.map_map] at horigins
  rw [yield, List.map_map]
  exact horigins

/-- An entity of a file has its origin there. -/
theorem SourceFile.origin_of_mem_yield {names : FieldNames} {file : SourceFile} {entity : Entity}
    (h : entity ∈ file.yield names) : ∃ place, entity.origin = some ⟨file.location, place⟩ := by
  obtain ⟨placed, -, rfl⟩ := List.mem_map.1 h
  exact ⟨placed.1, rfl⟩

/-- The entities of files at different locations have different origins. -/
theorem nodup_origin_flatMap_yield (names : FieldNames) {files : List SourceFile}
    (h : (files.map (·.location)).Nodup) :
    ((files.flatMap (·.yield names)).map (·.origin)).Nodup := by
  rw [List.map_flatMap, List.nodup_flatMap]
  refine ⟨fun file _ => file.nodup_origin_yield names, (List.pairwise_map.1 h).imp ?_⟩
  intro first second hne origin hfirst hsecond
  obtain ⟨entity, hentity, rfl⟩ := List.mem_map.1 hfirst
  obtain ⟨other, hother, heq⟩ := List.mem_map.1 hsecond
  obtain ⟨place, horigin⟩ := SourceFile.origin_of_mem_yield hentity
  obtain ⟨place', horigin'⟩ := SourceFile.origin_of_mem_yield hother
  rw [horigin, horigin'] at heq
  exact hne (Origin.mk.inj (Option.some.inj heq)).1.symm

namespace FileReader

/-! ## One request -/

/-- A request answers with the first of the entities that remain. -/
theorem next_fst (reader : FileReader) : reader.next.1 = reader.remaining.head? := by
  rw [reader.remaining_eq]
  cases reader.next with
  | mk answer behind => cases answer <;> rfl

/-- A request that is not answered with an entity leaves none. -/
theorem remaining_of_next_fst {reader : FileReader} (h : reader.next.1 = none) :
    reader.next.2.remaining = [] := by
  rw [next] at h ⊢
  cases hpending : reader.pending with
  | cons entity rest =>
    rw [hpending] at h
    cases h
  | nil =>
    rw [hpending] at h
    have hend := @openNext_snd_eq_nil reader.names reader.toOpen
    cases hopen : openNext reader.names reader.toOpen with
    | mk entities files =>
      cases entities with
      | cons entity rest =>
        simp only [hopen] at h
        cases h
      | nil =>
        rw [hopen] at hend
        obtain rfl : files = [] := hend rfl
        simp [remaining, toOpen]

/-- A request leaves the other entities that remain. -/
theorem remaining_next (reader : FileReader) :
    reader.next.2.remaining = reader.remaining.tail := by
  have hnone := @remaining_of_next_fst reader
  rw [reader.remaining_eq]
  cases hnext : reader.next with
  | mk answer behind =>
    rw [hnext] at hnone
    cases answer with
    | some entity => rfl
    | none => exact hnone rfl

/-- A request changes nothing that rewinding does not undo. -/
theorem rewound_next (reader : FileReader) : reader.next.2.rewound = reader.rewound := by
  rw [next]
  split
  · rfl
  · split <;> rfl

/-! ## Requests and rewindings -/

/-- What a reader is asked to do. -/
inductive Call where
  | next
  | rewind
deriving DecidableEq, Repr

/-- A reader in use, with its answers since it was rewound. -/
structure Session where
  reader : FileReader
  answers : List (Option Entity) := []

/-- The session of a reader that was just opened. -/
def Session.opened (workspace : Workspace) (roots : List String) (names : FieldNames) : Session :=
  ⟨{ workspace, roots, names }, []⟩

/-- The session behind a call. -/
def Session.perform (session : Session) : Call → Session
  | .next => ⟨session.reader.next.2, session.answers ++ [session.reader.next.1]⟩
  | .rewind => ⟨session.reader.rewound, []⟩

/-- The session behind some calls. -/
def Session.run (session : Session) (calls : List Call) : Session :=
  calls.foldl perform session

/-- The number of requests since the last rewinding. -/
def requestsSinceRewind (calls : List Call) : Nat :=
  (calls.reverse.takeWhile (· = .next)).length

/-- Some entities as answers to a number of requests, with nothing for the requests beyond. -/
def answersTo (entities : List Entity) (requests : Nat) : List (Option Entity) :=
  (entities.take requests).map some ++ List.replicate (requests - entities.length) none

/-- One more request is answered with the next entity, if there is one. -/
theorem answersTo_succ (entities : List Entity) (requests : Nat) :
    answersTo entities (requests + 1) = answersTo entities requests ++ [entities[requests]?] := by
  rw [answersTo, answersTo, List.take_add_one]
  rcases lt_or_ge requests entities.length with hless | hge
  · rw [List.getElem?_eq_getElem hless, Nat.sub_eq_zero_of_le hless,
      Nat.sub_eq_zero_of_le hless.le]
    simp only [List.replicate_zero, List.append_nil, Option.toList_some, List.map_append,
      List.map_cons, List.map_nil]
  · rw [List.getElem?_eq_none hge, Nat.succ_sub hge, List.replicate_succ']
    simp

/-- Behind a number of requests, the entities of a reader are the answers so far and what remains,
and rewinding brings all of them back. -/
structure Session.IsAlong (start : FileReader) (requests : Nat) (session : Session) : Prop where
  rewound : session.reader.rewound = start
  remaining : session.reader.remaining = start.remaining.drop requests
  answers : session.answers = answersTo start.remaining requests

/-- A request takes a session one entity further. -/
theorem Session.IsAlong.next {start : FileReader} {requests : Nat} {session : Session}
    (h : session.IsAlong start requests) :
    (session.perform .next).IsAlong start (requests + 1) where
  rewound := (rewound_next _).trans h.rewound
  remaining := by
    rw [perform, remaining_next, h.remaining, List.tail_drop]
  answers := by
    rw [perform, next_fst, h.answers, h.remaining, List.head?_drop, answersTo_succ]

/-- Rewinding takes a session back to the start. -/
theorem Session.IsAlong.rewind {start : FileReader} {requests : Nat} {session : Session}
    (h : session.IsAlong start requests) : (session.perform .rewind).IsAlong start 0 where
  rewound := h.rewound
  remaining := by rw [perform, h.rewound, List.drop_zero]
  answers := by rw [perform, answersTo, List.take_zero, Nat.zero_sub]; rfl

/-- One more request is counted, and a rewinding starts the count again. -/
theorem requestsSinceRewind_append (calls : List Call) (call : Call) :
    requestsSinceRewind (calls ++ [call]) =
      match call with
      | .next => requestsSinceRewind calls + 1
      | .rewind => 0 := by
  cases call <;> simp [requestsSinceRewind]

/-- A session is along by the number of requests since the last rewinding. -/
theorem Session.isAlong_run {start : FileReader} (hstart : start.rewound = start)
    (calls : List Call) : (run ⟨start, []⟩ calls).IsAlong start (requestsSinceRewind calls) := by
  induction calls using List.reverseRecOn with
  | nil =>
    exact ⟨hstart, rfl, by simp [run, requestsSinceRewind, answersTo]⟩
  | append_singleton calls call ih =>
    rw [run, List.foldl_append, requestsSinceRewind_append]
    cases call with
    | next => exact ih.next
    | rewind => exact ih.rewind

/-- The answers of a reader since it was opened or rewound are the entities of the documents of its
roots, as many as there were requests, and nothing for the requests beyond; the documents are listed
once each in the order of the roots and of the walks, and no two entities have one origin. -/
theorem answers_since_rewind (workspace : Workspace) (roots : List String) (names : FieldNames)
    (h : workspace.tree.WellFormed) :
    ∃ files, workspace.IsCatalogue roots files ∧
      (∀ others, workspace.IsCatalogue roots others → others = files) ∧
      ((files.flatMap (·.yield names)).map (·.origin)).Nodup ∧
      ∀ calls, ((Session.opened workspace roots names).run calls).answers =
        answersTo (files.flatMap (·.yield names)) (requestsSinceRewind calls) := by
  have hcatalogue := Workspace.documentsOf_isCatalogue h roots
  refine ⟨workspace.documentsOf roots, hcatalogue, fun others => hcatalogue.unique,
    nodup_origin_flatMap_yield names hcatalogue.nodup, fun calls => ?_⟩
  have hremaining : FileReader.remaining { workspace, roots, names } =
      (workspace.documentsOf roots).flatMap (·.yield names) := by
    simp [remaining, toOpen, SourceFile.entities_eq_yield]
  have hanswers := (@Session.isAlong_run { workspace, roots, names } rfl calls).answers
  rwa [hremaining] at hanswers

/-- A workspace with an identified object in a list, one in a skipped directory, a document file
that may not be opened and another file. -/
def clutteredWorkspace : Workspace where
  tree := .directory [("types", .directory [
    ("dist", .directory [("b.json", .file "\x7b\"id\":\"gts.x.y.z.b.v1~\"\x7d".toUTF8)]),
    ("deep", .directory [("c.GTS", .file "[5,\x7b\"id\":\"gts.x.y.z.c.v1~\"\x7d]".toUTF8)]),
    ("a.json", .unreadable),
    ("e.txt", .unreadable)])]
  directory := ["types"]

/-- No name occurs twice in the directories of the workspace. -/
theorem clutteredWorkspace_wellFormed : clutteredWorkspace.tree.WellFormed := by
  refine .directory (by decide) (List.forall_mem_singleton.2 (.directory (by decide) ?_))
  simp only [List.forall_mem_cons]
  exact ⟨.directory (by decide) (List.forall_mem_singleton.2 (.file _)),
    .directory (by decide) (List.forall_mem_singleton.2 (.file _)), .unreadable, .unreadable,
    List.forall_mem_nil _⟩

/-- Of overlapping roots in the workspace, the first one that leads to a file lists it, and a root
may be a skipped directory. -/
theorem answers_in_clutteredWorkspace :
    clutteredWorkspace.tree.WellFormed ∧
      (clutteredWorkspace.documentsOf ["deep", ".", "dist/../dist"]).map (·.location) =
        [["types", "deep", "c.GTS"], ["types", "a.json"], ["types", "dist", "b.json"]] ∧
      ∃ files, clutteredWorkspace.IsCatalogue ["deep", ".", "dist/../dist"] files ∧
        (∀ others, clutteredWorkspace.IsCatalogue ["deep", ".", "dist/../dist"] others →
          others = files) ∧
        ((files.flatMap (·.yield ⟨["id"], []⟩)).map (·.origin)).Nodup ∧
        ∀ calls,
          ((Session.opened clutteredWorkspace ["deep", ".", "dist/../dist"] ⟨["id"], []⟩).run
              calls).answers =
            answersTo (files.flatMap (·.yield ⟨["id"], []⟩)) (requestsSinceRewind calls) :=
  ⟨clutteredWorkspace_wellFormed, by decide +kernel,
    answers_since_rewind clutteredWorkspace ["deep", ".", "dist/../dist"] ⟨["id"], []⟩
      clutteredWorkspace_wellFormed⟩

end FileReader

end TypeRegistry
