import TypeRegistry.Proofs.Entity.ReferencePaths
import TypeRegistry.Proofs.Text.Trimming
import TypeRegistry.Selector

/-!
# Paths that are read back

Paths are written into references and into the notes on failed selections, and read where a selector
is followed.  Both sides fit: where no name in a document is empty or has a separator or an opening
bracket, the path of a location is cut into the parts of its steps, and these parts lead to the
value at the location.  A name may look like a number or hold closing brackets, and places may
follow each other.

Main results:

- Definition `Json.IsSelectable`: documents whose paths can be read.
- Theorem `PathPart.ofPath_locationPath`: the path of a location is cut into the parts of its steps.
- Theorem `Json.select_locationPath`: the path of a location leads to the value there.
- Theorem `Json.innerPaths_eq`: the listed paths are those of the values below a document.
- Theorem `Json.paths_read_back`: all listed paths are different and lead to their values, and there
  is a reference for each text that holds an identifier, whose path leads to the text.
-/

namespace TypeRegistry

open Dictionary

/-! ## Documents with readable paths -/

namespace PathStep

/-- A step that can be read off a path.  Its name is not empty and has no separator and no opening
bracket, its place has no more digits than a number may have. -/
def IsSelectable : PathStep → Prop
  | name s => IsPlainName s ∧ '/' ∉ s.toList
  | place n => n < 10 ^ Text.digitLimit

instance (step : PathStep) : Decidable step.IsSelectable :=
  match step with
  | name s => inferInstanceAs (Decidable (IsPlainName s ∧ '/' ∉ s.toList))
  | place n => inferInstanceAs (Decidable (n < 10 ^ Text.digitLimit))

/-- A step that can be read is plain. -/
theorem IsSelectable.isPlain {step : PathStep} (h : step.IsSelectable) : step.IsPlain := by
  cases step with
  | name s => exact h.1
  | place n => exact trivial

/-- The part of a path that a step makes. -/
def part : PathStep → PathPart
  | name s => .name s
  | place n => .index (Text.ofNat n)

/-- The digits of a place are neither separators nor brackets. -/
theorem isDigit_of_mem_ofNat {n : Nat} {c : Char} (h : c ∈ (Text.ofNat n).toList) :
    c.isDigit = true := by
  rw [Text.ofNat, String.toList_ofList] at h
  exact Nat.isDigit_of_mem_toDigits (by decide) (by decide) h

/-- No slash is added to a path by a step that can be read. -/
theorem IsSelectable.slash_not_mem {step : PathStep} (h : step.IsSelectable) :
    '/' ∉ step.mark := by
  cases step with
  | name s => simpa [mark] using h.2
  | place n =>
    have hdigits : '/' ∉ (Text.ofNat n).toList := by
      intro hmem
      exact absurd (isDigit_of_mem_ofNat hmem) (by decide)
    simpa [mark] using hdigits

end PathStep

/-- Every step in a document can be read off a path: no name is empty or has a separator or an
opening bracket, and no array is so long that the places in it have too many digits.  No array that
fits into a memory is. -/
def Json.IsSelectable (document : Json) : Prop :=
  ∀ entry ∈ document.located, ∀ step ∈ entry.1, step.IsSelectable

instance (document : Json) : Decidable document.IsSelectable :=
  inferInstanceAs (Decidable (∀ _ ∈ _, _))

theorem Json.IsSelectable.hasPlainNames {document : Json} (h : document.IsSelectable) :
    document.HasPlainNames :=
  fun entry hentry step hstep => (h entry hentry step hstep).isPlain

/-! ## Parts of a path -/

namespace PathPart

/-- The parts of what is left of a path, read from inside a segment: `buffer` is the name read so
far, `bracket` what is read behind an opening bracket. -/
def readOn (buffer : List Char) (bracket : Option (List Char)) (cs : List Char) : List PathPart :=
  scan buffer bracket ((Text.splitOn '.' cs).headD []) ++
    (Text.splitOn '.' cs).tail.flatMap (scan [] none)

/-- A path without slashes is read from its start. -/
theorem ofPath_eq_readOn {path : String} (h : '/' ∉ path.toList) :
    ofPath path = readOn [] none path.toList := by
  have hdotted : (path.toList.map fun c => if c = '/' then '.' else c) = path.toList := by
    refine (List.map_congr_left fun c hc => if_neg ?_).trans (List.map_id _)
    rintro rfl
    exact h hc
  obtain ⟨first, others, hpieces⟩ :=
    List.exists_cons_of_ne_nil (Text.splitOn_ne_nil '.' path.toList)
  rw [ofPath, hdotted, readOn, hpieces, List.flatMap_cons, List.headD_cons, List.tail_cons]

/-- Behind the end of a path stands the name read so far. -/
theorem readOn_nil (buffer : List Char) : readOn buffer none [] = nameOf buffer := by
  simp [readOn, Text.splitOn, scan]

/-- A point ends the name read so far. -/
theorem readOn_point (buffer cs : List Char) :
    readOn buffer none ('.' :: cs) = nameOf buffer ++ readOn [] none cs := by
  obtain ⟨first, others, hpieces⟩ := List.exists_cons_of_ne_nil (Text.splitOn_ne_nil '.' cs)
  simp [readOn, Text.splitOn, hpieces, scan]

/-- A character other than a point is read as the rule for the segment says. -/
theorem readOn_cons {c : Char} (hc : c ≠ '.') (buffer : List Char) (bracket : Option (List Char))
    (cs : List Char) :
    readOn buffer bracket (c :: cs) =
      scan buffer bracket (c :: (Text.splitOn '.' cs).headD []) ++
        (Text.splitOn '.' cs).tail.flatMap (scan [] none) := by
  obtain ⟨first, others, hpieces⟩ := List.exists_cons_of_ne_nil (Text.splitOn_ne_nil '.' cs)
  simp [readOn, Text.splitOn, hc, hpieces]

/-- Outside square brackets a plain character goes on with the name read so far. -/
theorem readOn_outside {c : Char} (hpoint : c ≠ '.') (hbracket : c ≠ '[') (buffer cs : List Char) :
    readOn buffer none (c :: cs) = readOn (buffer ++ [c]) none cs := by
  rw [readOn_cons hpoint, scan, if_neg hbracket, ← readOn]

/-- In square brackets every character but a point and the closing one is read. -/
theorem readOn_inside {c : Char} (hpoint : c ≠ '.') (hbracket : c ≠ ']')
    (buffer read cs : List Char) :
    readOn buffer (some read) (c :: cs) = readOn buffer (some (read ++ [c])) cs := by
  rw [readOn_cons hpoint, scan, if_neg hbracket, ← readOn]

/-- A plain name is read character by character. -/
theorem readOn_name {name : List Char} (hpoint : '.' ∉ name) (hbracket : '[' ∉ name)
    (buffer cs : List Char) :
    readOn buffer none (name ++ cs) = readOn (buffer ++ name) none cs := by
  induction name generalizing buffer with
  | nil => rw [List.nil_append, List.append_nil]
  | cons c rest ih =>
    rw [List.mem_cons, not_or] at hpoint hbracket
    rw [List.cons_append, readOn_outside (Ne.symm hpoint.1) (Ne.symm hbracket.1),
      ih hpoint.2 hbracket.2, List.append_assoc]
    rfl

/-- What stands in square brackets is read character by character, too, up to the closing one. -/
theorem readOn_inner {inner : List Char} (hpoint : '.' ∉ inner) (hbracket : ']' ∉ inner)
    (buffer read cs : List Char) :
    readOn buffer (some read) (inner ++ ']' :: cs) =
      nameOf buffer ++ index (String.ofList (read ++ inner)) :: readOn [] none cs := by
  induction inner generalizing read with
  | nil =>
    rw [List.nil_append, List.append_nil, readOn_cons (by decide), scan, if_pos rfl,
      List.append_assoc, List.cons_append, ← readOn]
  | cons c rest ih =>
    rw [List.mem_cons, not_or] at hpoint hbracket
    rw [List.cons_append, readOn_inside (Ne.symm hpoint.1) (Ne.symm hbracket.1),
      ih hpoint.2 hbracket.2, List.append_assoc]
    rfl

/-- A place in square brackets ends the name read so far. -/
theorem readOn_place (n : Nat) (buffer cs : List Char) :
    readOn buffer none ((PathStep.place n).mark ++ cs) =
      nameOf buffer ++ index (Text.ofNat n) :: readOn [] none cs := by
  have hdigits (c : Char) (hc : c.isDigit = false) : c ∉ (Text.ofNat n).toList := by
    intro hmem
    rw [PathStep.isDigit_of_mem_ofNat hmem] at hc
    cases hc
  have hmark : (PathStep.place n).mark ++ cs =
      '[' :: ((Text.ofNat n).toList ++ ']' :: cs) := by
    simp [PathStep.mark]
  rw [hmark, readOn_cons (by decide), scan, if_pos rfl, ← readOn,
    readOn_inner (hdigits '.' (by decide)) (hdigits ']' (by decide)), List.nil_append,
    String.ofList_toList]

/-- What the steps of a location add to a path is read as the parts of the steps, behind the name
read so far. -/
theorem readOn_flatMap_mark {location : List PathStep} (h : ∀ step ∈ location, step.IsSelectable)
    (buffer : List Char) :
    readOn buffer none (location.flatMap PathStep.mark) =
      nameOf buffer ++ location.map PathStep.part := by
  -- The induction is on the steps: each begins with a point or a bracket, and so ends the name
  -- before it.
  induction location generalizing buffer with
  | nil => rw [List.flatMap_nil, readOn_nil, List.map_nil, List.append_nil]
  | cons step rest ih =>
    obtain ⟨hstep, hrest⟩ := List.forall_mem_cons.1 h
    rw [List.flatMap_cons, List.map_cons]
    cases step with
    | name s =>
      have hname : nameOf s.toList = [name s] := by
        have hs : s.toList ≠ [] := mt String.toList_eq_nil_iff.1 hstep.1.1
        rw [nameOf, if_neg (by simpa using hs), String.ofList_toList]
      rw [PathStep.mark, List.cons_append, readOn_point, readOn_name hstep.1.2.1 hstep.1.2.2,
        List.nil_append, ih hrest, hname, PathStep.part]
      rfl
    | place n =>
      rw [readOn_place, ih hrest, PathStep.part]
      rfl

/-- The path of a location that begins with a name is cut into the parts of its steps. -/
theorem ofPath_locationPath {s : String} {rest : List PathStep}
    (h : ∀ step ∈ PathStep.name s :: rest, step.IsSelectable) :
    ofPath (locationPath "" (.name s :: rest)) = (PathStep.name s :: rest).map PathStep.part := by
  obtain ⟨⟨⟨hs, hpoint, hbracket⟩, hslash⟩, hrest⟩ := List.forall_mem_cons.1 h
  have hpath : (locationPath "" (.name s :: rest)).toList =
      s.toList ++ rest.flatMap PathStep.mark :=
    toList_locationPath hs rest
  have hplain : '/' ∉ (locationPath "" (.name s :: rest)).toList := by
    rw [hpath, List.mem_append, List.mem_flatMap, not_or]
    refine ⟨hslash, ?_⟩
    rintro ⟨step, hstep, hmem⟩
    exact (hrest step hstep).slash_not_mem hmem
  -- Read as a step of its own, the name would have a point in front.
  have hmarks := readOn_flatMap_mark h []
  rw [List.flatMap_cons, PathStep.mark, List.cons_append, readOn_point] at hmarks
  rw [ofPath_eq_readOn hplain, hpath]
  exact hmarks

end PathPart

/-! ## Following a path -/

namespace Json

/-- The part of a step leads where the step leads. -/
theorem selectPart_part {path : String} {step : PathStep} {document value : Json}
    (hstep : step.IsSelectable) (hat : at? [step] document = some value) :
    selectPart path step.part document = .ok value := by
  cases step with
  | name s =>
    cases document with
    | obj members =>
      rw [at?_name, Option.bind_eq_some_iff] at hat
      obtain ⟨found, hfound, heq⟩ := hat
      obtain rfl := Option.some.inj heq
      simp only [PathStep.part, selectPart, hfound]
    | null | bool _ | int _ | float _ | str _ | arr _ => cases hat
  | place n =>
    cases document with
    | arr items =>
      rw [at?_place, Option.bind_eq_some_iff] at hat
      obtain ⟨item, hitem, heq⟩ := hat
      obtain rfl := Option.some.inj heq
      have hposition :
          Text.wholeNumber? (PathPart.index (Text.ofNat n)).spelling = some (n : Int) :=
        Text.wholeNumber?_ofNat hstep
      have hfound : itemAt? items (n : Int) = some item := hitem
      simp only [PathStep.part, selectPart, hposition, hfound]
    | null | bool _ | int _ | float _ | str _ | obj _ => cases hat

/-- The parts of a location lead to the value there. -/
theorem selectParts_parts {path : String} {location : List PathStep} {document value : Json}
    (hsteps : ∀ step ∈ location, step.IsSelectable) (hat : at? location document = some value) :
    selectParts path (location.map PathStep.part) document = .ok value := by
  induction location generalizing document with
  | nil =>
    obtain rfl := Option.some.inj hat
    rfl
  | cons step rest ih =>
    obtain ⟨hstep, hrest⟩ := List.forall_mem_cons.1 hsteps
    rw [← List.singleton_append, at?_append, Option.bind_eq_some_iff] at hat
    obtain ⟨next, hnext, hat⟩ := hat
    rw [List.map_cons, selectParts, selectPart_part hstep hnext]
    exact ih hrest hat

/-- The path of a location in an object leads to the value there. -/
theorem select_locationPath {members : Members} {location : List PathStep} {value : Json}
    (hsteps : ∀ step ∈ location, step.IsSelectable) (hne : location ≠ [])
    (hat : at? location (.obj members) = some value) :
    select (locationPath "" location) (.obj members) = .ok value := by
  obtain ⟨step, rest, rfl⟩ := List.exists_cons_of_ne_nil hne
  cases step with
  | name s =>
    rw [select, PathPart.ofPath_locationPath hsteps]
    exact selectParts_parts hsteps hat
  | place n => cases hat

/-! ## The listed paths -/

/-- All values below a document with their locations. -/
def inner (document : Json) : List (List PathStep × Json) :=
  document.located.tail

/-- Before the values below a document stands the document. -/
theorem located_eq_cons (document : Json) :
    document.located = ([], document) :: document.inner := by
  cases document <;> rfl

/-- The paths that are listed below a path are those of the values below. -/
def ListsInner (document : Json) : Prop :=
  ∀ path, innerPaths path document = document.inner.map fun entry => locationPath path entry.1

/-- What the paths behind a step are. -/
theorem map_behindStep {value : Json} (h : value.ListsInner) (path : String) (step : PathStep) :
    (value.located.map (behindStep step)).map (fun entry => locationPath path entry.1) =
      stepPath path step :: innerPaths (stepPath path step) value := by
  rw [located_eq_cons, h, List.map_cons, List.map_cons, List.map_map]
  rfl

/-- The listed paths are those of the values below a document, in document order. -/
theorem innerPaths_eq (document : Json) : document.ListsInner := by
  induction document using parts_induction with
  | leaf document harr hobj =>
    intro path
    rw [inner, located_of_leaf harr hobj, List.tail_cons, List.map_nil]
    cases document with
    | arr items => exact absurd rfl (harr items)
    | obj members => exact absurd rfl (hobj members)
    | null | bool _ | int _ | float _ | str _ => rfl
  | arr items ih =>
    intro path
    rw [innerPaths, inner, located, List.tail_cons]
    generalize 0 = place
    induction items generalizing place with
    | nil => rfl
    | cons item rest ihrest =>
      obtain ⟨hitem, hrest⟩ := List.forall_mem_cons.1 ih
      rw [innerPathsOfItems, locatedItems, List.map_append, map_behindStep hitem, ihrest hrest,
        List.cons_append, stepPath]
  | obj members ih =>
    intro path
    rw [innerPaths, inner, located, List.tail_cons]
    induction members with
    | nil => rfl
    | cons member rest ihrest =>
      obtain ⟨name, value⟩ := member
      rw [innerPathsOfMembers, locatedMembers, List.map_append,
        map_behindStep (ih name value List.mem_cons_self), List.cons_append, stepPath,
        ihrest fun key inner hmember => ih key inner (List.mem_cons_of_mem _ hmember)]

/-- The texts in a document with their locations, in document order. -/
def locatedTexts (document : Json) : List (List PathStep × String) :=
  document.located.filterMap fun entry =>
    match entry.2 with
    | .str s => some (entry.1, s)
    | _ => none

/-- The texts in a document are its values that are texts. -/
theorem mem_locatedTexts_iff {document : Json} {location : List PathStep} {s : String} :
    (location, s) ∈ document.locatedTexts ↔ (location, .str s) ∈ document.located := by
  rw [locatedTexts, List.mem_filterMap]
  constructor
  · rintro ⟨⟨other, value⟩, hmem, heq⟩
    cases value with
    | str t =>
      obtain ⟨rfl, rfl⟩ := Prod.mk.inj (Option.some.inj heq)
      exact hmem
    | null | bool _ | int _ | float _ | arr _ | obj _ => cases heq
  · intro hmem
    exact ⟨(location, .str s), hmem, rfl⟩

section Object

variable {members : Members} (hwell : (Json.obj members).WellFormed)
  (hselectable : (Json.obj members).IsSelectable)
include hwell hselectable

/-- A value below an object stands at its location, and its path leads to it. -/
theorem select_of_mem_inner {entry : List PathStep × Json} (hentry : entry ∈ (obj members).inner) :
    entry.1 ≠ [] ∧ at? entry.1 (obj members) = some entry.2 ∧
      select (locationPath "" entry.1) (obj members) = .ok entry.2 := by
  have hmem : entry ∈ (obj members).located := List.mem_of_mem_tail hentry
  have hne : entry.1 ≠ [] := by
    have hnodup := nodup_locations hwell
    rw [located_eq_cons, List.map_cons, List.nodup_cons] at hnodup
    intro hnil
    exact hnodup.1 (List.mem_map.2 ⟨entry, hentry, hnil⟩)
  have hat := (mem_located_iff hwell).1 hmem
  exact ⟨hne, hat, select_locationPath (hselectable entry hmem) hne hat⟩

/-- The listed paths of an object are different. -/
theorem nodup_innerPaths : (innerPaths "" (obj members)).Nodup := by
  have hlocations := nodup_locations hwell
  rw [located_eq_cons, List.map_cons, List.nodup_cons] at hlocations
  have hmap : ((obj members).inner.map fun entry => locationPath "" entry.1) =
      ((obj members).inner.map Prod.fst).map (locationPath "") := List.map_map.symm
  rw [innerPaths_eq, hmap]
  refine hlocations.2.map_on fun location hlocation other hother heq => ?_
  have hplain {steps : List PathStep} (hsteps : steps ∈ (obj members).inner.map Prod.fst) :
      ∀ step ∈ steps, step.IsPlain := by
    obtain ⟨entry, hentry, rfl⟩ := List.mem_map.1 hsteps
    exact hselectable.hasPlainNames entry (List.mem_of_mem_tail hentry)
  exact locationPath_inj (hplain hlocation) (hplain hother) heq

/-- A text in an object stands below it, and its path leads to it. -/
theorem select_of_mem_locatedTexts {entry : List PathStep × String}
    (hentry : entry ∈ (obj members).locatedTexts) :
    select (locationPath "" entry.1) (obj members) = .ok (.str entry.2) := by
  have hmem : (entry.1, .str entry.2) ∈ (obj members).located := mem_locatedTexts_iff.1 hentry
  rw [located_eq_cons] at hmem
  rcases List.mem_cons.1 hmem with heq | hinner
  · cases (Prod.mk.inj heq).2
  · exact (select_of_mem_inner hwell hselectable hinner).2.2

/-- There is one reference for each text that holds an identifier, in document order. -/
theorem ofDocument_eq_map_locatedTexts :
    Reference.ofDocument (obj members) =
      ((obj members).locatedTexts.filter fun entry =>
        Identifier.isValid (Identifier.withoutUriLead entry.2)).map fun entry =>
          ⟨Identifier.withoutUriLead entry.2, locationPath "" entry.1⟩ := by
  rw [(Reference.ofDocument_eq_occurrences hwell hselectable.hasPlainNames).1,
    Reference.occurrences_eq, ← List.filterMap_eq_map, ← List.filterMap_eq_filter,
    List.filterMap_filterMap, locatedTexts, List.filterMap_filterMap]
  refine List.filterMap_congr fun entry hentry => ?_
  obtain ⟨location, value⟩ := entry
  cases value with
  | str s =>
    have hat := (mem_located_iff hwell).1 hentry
    by_cases hvalid : Identifier.isValid (Identifier.withoutUriLead s) = true
    · have href : Reference.ofString? (locationPath "" location) s = some _ :=
        Reference.ofString?_eq_some_iff.2 ⟨hvalid, rfl⟩
      have hpath := (Reference.path_eq_locationPath hwell hselectable.hasPlainNames hat href).1
      simp only [Reference.ofValue?, href, Option.guard, hvalid, Option.bind_some, if_true]
      exact congrArg (fun path => some (Reference.mk _ path)) hpath
    · simp [Reference.ofValue?, Reference.ofString?, Option.guard, hvalid]
  | null | bool _ | int _ | float _ | arr _ | obj _ => rfl

end Object

/-! ## The main statement -/

/-- Paths that are written are read back.  In an object whose names have no separators the paths
listed below it are those of the values below, one by one; no two of them are the same, and each
leads to its value.  In the same order, there is one reference for every text that is an identifier
without the lead of a URI, and its path leads to the text. -/
theorem paths_read_back {members : Members} (hwell : (Json.obj members).WellFormed)
    (hselectable : (Json.obj members).IsSelectable) :
    (innerPaths "" (.obj members) =
        (obj members).inner.map fun entry => locationPath "" entry.1) ∧
      (innerPaths "" (.obj members)).Nodup ∧
      (∀ location value, (location, value) ∈ (obj members).inner ↔
        location ≠ [] ∧ at? location (.obj members) = some value) ∧
      (∀ path ∈ innerPaths "" (.obj members), ∃ location value,
        path = locationPath "" location ∧ at? location (.obj members) = some value ∧
        select path (.obj members) = .ok value) ∧
      (Reference.ofDocument (.obj members) =
        ((obj members).locatedTexts.filter fun entry =>
          Identifier.isValid (Identifier.withoutUriLead entry.2)).map fun entry =>
            ⟨Identifier.withoutUriLead entry.2, locationPath "" entry.1⟩) ∧
      (∀ location s, (location, s) ∈ (obj members).locatedTexts ↔
        at? location (.obj members) = some (.str s)) ∧
      ∀ ref ∈ Reference.ofDocument (.obj members), ∃ s,
        ref.id = Identifier.withoutUriLead s ∧ select ref.path (.obj members) = .ok (.str s) := by
  refine ⟨innerPaths_eq _ _, nodup_innerPaths hwell hselectable, ?_, ?_,
    ofDocument_eq_map_locatedTexts hwell hselectable, ?_, ?_⟩
  · intro location value
    rw [← mem_located_iff hwell, located_eq_cons, List.mem_cons]
    constructor
    · intro hmem
      exact ⟨(select_of_mem_inner hwell hselectable hmem).1, .inr hmem⟩
    · rintro ⟨hne, heq | hmem⟩
      · exact absurd (Prod.mk.inj heq).1 hne
      · exact hmem
  · intro path hpath
    rw [innerPaths_eq] at hpath
    obtain ⟨⟨location, value⟩, hentry, rfl⟩ := List.mem_map.1 hpath
    obtain ⟨-, hat, hselect⟩ := select_of_mem_inner hwell hselectable hentry
    exact ⟨location, value, rfl, hat, hselect⟩
  · intro location s
    rw [mem_locatedTexts_iff, mem_located_iff hwell]
  · intro ref href
    rw [ofDocument_eq_map_locatedTexts hwell hselectable] at href
    obtain ⟨⟨location, s⟩, hentry, rfl⟩ := List.mem_map.1 href
    exact ⟨s, rfl, select_of_mem_locatedTexts hwell hselectable (List.mem_of_mem_filter hentry)⟩

/-- An order with lists in lists, and with names that look like a place and like the end of one. -/
def nestedOrder : Members :=
  [("id", .str "gts.acme.shop.cart.order.v1~"),
    ("lines", .arr [.obj [("0", .str "gts://gts.acme.shop.cart.item.v1~"), ("a]", .int 2)],
      .arr [.arr [.str "first"], .str "gts.acme.shop.base.gift.v1~"]])]

/-- The paths of the order are read back, and two of its three references stand deep inside. -/
theorem paths_read_back_nestedOrder :
    (Json.obj nestedOrder).WellFormed ∧ (Json.obj nestedOrder).IsSelectable ∧
    innerPaths "" (.obj nestedOrder) = ["id", "lines", "lines[0]", "lines[0].0", "lines[0].a]",
      "lines[1]", "lines[1][0]", "lines[1][0][0]", "lines[1][1]"] ∧
    (innerPaths "" (.obj nestedOrder)).Nodup ∧
    (∃ location value, "lines[0].a]" = locationPath "" location ∧
      at? location (.obj nestedOrder) = some value ∧
      select "lines[0].a]" (.obj nestedOrder) = .ok value) ∧
    Reference.ofDocument (.obj nestedOrder) =
      [⟨"gts.acme.shop.cart.order.v1~", "id"⟩, ⟨"gts.acme.shop.cart.item.v1~", "lines[0].0"⟩,
        ⟨"gts.acme.shop.base.gift.v1~", "lines[1][1]"⟩] ∧
    ∃ s, "gts.acme.shop.cart.item.v1~" = Identifier.withoutUriLead s ∧
      select "lines[0].0" (.obj nestedOrder) = .ok (.str s) := by
  have hwell : (Json.obj nestedOrder).WellFormed := by
    simp [nestedOrder, WellFormed, WellFormedMembers, WellFormedItems, keys]
  have hselectable : (Json.obj nestedOrder).IsSelectable := by decide +kernel
  have hpaths : innerPaths "" (.obj nestedOrder) = ["id", "lines", "lines[0]", "lines[0].0",
      "lines[0].a]", "lines[1]", "lines[1][0]", "lines[1][0][0]", "lines[1][1]"] := by
    decide +kernel
  have hreferences : Reference.ofDocument (.obj nestedOrder) =
      [⟨"gts.acme.shop.cart.order.v1~", "id"⟩, ⟨"gts.acme.shop.cart.item.v1~", "lines[0].0"⟩,
        ⟨"gts.acme.shop.base.gift.v1~", "lines[1][1]"⟩] := by
    decide +kernel
  obtain ⟨-, hnodup, -, hselect, -, -, href⟩ := paths_read_back hwell hselectable
  exact ⟨hwell, hselectable, hpaths, hnodup, hselect "lines[0].a]" (by rw [hpaths]; decide),
    hreferences, href ⟨"gts.acme.shop.cart.item.v1~", "lines[0].0"⟩ (by rw [hreferences]; decide)⟩

end Json

end TypeRegistry
