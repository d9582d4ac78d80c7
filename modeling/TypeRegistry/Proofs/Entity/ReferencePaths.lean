import TypeRegistry.Entity.References
import TypeRegistry.Proofs.Json.Locations

/-!
# Paths of references

Each text in a document that is an identifier, the lead of a URI aside, makes a reference at the
path of its location.  So texts at different locations make different references wherever the names
in the document are plain, and there references are found nowhere twice.

Main results:

- Theorem `occurrences_eq`: the references of a document are those of its values, one by one.
- Theorem `mem_ofDocument_iff`: what refers in a document, and where it stands.
- Theorem `path_ne_of_location_ne`: where names are plain, references at different locations have
  different paths.
- Theorem `ofDocument_eq_occurrences`: where names are plain, every such text makes a reference of
  its own, and no two of them stand at one path.
-/

namespace TypeRegistry.Reference

/-! ## References of values -/

/-- The reference that a value is, if it is a text that holds an identifier. -/
def ofValue? (path : String) : Json → Option Reference
  | .str s => ofString? path s
  | _ => none

/-- The references of a document below a path are those of its values. -/
def OccursAsLocated (document : Json) : Prop :=
  ∀ path, occurrences path document =
    document.located.filterMap fun entry => ofValue? (locationPath path entry.1) entry.2

/-- What the references of a value are behind a step. -/
theorem filterMap_map_behindStep {value : Json} (h : OccursAsLocated value) (path : String)
    (step : PathStep) :
    (value.located.map (Json.behindStep step)).filterMap
        (fun entry => ofValue? (locationPath path entry.1) entry.2) =
      occurrences (stepPath path step) value := by
  rw [h, List.filterMap_map]
  rfl

/-- The references of a document are those of its values. -/
theorem occurrences_eq (document : Json) : OccursAsLocated document := by
  induction document using Json.parts_induction with
  | leaf document harr hobj =>
    intro path
    rw [Json.located_of_leaf harr hobj]
    cases document with
    | arr items => exact absurd rfl (harr items)
    | obj members => exact absurd rfl (hobj members)
    | str s =>
      rw [occurrences]
      cases hs : ofString? path s <;> simp [ofValue?, locationPath, hs]
    | null | bool _ | int _ | float _ => rfl
  | arr items ih =>
    intro path
    rw [occurrences, Json.located, List.filterMap_cons_none rfl]
    generalize 0 = place
    induction items generalizing place with
    | nil => rfl
    | cons item rest ihrest =>
      obtain ⟨hitem, hrest⟩ := List.forall_mem_cons.1 ih
      rw [itemOccurrences, Json.locatedItems, List.filterMap_append,
        filterMap_map_behindStep hitem, ihrest hrest, stepPath]
  | obj members ih =>
    intro path
    rw [occurrences, Json.located, List.filterMap_cons_none rfl]
    induction members with
    | nil => rfl
    | cons member rest ihrest =>
      obtain ⟨name, value⟩ := member
      rw [memberOccurrences, Json.locatedMembers, List.filterMap_append,
        filterMap_map_behindStep (ih name value List.mem_cons_self), stepPath,
        ihrest fun key inner hmember => ih key inner (List.mem_cons_of_mem _ hmember)]

/-- What refers in a document are the texts in it that hold identifiers. -/
theorem mem_occurrences_iff {document : Json} {ref : Reference} :
    ref ∈ occurrences "" document ↔ ∃ location s, (location, .str s) ∈ document.located ∧
      ofString? (locationPath "" location) s = some ref := by
  rw [occurrences_eq, List.mem_filterMap]
  constructor
  · rintro ⟨⟨location, value⟩, hmem, href⟩
    cases value with
    | str s => exact ⟨location, s, hmem, href⟩
    | null | bool _ | int _ | float _ | arr _ | obj _ => cases href
  · rintro ⟨location, s, hmem, href⟩
    exact ⟨(location, .str s), hmem, href⟩

/-- What refers in a document, and where it stands. -/
theorem mem_ofDocument_iff {document : Json} (h : document.WellFormed) {ref : Reference} :
    ref ∈ ofDocument document ↔ ∃ location s, document.at? location = some (.str s) ∧
      ofString? (locationPath "" location) s = some ref := by
  simp only [mem_ofDocument, mem_occurrences_iff, Json.mem_located_iff h]

/-! ## Paths that tell references apart -/

/-- The reference that a string is has the identifier in it and the path at which it stands. -/
theorem ofString?_eq_some_iff {path s : String} {ref : Reference} :
    ofString? path s = some ref ↔ Identifier.isValid (Identifier.withoutUriLead s) = true ∧
      ref = ⟨Identifier.withoutUriLead s, if path.isEmpty then rootPath else path⟩ := by
  rw [ofString?, Option.ite_none_right_eq_some, Option.some_inj, eq_comm (a := ref)]

section Plain

variable {members : Json.Members} (hwell : (Json.obj members).WellFormed)
  (hplain : (Json.obj members).HasPlainNames)
include hwell hplain

/-- A reference in an object with plain names has the path of its location. -/
theorem path_eq_locationPath {location : List PathStep} {s : String} {ref : Reference}
    (hat : (Json.obj members).at? location = some (.str s))
    (href : ofString? (locationPath "" location) s = some ref) :
    ref.path = locationPath "" location ∧ ∀ step ∈ location, step.IsPlain := by
  have hsteps : ∀ step ∈ location, step.IsPlain := hplain _ ((Json.mem_located_iff hwell).2 hat)
  have hne : locationPath "" location ≠ "" := by
    intro hempty
    have hnil : location = [] := locationPath_inj hsteps (List.forall_mem_nil _) hempty
    rw [hnil] at hat
    cases hat
  obtain ⟨-, rfl⟩ := ofString?_eq_some_iff.1 href
  exact ⟨if_neg (by simpa using hne), hsteps⟩

/-- In an object with plain names references at different locations have different paths. -/
theorem path_ne_of_location_ne {location other : List PathStep} {s t : String}
    {ref another : Reference} (hat : (Json.obj members).at? location = some (.str s))
    (hother : (Json.obj members).at? other = some (.str t)) (hne : location ≠ other)
    (href : ofString? (locationPath "" location) s = some ref)
    (hanother : ofString? (locationPath "" other) t = some another) : ref.path ≠ another.path := by
  obtain ⟨hpath, hsteps⟩ := path_eq_locationPath hwell hplain hat href
  obtain ⟨hpath', hsteps'⟩ := path_eq_locationPath hwell hplain hother hanother
  rw [hpath, hpath']
  exact fun heq => hne (locationPath_inj hsteps hsteps' heq)

/-- In an object with plain names no two references stand at one path. -/
theorem nodup_paths_occurrences : ((occurrences "" (.obj members)).map (·.path)).Nodup := by
  have hlocations := Json.nodup_locations hwell
  rw [List.Nodup, List.pairwise_map] at hlocations
  rw [occurrences_eq, List.Nodup, List.pairwise_map, List.pairwise_filterMap]
  refine hlocations.imp_of_mem ?_
  rintro ⟨location, value⟩ ⟨other, value'⟩ hmem hmem' hne ref href another hanother
  rw [Json.mem_located_iff hwell] at hmem hmem'
  cases value with
  | str s =>
    cases value' with
    | str t => exact path_ne_of_location_ne hwell hplain hmem hmem' hne href hanother
    | null | bool _ | int _ | float _ | arr _ | obj _ => cases hanother
  | null | bool _ | int _ | float _ | arr _ | obj _ => cases href

end Plain

/-- A list of references without repetitions stays as it is when repetitions are dropped. -/
theorem firstOccurrences_eq_self {seen refs : List Reference} (h : refs.Nodup)
    (hseen : ∀ ref ∈ refs, ref ∉ seen) : firstOccurrences seen refs = refs := by
  induction refs generalizing seen with
  | nil => rfl
  | cons first rest ih =>
    obtain ⟨hfirst, hrest⟩ := List.nodup_cons.1 h
    rw [List.forall_mem_cons] at hseen
    rw [firstOccurrences, if_neg hseen.1, ih hrest]
    intro ref href
    rw [List.mem_cons, not_or]
    exact ⟨fun heq => hfirst (heq ▸ href), hseen.2 ref href⟩

/-- In an object with plain names every text that holds an identifier makes a reference of its own,
and no two of them stand at one path. -/
theorem ofDocument_eq_occurrences {members : Json.Members} (hwell : (Json.obj members).WellFormed)
    (hplain : (Json.obj members).HasPlainNames) :
    ofDocument (.obj members) = occurrences "" (.obj members) ∧
      ((ofDocument (.obj members)).map (·.path)).Nodup := by
  have hpaths := nodup_paths_occurrences hwell hplain
  have hsame : ofDocument (.obj members) = occurrences "" (.obj members) :=
    firstOccurrences_eq_self (List.Nodup.of_map _ hpaths) fun _ _ => List.not_mem_nil
  exact ⟨hsame, hsame ▸ hpaths⟩

end TypeRegistry.Reference
