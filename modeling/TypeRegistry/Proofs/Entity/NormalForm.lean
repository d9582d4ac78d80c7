import TypeRegistry.Proofs.Entity.Governing
import TypeRegistry.Proofs.Entity.ReferencePaths
import TypeRegistry.Proofs.Schema.ReferenceForm
import TypeRegistry.Proofs.Store.References

/-!
# References in normal form

A reference has the text that stands in the document, without the lead of a URI, and denotes the
identifier that is read of it.  Reading drops blanks, so the text of the identifier is that of the
reference unless the reference ends in a blank.  Everything in a store of documents is held under
the text of an identifier; a reference that ends in a blank therefore leads to nothing, whatever it
denotes, and any other one leads to what it denotes.

The identifier of a document is read off a field without the blanks around the text, and the
reference at that field keeps the blanks behind.  The reference denotes the document itself, and a
check of references passes over it unless it ends in a blank.

Main results:

- Definition `Reference.Denotes`: what identifier a reference denotes.
- Theorem `exists_denoted`: every reference denotes an identifier.
- Theorem `Denotes.text_eq_iff`: a reference has the text of that identifier unless it ends in a
  blank.
- Theorem `lookup?_of_denotes`: what a reference leads to in a store of documents.
- Theorem `denotes_own`: the reference at the field of the identifier denotes the identifier.
- Theorem `references_denote`: references lead to what they denote unless they end in a blank, and
  only then the reference at the field of the identifier is reported.
- Theorem `references_padded`: a registered document that is reported to refer to nothing.
-/

namespace TypeRegistry

open Dictionary

/-! ## Blanks at the end -/

namespace Text

/-- Whether a text ends in a blank. -/
def endsInBlank (s : String) : Bool :=
  s.toList.getLast?.any isBlank

/-- A text without blanks in front has none around it exactly if it does not end in one. -/
theorem trim_eq_self_iff {s : String} (h : s.toList.dropWhile isBlank = s.toList) :
    trim s = s ↔ endsInBlank s = false := by
  rw [← String.toList_inj, toList_trim, trimBlanks_eq_self_iff h, endsInBlank, Option.any_eq_false]

/-- A text that lost the blanks around it does not end in one. -/
theorem endsInBlank_trim (s : String) : endsInBlank (trim s) = false := by
  rw [endsInBlank, Option.any_eq_false]
  intro c hc
  rw [toList_trim] at hc
  simpa using isBlank_of_getLast?_trimBlanks hc

end Text

/-- A text that is an identifier has no blanks in front. -/
theorem dropWhile_isBlank_of_isValid {text : String} (h : Identifier.isValid text = true) :
    text.toList.dropWhile Text.isBlank = text.toList := by
  obtain ⟨rest, hrest⟩ := exists_eq_lead_append h
  exact Text.dropWhile_isBlank_of_lead (hrest ▸ List.prefix_append _ _)

/-- The text of an identifier that was read does not end in a blank. -/
theorem endsInBlank_text {given : String} {id : Identifier}
    (h : Identifier.parse given = .ok id) : Text.endsInBlank id.text = false := by
  rw [(exists_chain_of_read h).1]
  exact Text.endsInBlank_trim given

/-! ## What references denote -/

namespace Reference

/-- A reference denotes the identifier that is read of it; it may have blanks behind the text of the
identifier. -/
structure Denotes (ref : Reference) (id : Identifier) : Prop where
  read : Identifier.parse ref.id = .ok id
  text : ∃ blanks, ref.id.toList = id.text.toList ++ blanks ∧ ∀ c ∈ blanks, Text.isBlank c = true

/-- A reference has the text of the identifier that it denotes unless it ends in a blank. -/
theorem Denotes.text_eq_iff {ref : Reference} {id : Identifier} (h : ref.Denotes id) :
    id.text = ref.id ↔ Text.endsInBlank ref.id = false := by
  obtain ⟨htext, chain, hchain, -⟩ := exists_chain_of_read h.read
  obtain ⟨blanks, hblanks, -⟩ := h.text
  rw [hchain, List.append_assoc] at hblanks
  have hlead : "gts.".toList <+: ref.id.toList := hblanks ▸ List.prefix_append _ _
  rw [htext]
  exact Text.trim_eq_self_iff (Text.dropWhile_isBlank_of_lead hlead)

/-- A reference that a string is denotes an identifier. -/
theorem exists_denoted {path s : String} {ref : Reference} (h : ofString? path s = some ref) :
    ∃ id, ref.Denotes id := by
  obtain ⟨hvalid, rfl⟩ := ofString?_eq_some_iff.1 h
  obtain ⟨-, id, hread⟩ := Identifier.isValid_iff.1 hvalid
  refine ⟨id, hread, ?_⟩
  rw [(exists_chain_of_read hread).1]
  exact Text.exists_eq_trim_append (dropWhile_isBlank_of_isValid hvalid)

/-- The reference that a string is ends in a blank if the string does. -/
theorem endsInBlank_id {path s : String} {ref : Reference} (h : ofString? path s = some ref) :
    Text.endsInBlank ref.id = Text.endsInBlank s := by
  obtain ⟨hvalid, rfl⟩ := ofString?_eq_some_iff.1 h
  obtain ⟨rest, hrest⟩ := exists_eq_lead_append hvalid
  have hne : (Identifier.withoutUriLead s).toList ≠ [] := by
    rw [hrest]
    exact List.append_ne_nil_of_left_ne_nil (by decide) _
  obtain ⟨front, hfront⟩ := Identifier.withoutUriLead_suffix s
  rw [Text.endsInBlank, Text.endsInBlank, ← hfront, List.getLast?_append_of_ne_nil _ hne]

/-- A reference that is an identifier is the address of no dialect. -/
theorem isDialectAddress_id {path s : String} {ref : Reference} (h : ofString? path s = some ref) :
    isDialectAddress ref.id = false := by
  obtain ⟨hvalid, rfl⟩ := ofString?_eq_some_iff.1 h
  obtain ⟨rest, hrest⟩ := exists_eq_lead_append hvalid
  rw [isDialectAddress, Text.startsWith, Text.startsWith, hrest]
  rfl

end Reference

/-! ## What references lead to -/

/-- Nothing in a store of documents is found under a text that ends in a blank. -/
theorem Store.IsOfDocuments.lookup?_of_endsInBlank {store : Store} (h : store.IsOfDocuments)
    {text : String} (hblank : Text.endsInBlank text = true) : store.lookup? text = none := by
  rw [Option.eq_none_iff_forall_ne_some]
  intro entity hfound
  obtain ⟨htext, hentity⟩ := h.of_lookup? hfound
  obtain ⟨id, hown, rfl⟩ := Option.map_eq_some_iff.1 htext
  obtain ⟨given, hread⟩ : ∃ given, Identifier.parse given = .ok id := by
    rcases hentity with ⟨names, origin, document, rfl⟩ | ⟨typeId, identifier, schema, hread, rfl⟩
    · obtain ⟨-, -, hread, -⟩ := Entity.exists_field_of_id hown
      exact ⟨_, hread⟩
    · obtain rfl := Option.some.inj hown
      exact ⟨_, hread⟩
  rw [endsInBlank_text hread] at hblank
  cases hblank

/-- A reference leads to what is found under the identifier that it denotes, unless it ends in a
blank; then it leads to nothing. -/
theorem lookup?_of_denotes {store : Store} (h : store.IsOfDocuments) {ref : Reference}
    {id : Identifier} (hdenotes : ref.Denotes id) :
    store.lookup? ref.id = if Text.endsInBlank ref.id then none else store.lookup? id.text := by
  cases hblank : Text.endsInBlank ref.id with
  | true => rw [if_pos rfl, h.lookup?_of_endsInBlank hblank]
  | false => rw [if_neg (by simp), hdenotes.text_eq_iff.2 hblank]

/-- The reference that a problem is with. -/
def ReferenceProblem.reference : ReferenceProblem → Reference
  | missing ref => ref
  | noSchema ref => ref

/-- A problem with a reference is one with this reference. -/
theorem reference_of_referenceProblem? {lookup : Lookup} {entity : Entity} {ref : Reference}
    {problem : ReferenceProblem} (h : referenceProblem? lookup entity ref = some problem) :
    problem.reference = ref := by
  cases hfound : lookup ref.id with
  | none =>
    rw [referenceProblem?, hfound] at h
    obtain rfl := Option.some.inj h
    rfl
  | some target =>
    obtain ⟨rfl, -⟩ := referenceProblem?_of_found hfound h
    rfl

/-! ## The field of the identifier -/

/-- The lead of a URI is dropped from an identifier before or after the blanks behind it. -/
theorem Identifier.withoutUriLead_trim {s : String}
    (h : Identifier.isValid (withoutUriLead s) = true) :
    withoutUriLead (Text.trim s) = Text.trim (withoutUriLead s) := by
  cases hdrop : Text.dropStart? uriLead s with
  | none =>
    have hbare : withoutUriLead s = s := by rw [withoutUriLead, hdrop, Option.getD_none]
    rw [hbare] at h ⊢
    have htrim := (isValid_trim_iff (Identifier.isValid_iff.1 h).1).2 h
    rw [withoutUriLead, dropStart?_of_isValid htrim, Option.getD_none]
  | some rest =>
    have hbare : withoutUriLead s = rest := by rw [withoutUriLead, hdrop, Option.getD_some]
    rw [hbare] at h ⊢
    rw [Text.dropStart?_eq_some_iff] at hdrop
    have hfront : s.toList.dropWhile Text.isBlank = s.toList := by rw [hdrop]; rfl
    have hlast : ∀ c, uriLead.toList.getLast? = some c → Text.isBlank c = false := by
      intro c hc
      obtain rfl : '/' = c := Option.some.inj hc
      decide
    have htrim : (Text.trim s).toList = uriLead.toList ++ (Text.trim rest).toList := by
      rw [Text.toList_trim, Text.toList_trim, Text.trimBlanks_eq_rdropWhile hfront,
        Text.trimBlanks_eq_rdropWhile (dropWhile_isBlank_of_isValid h), hdrop,
        Text.rdropWhile_append hlast]
    rw [withoutUriLead, Text.dropStart?_eq_some_iff.2 htrim, Option.getD_some]

namespace Entity

section Own

variable {names : FieldNames} {origin : Option Origin} {document : Json} {id : Identifier}
  {field s : String} {ref : Reference}
  (hid : (ofContent names origin document).id = some id)
  (hfield : (ofContent names origin document).idField = some field)
  (hs : Json.getString? field document.members = some s)
  (href : Reference.ofString? (memberPath "" field) s = some ref)

include hs href in
/-- The reference at a field is one of the entity. -/
theorem mem_references_of_field : ref ∈ (ofContent names origin document).references := by
  have hmember : (field, .str s) ∈ document.members := by
    rw [Json.getString?] at hs
    split at hs
    next text hfound =>
      obtain rfl := Option.some.inj hs
      exact mem_of_find? hfound
    next => cases hs
  refine Reference.mem_ofDocument.2 (Reference.mem_occurrences_iff.2 ⟨[.name field], s, ?_, href⟩)
  rw [Json.located]
  exact List.mem_cons_of_mem _ (Json.mem_locatedMembers_iff.2
    ⟨field, .str s, [], hmember, rfl, by simp [Json.located]⟩)

include hid hfield hs href in
/-- The reference at the field of the identifier denotes the identifier. -/
theorem denotes_own : ref.Denotes id := by
  obtain ⟨found, hfound, hread, hvalid⟩ := exists_field_of_id hid
  have hsame : field = found := by
    have hchosen : (identifyingField? document.members names.own).map (·.1) = some field := hfield
    rw [hfound] at hchosen
    exact (Option.some.inj hchosen).symm
  subst hsame
  obtain ⟨s', hs', htext⟩ := exists_string_of_fieldText? (fieldText?_of_identifyingField? hfound)
  obtain rfl := Option.some.inj (hs.symm.trans hs')
  obtain ⟨denoted, hdenotes⟩ := Reference.exists_denoted href
  obtain ⟨hbare, rfl⟩ := Reference.ofString?_eq_some_iff.1 href
  -- In every field the text of the identifier is what is left without the blanks and the lead.
  have hown : id.text = Text.trim (Identifier.withoutUriLead s) := by
    rw [← Identifier.withoutUriLead_trim hbare]
    split at htext
    next => exact htext
    next =>
      rw [htext] at hvalid
      rw [htext, Identifier.withoutUriLead, dropStart?_of_isValid hvalid, Option.getD_none]
  rw [hown, Identifier.parse_trim_eq_ok_iff] at hread
  obtain rfl := Except.ok.inj (hread.symm.trans hdenotes.read)
  exact hdenotes

include hid hfield hs href in
/-- The reference at the field of the identifier leads elsewhere exactly if the field ends in a
blank. -/
theorem mem_outwardReferences_own_iff :
    ref ∈ (ofContent names origin document).outwardReferences
        (ofContent names origin document).idText ↔ Text.endsInBlank s = true := by
  have htext : (ofContent names origin document).idText = some id.text := by
    rw [idText, hid, Option.map_some]
  have hnormal := (denotes_own hid hfield hs href).text_eq_iff
  rw [Reference.endsInBlank_id href] at hnormal
  rw [outwardReferences, List.mem_filter, htext, Reference.isDialectAddress_id href]
  simp [mem_references_of_field hs href, eq_comm (a := ref.id), hnormal]

include hid hfield hs href in
/-- The reference at the field of the identifier is reported only if the field ends in a blank. -/
theorem endsInBlank_of_reported {lookup : Lookup} {problem : ReferenceProblem}
    (h : problem ∈ (brokenReferences lookup (ofContent names origin document)).value)
    (hproblem : problem.reference = ref) : Text.endsInBlank s = true := by
  obtain ⟨outward, houtward, hbroken⟩ := mem_brokenReferences.1 h
  obtain rfl := (reference_of_referenceProblem? hbroken).symm.trans hproblem
  exact (mem_outwardReferences_own_iff hid hfield hs href).1 houtward

include hid hfield hs href in
/-- If the field of the identifier ends in a blank, the reference at the field is reported missing
in every store of documents. -/
theorem missing_of_endsInBlank {store : Store} (hstore : store.IsOfDocuments)
    (hblank : Text.endsInBlank s = true) :
    .missing ref ∈ (brokenReferences store.lookup? (ofContent names origin document)).value := by
  have houtward := (mem_outwardReferences_own_iff hid hfield hs href).2 hblank
  refine mem_brokenReferences.2 ⟨ref, houtward, ?_⟩
  rw [← Reference.endsInBlank_id href] at hblank
  rw [referenceProblem?, hstore.lookup?_of_endsInBlank hblank]

end Own

/-- Every reference in a document denotes an identifier and has the text of it unless the reference
ends in a blank.  In a store of documents it then leads to nothing, and otherwise to whatever is
found under the identifier.  The reference at the field that the identifier of a document is read
off denotes that identifier; it is never reported unless the field ends in a blank, and then it is
reported missing in every store of documents. -/
theorem references_denote (names : FieldNames) (origin : Option Origin) (document : Json) :
    (∀ ref ∈ Reference.ofDocument document, ∃ id, ref.Denotes id ∧
      (id.text = ref.id ↔ Text.endsInBlank ref.id = false) ∧
      ∀ store : Store, store.IsOfDocuments → store.lookup? ref.id =
        if Text.endsInBlank ref.id then none else store.lookup? id.text) ∧
    ∀ id field s ref, (ofContent names origin document).id = some id →
      (ofContent names origin document).idField = some field →
      Json.getString? field document.members = some s →
      Reference.ofString? (memberPath "" field) s = some ref →
      ref ∈ (ofContent names origin document).references ∧ ref.Denotes id ∧
      (∀ lookup problem,
        problem ∈ (brokenReferences lookup (ofContent names origin document)).value →
        problem.reference = ref → Text.endsInBlank s = true) ∧
      (Text.endsInBlank s = true → ∀ store : Store, store.IsOfDocuments →
        .missing ref ∈
          (brokenReferences store.lookup? (ofContent names origin document)).value) := by
  constructor
  · intro ref href
    rw [Reference.mem_ofDocument, Reference.mem_occurrences_iff] at href
    obtain ⟨location, s, -, href⟩ := href
    obtain ⟨id, hdenotes⟩ := Reference.exists_denoted href
    exact ⟨id, hdenotes, hdenotes.text_eq_iff, fun store h => lookup?_of_denotes h hdenotes⟩
  · intro id field s ref hid hfield hs href
    exact ⟨mem_references_of_field hs href, denotes_own hid hfield hs href,
      fun lookup problem => endsInBlank_of_reported hid hfield hs href,
      fun hblank store hstore => missing_of_endsInBlank hid hfield hs href hstore hblank⟩

/-- An item whose identifier has a blank behind it. -/
def paddedItem : Json :=
  .obj [("id", .str "gts.acme.shop.cart.item.v1~ ")]

/-- The reference at the identifier of the item. -/
def paddedReference : Reference :=
  ⟨"gts.acme.shop.cart.item.v1~ ", "id"⟩

/-- The identifier of the item. -/
def paddedItemId : Identifier where
  text := "gts.acme.shop.cart.item.v1~"
  segments := [⟨1, 4, "acme.shop.cart.item.v1~", true,
    .full ⟨"acme", "shop", "cart", "item", 1, none⟩⟩]

/-- A store in which the item is registered. -/
def paddedStore : Store :=
  (Store.ofReader none false).run ([paddedItem].map .ofDocument)

/-- The item is registered under the identifier that its reference denotes, and the reference leads
to nothing. -/
theorem references_denote_paddedItem :
    paddedReference.Denotes paddedItemId ∧ paddedStore.lookup? paddedReference.id = none ∧
      .missing paddedReference ∈
        (brokenReferences paddedStore.lookup? (ofContent {} none paddedItem)).value := by
  have hid : (ofContent {} none paddedItem).id = some paddedItemId := by decide +kernel
  have href : Reference.ofString? (memberPath "" "id") "gts.acme.shop.cart.item.v1~ " =
      some paddedReference := by
    decide +kernel
  have hblank : Text.endsInBlank "gts.acme.shop.cart.item.v1~ " = true := by decide +kernel
  have hstore : paddedStore.IsOfDocuments := Store.isOfDocuments_run_ofDocument false [paddedItem]
  obtain ⟨hreferences, hown⟩ := references_denote {} none paddedItem
  obtain ⟨hmem, hdenotes, -, hreported⟩ :=
    hown paddedItemId "id" _ paddedReference hid rfl rfl href
  obtain ⟨id, -, -, hlookup⟩ := hreferences paddedReference hmem
  refine ⟨hdenotes, ?_, hreported hblank paddedStore hstore⟩
  rw [hlookup paddedStore hstore]
  exact if_pos hblank

/-- The reference at the identifier of the item does not have the text of the identifier.  The item
is registered, and a check reports that the reference leads to nothing. -/
theorem references_padded :
    (ofContent {} none paddedItem).references = [paddedReference] ∧
    (ofContent {} none paddedItem).idText = some "gts.acme.shop.cart.item.v1~" ∧
    (paddedStore.lookup? "gts.acme.shop.cart.item.v1~").isSome ∧
    (brokenReferences paddedStore.lookup? (ofContent {} none paddedItem)).value =
      [.missing paddedReference] ∧
    ¬ ∀ document, ∀ ref ∈ Reference.ofDocument document, ∀ id,
      Identifier.parse ref.id = .ok id → id.text = ref.id := by
  refine ⟨by decide +kernel, by decide +kernel, by decide +kernel, by decide +kernel, ?_⟩
  intro hnormal
  have hread : Identifier.parse paddedReference.id = .ok paddedItemId := by decide +kernel
  have hmem : paddedReference ∈ Reference.ofDocument paddedItem := by decide +kernel
  exact absurd (hnormal paddedItem paddedReference hmem paddedItemId hread) (by decide)

end Entity

end TypeRegistry
