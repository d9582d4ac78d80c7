import TypeRegistry.Entity.Extraction
import TypeRegistry.Proofs.Identifier.Front

/-!
# The type that governs a document

The identifier of a document is read off a field whose text has no blanks at its end, so the text of
the identifier is the text of the field.  The governing type is cut from that text at a tilde, the
last one for an instance and the first one for a schema; the searches find one since the text is an
identifier, and what they cut is a front of it.

Reading is total here, with values for searches that find nothing.  With these searches left open,
so that they may fail, reading does not fail on any document.

Main results:

- Theorem `exists_field_of_id`: the field that the identifier of an entity is read off.
- Definition `ofContentOrFault`: reading with searches that may fail.
- Theorem `ofContentOrFault_eq`: reading does not fail.
- Theorem `governed_by_fronts`: the fronts of an identifier are types, and entities are governed by
  them.
-/

namespace TypeRegistry

/-- What is left without the lead of a URI is the end of the text. -/
theorem Identifier.withoutUriLead_suffix (s : String) :
    (withoutUriLead s).toList <:+ s.toList := by
  rw [withoutUriLead]
  cases hdrop : Text.dropStart? uriLead s with
  | none => exact List.suffix_rfl
  | some rest =>
    rw [Text.dropStart?_eq_some_iff.1 hdrop]
    exact List.suffix_append _ _

namespace Entity

/-! ## Texts of fields -/

section Fields

variable {members : Json.Members} {name field text : String} {names : List String}
  {wanted : String → Bool}

/-- The text of a field is its string without blanks around it and, in `$id`, without the lead of a
URI. -/
theorem exists_string_of_fieldText? (h : fieldText? members name = some text) :
    ∃ s, Json.getString? name members = some s ∧
      text = if name = "$id" then Identifier.withoutUriLead (Text.trim s) else Text.trim s := by
  rw [fieldText?] at h
  cases hs : Json.getString? name members with
  | none =>
    rw [hs] at h
    cases h
  | some s =>
    simp only [hs, Option.ite_none_left_eq_some] at h
    exact ⟨s, rfl, (Option.some.inj h.2).symm⟩

/-- The text of a field does not end in a blank. -/
theorem isBlank_of_getLast?_fieldText? (h : fieldText? members name = some text) {c : Char}
    (hc : text.toList.getLast? = some c) : Text.isBlank c = false := by
  obtain ⟨s, -, htext⟩ := exists_string_of_fieldText? h
  obtain ⟨front, hfront⟩ : text.toList <:+ Text.trimBlanks s.toList := by
    rw [htext, ← Text.toList_trim]
    split
    · exact Identifier.withoutUriLead_suffix _
    · exact List.suffix_rfl
  have hlast : (Text.trimBlanks s.toList).getLast? = some c := by
    rw [← hfront, List.getLast?_append, hc, Option.some_or]
  exact Text.isBlank_of_getLast?_trimBlanks hlast

/-- A field that is chosen has the text that is found, and the text is of the kind wanted. -/
theorem firstField?_eq_some (h : firstField? members wanted names = some (field, text)) :
    fieldText? members field = some text ∧ wanted text = true := by
  induction names with
  | nil => cases h
  | cons name rest ih =>
    rw [firstField?] at h
    split at h
    next found hfound =>
      split at h
      next hwanted =>
        obtain ⟨rfl, rfl⟩ := Prod.mk.inj (Option.some.inj h)
        exact ⟨hfound, hwanted⟩
      next => exact ih h
    next => exact ih h

/-- The identifying field has the text that is found. -/
theorem fieldText?_of_identifyingField?
    (h : identifyingField? members names = some (field, text)) :
    fieldText? members field = some text := by
  rw [identifyingField?] at h
  split at h
  next found hfound =>
    obtain rfl := Option.some.inj h
    exact (firstField?_eq_some hfound).1
  next => exact (firstField?_eq_some h).1

/-- The text of a field that is an identifier is that of the identifier. -/
theorem text_of_fieldText? (h : fieldText? members name = some text) {id : Identifier}
    (hparse : Identifier.parse text = .ok id) (hvalid : Identifier.isValid text = true) :
    id.text = text := by
  obtain ⟨htext, -⟩ := exists_chain_of_read hparse
  obtain ⟨hlead, -⟩ := Identifier.isValid_iff.1 hvalid
  rw [Text.startsWith, List.isPrefixOf_iff_prefix] at hlead
  have htrim := (Text.trimBlanks_eq_self_iff (Text.dropWhile_isBlank_of_lead hlead)).2
    fun c hc => isBlank_of_getLast?_fieldText? h hc
  rw [htext, Text.trim, htrim, String.ofList_toList]

end Fields

/-- The identifier of an entity is read off the identifying field, the text of which it is. -/
theorem exists_field_of_id {names : FieldNames} {origin : Option Origin} {document : Json}
    {id : Identifier} (h : (ofContent names origin document).id = some id) :
    ∃ field, identifyingField? document.members names.own = some (field, id.text) ∧
      Identifier.parse id.text = .ok id ∧ Identifier.isValid id.text = true := by
  obtain ⟨⟨field, text⟩, hfield, hparse⟩ := Option.bind_eq_some_iff.1 h
  have hvalid : Identifier.isValid text = true := by rw [Identifier.isValid, hparse]; rfl
  rw [Identifier.parse?] at hparse
  split at hparse
  next =>
    cases hread : Identifier.parse text with
    | error fault =>
      rw [hread] at hparse
      cases hparse
    | ok found =>
      rw [hread] at hparse
      obtain rfl := Option.some.inj hparse
      have htext := text_of_fieldText? (fieldText?_of_identifyingField? hfield) hread hvalid
      rw [htext]
      exact ⟨field, hfield, hread, hvalid⟩
  next => cases hparse

/-! ## Governing types -/

/-- Up to its first tilde an identifier that begins with a type is its first segment. -/
theorem throughFirstTilde_eq_front {given : String} {id : Identifier}
    (h : Identifier.parse given = .ok id) {first : Segment} {rest : List Segment}
    (hsegments : id.segments = first :: rest) (htype : first.isType = true) :
    throughFirstTilde id.text.toList = (id.front 1).text.toList := by
  obtain ⟨chain, hchain⟩ := Identifier.exists_isChainOf h
  obtain ⟨before, after, hcut, hfront⟩ := Identifier.cutAt?_first hchain hsegments htype
  rw [throughFirstTilde, hcut]
  exact hfront

/-- A type of two segments has two tildes. -/
theorem two_le_count_tilde {given : String} {id : Identifier}
    (h : Identifier.parse given = .ok id) (htype : id.isType = true)
    (htwo : 2 ≤ id.segments.length) : 2 ≤ Text.count '~' id.text := by
  obtain ⟨chain, hchain⟩ := Identifier.exists_isChainOf h
  have hall : ∀ segment ∈ id.segments, 1 ≤ segment.text.toList.count '~' := by
    intro segment hsegment
    obtain ⟨front, behind, hsplit⟩ := List.append_of_mem hsegment
    have hclosed := (hchain.isType_segment_iff hsplit).2 (.inr htype)
    have hlast := (hchain.closed segment hsegment).1 hclosed
    exact List.one_le_count_iff.2 (List.mem_of_getLast? hlast)
  obtain ⟨first, second, rest, hsegments⟩ :
      ∃ first second rest, id.segments = first :: second :: rest := by
    match hsegments : id.segments, htwo with
    | first :: second :: rest, _ => exact ⟨first, second, rest, rfl⟩
  have hfirst := hall first (by simp [hsegments])
  have hsecond := hall second (by simp [hsegments])
  rw [Text.count, hchain.toList_text, hsegments]
  simp only [List.map_cons, List.flatten_cons, List.count_append]
  omega

/-! ## Searches that may fail -/

/-- Where reading a document may fail: a tilde is searched for where there is none, or a text is
read that is no identifier. -/
inductive ReadingFault where
  | tildeMissing
  | noIdentifier (fault : IdentifierFault)
deriving DecidableEq, Repr

/-- The text up to and with the first tilde, which has to be there. -/
def searchFirstTilde (cs : List Char) : Except ReadingFault (List Char) :=
  match Text.cutAt? '~' cs with
  | some (before, _) => .ok (before ++ ['~'])
  | none => .error .tildeMissing

/-- The text up to and with the last tilde, which has to be there. -/
def searchLastTilde (cs : List Char) : Except ReadingFault (List Char) :=
  if '~' ∈ cs then .ok (Identifier.throughLastTilde cs) else .error .tildeMissing

/-- The field and the identifier of the governing schema, given the identifying field, with searches
that may fail. -/
def governingOrFault (names : FieldNames) (members : Json.Members) (isSchema : Bool)
    (identified : Option (String × String)) :
    Except ReadingFault (Option (String × String)) :=
  let valid? := identified.filter fun found => Identifier.isValid found.2
  if isSchema then
    match valid? with
    | some (field, id) =>
      if Text.endsWith "~" id && 2 ≤ Text.count '~' id then
        (searchFirstTilde id.toList).map fun upTo => some (field, String.ofList upTo)
      else .ok ((fieldText? members "$schema").map fun url => ("$schema", url))
    | none => .ok ((fieldText? members "$schema").map fun url => ("$schema", url))
  else
    match valid? with
    | some (field, id) =>
      if !Text.endsWith "~" id then
        (searchLastTilde id.toList).map fun upTo => some (field, String.ofList upTo)
      else .ok (identifyingField? members names.schema)
    | none => .ok (identifyingField? members names.schema)

/-- The identifier of a document, given the identifying field, with a reading that may fail. -/
def idOrFault (identified : Option (String × String)) : Except ReadingFault (Option Identifier) :=
  match identified with
  | some (_, text) =>
    if Identifier.isValid text then
      match Identifier.parse text with
      | .ok id => .ok (some id)
      | .error fault => .error (.noIdentifier fault)
    else .ok none
  | none => .ok none

/-- The entity of a document, with searches that may fail. -/
def ofContentOrFault (names : FieldNames) (origin : Option Origin) (document : Json) :
    Except ReadingFault Entity := do
  let members := document.members
  let identified := identifyingField? members names.own
  let governing ← governingOrFault names members (declaresSchema members) identified
  let id ← idOrFault identified
  return { ofContent names origin document with
    id := id
    schemaId := governing.map (·.2)
    schemaField := governing.map (·.1)
    label := labelFor origin id }

/-- A valid text has a tilde. -/
theorem tilde_mem_of_isValid {text : String} (h : Identifier.isValid text = true) :
    '~' ∈ text.toList := by
  obtain ⟨hlead, id, hparse⟩ := Identifier.isValid_iff.1 h
  obtain ⟨chain, hchain⟩ := Identifier.exists_isChainOf hparse
  have hmem : '~' ∈ id.text.toList := by
    cases htype : id.isType with
    | true => exact List.mem_of_getLast? (Identifier.isType_iff.1 htype)
    | false =>
      obtain ⟨-, hfront⟩ := Identifier.throughLastTilde_instance hparse htype
      have hlast := List.mem_of_getLast? (Identifier.isType_iff.1 hfront.type)
      exact (Identifier.isPrefix_front hchain _).subset hlast
  obtain ⟨htext, -⟩ := exists_chain_of_read hparse
  rw [Text.startsWith, List.isPrefixOf_iff_prefix] at hlead
  rw [htext, Text.toList_trim] at hmem
  exact (Text.isPrefix_trimBlanks (Text.dropWhile_isBlank_of_lead hlead)).subset hmem

/-- The search for the first tilde finds it if there is one. -/
theorem searchFirstTilde_eq {cs : List Char} (h : '~' ∈ cs) :
    searchFirstTilde cs = .ok (throughFirstTilde cs) := by
  obtain ⟨before, after, rfl, hbefore⟩ := List.eq_append_cons_of_mem h
  rw [searchFirstTilde, throughFirstTilde, Text.cutAt?_append hbefore]

/-- The governing schema is found without a fault. -/
theorem governingOrFault_eq (names : FieldNames) (members : Json.Members) (isSchema : Bool)
    (identified : Option (String × String)) :
    governingOrFault names members isSchema identified =
      .ok (governing? names members isSchema identified) := by
  rw [governingOrFault, governing?]
  cases hvalid : identified.filter fun found => Identifier.isValid found.2 with
  | none => cases isSchema <;> rfl
  | some found =>
    obtain ⟨field, text⟩ := found
    have htilde : '~' ∈ text.toList := tilde_mem_of_isValid (Option.filter_eq_some_iff.1 hvalid).2
    cases isSchema with
    | true =>
      simp only [if_true, searchFirstTilde_eq htilde]
      split <;> rfl
    | false =>
      simp only [Bool.false_eq_true, if_false, searchLastTilde, if_pos htilde]
      split <;> rfl

/-- The identifier is read without a fault. -/
theorem idOrFault_eq (identified : Option (String × String)) :
    idOrFault identified = .ok (identified.bind fun found => Identifier.parse? found.2) := by
  cases identified with
  | none => rfl
  | some found =>
    obtain ⟨field, text⟩ := found
    rw [idOrFault, Option.bind_some]
    cases hvalid : Identifier.isValid text with
    | true =>
      obtain ⟨hlead, id, hparse⟩ := Identifier.isValid_iff.1 hvalid
      simp only [if_true, Identifier.parse?, hlead, hparse, Except.toOption]
    | false =>
      rw [Identifier.isValid, Option.isSome_eq_false_iff, Option.isNone_iff_eq_none] at hvalid
      rw [hvalid]
      rfl

/-- No document fails to be read. -/
theorem ofContentOrFault_eq (names : FieldNames) (origin : Option Origin) (document : Json) :
    ofContentOrFault names origin document = .ok (ofContent names origin document) := by
  rw [ofContentOrFault, governingOrFault_eq, idOrFault_eq]
  rfl

/-! ## Fronts that govern -/

section Governed

variable {names : FieldNames} {origin : Option Origin} {document : Json} {id : Identifier}

/-- The governing schema of an entity follows from its identifier. -/
theorem schemaId_ofContent (h : (ofContent names origin document).id = some id) :
    ∃ field, (ofContent names origin document).schemaId =
      (governing? names document.members (ofContent names origin document).isSchema
        (some (field, id.text))).map (·.2) ∧
      (some (field, id.text)).filter (fun found => Identifier.isValid found.2) =
        some (field, id.text) ∧
      Identifier.parse id.text = .ok id := by
  obtain ⟨field, hfield, hparse, hvalid⟩ := exists_field_of_id h
  refine ⟨field, ?_, ?_, hparse⟩
  · rw [← hfield]
    rfl
  · rw [Option.filter_some, if_pos hvalid]

/-- An instance is governed by its front without the last segment. -/
theorem schemaId_of_instance (h : (ofContent names origin document).id = some id)
    (hinstance : (ofContent names origin document).isSchema = false)
    (hid : id.isType = false) :
    (ofContent names origin document).schemaId =
      some (id.front (id.segments.length - 1)).text := by
  obtain ⟨field, hschema, hvalid, hparse⟩ := schemaId_ofContent h
  obtain ⟨hupTo, -⟩ := Identifier.throughLastTilde_instance hparse hid
  rw [hschema, hinstance, governing?, hvalid]
  simp only [Bool.false_eq_true, if_false]
  rw [if_pos (by simpa [Identifier.isType] using hid), hupTo, String.ofList_toList]
  rfl

/-- A schema whose identifier is a type of two segments is governed by the first one. -/
theorem schemaId_of_derived (h : (ofContent names origin document).id = some id)
    (hisSchema : (ofContent names origin document).isSchema = true) (hid : id.isType = true)
    (htwo : 2 ≤ id.segments.length) :
    (ofContent names origin document).schemaId = some (id.front 1).text ∧
      (id.front 1).IsOwnType := by
  obtain ⟨field, hschema, hvalid, hparse⟩ := schemaId_ofContent h
  obtain ⟨chain, hchain⟩ := Identifier.exists_isChainOf hparse
  obtain ⟨first, rest, hsegments⟩ :=
    List.exists_cons_of_length_pos (Nat.lt_of_lt_of_le Nat.two_pos htwo)
  have hfront : id.segments = [] ++ first :: rest := hsegments
  have htype : first.isType = true := (hchain.isType_segment_iff hfront).2 (.inr hid)
  have hcount := two_le_count_tilde hparse hid htwo
  constructor
  · have hends : Text.endsWith "~" id.text = true := hid
    rw [hschema, hisSchema, governing?, hvalid]
    simp only [if_true]
    rw [if_pos (by simp [hends, hcount]),
      throughFirstTilde_eq_front hparse hsegments htype, String.ofList_toList]
    rfl
  · exact Identifier.parse_front hparse (by rw [hsegments, List.getElem?_cons_zero]) htype

end Governed

/-- Every front of an identifier that ends with a type is read as that type, with the first segments
of the identifier.  No document fails to be read.  An instance is governed by the type that its
identifier belongs to, which is its front without the last segment, and a schema whose identifier is
a type of two segments or more is governed by the first of them. -/
theorem governed_by_fronts :
    (∀ given id, Identifier.parse given = .ok id → ∀ k segment, id.segments[k]? = some segment →
      segment.isType = true → (id.front (k + 1)).IsOwnType) ∧
    (∀ names origin document,
      ofContentOrFault names origin document = .ok (ofContent names origin document)) ∧
    ∀ names origin document id, (ofContent names origin document).id = some id →
      ((ofContent names origin document).isSchema = false → id.isType = false →
        (ofContent names origin document).schemaId = id.typeId? ∧
        id.typeId? = some (id.front (id.segments.length - 1)).text ∧
        (id.front (id.segments.length - 1)).IsOwnType ∧
        (id.front (id.segments.length - 1)).segments.length + 1 = id.segments.length) ∧
      ((ofContent names origin document).isSchema = true → id.isType = true →
        2 ≤ id.segments.length →
        (ofContent names origin document).schemaId = some (id.front 1).text ∧
        (id.front 1).IsOwnType) := by
  refine ⟨fun given id h k segment hk htype => Identifier.parse_front h hk htype,
    ofContentOrFault_eq, fun names origin document id h => ⟨?_, schemaId_of_derived h⟩⟩
  intro hinstance hid
  obtain ⟨-, -, hparse, -⟩ := exists_field_of_id h
  obtain ⟨-, hfront⟩ := Identifier.throughLastTilde_instance hparse hid
  obtain ⟨rest, segment, last, hsegments⟩ := Identifier.exists_segments_of_instance hparse hid
  have htypeId := Identifier.typeId?_eq_front hparse hid
  refine ⟨?_, htypeId, hfront, ?_⟩
  · rw [htypeId]
    exact schemaId_of_instance h hinstance hid
  · simp [Identifier.front, hsegments]

/-- A gift, as a document. -/
def giftDocument : Json :=
  .obj [("id", .str " gts.acme.shop.base.thing.v1~acme.shop.base.gift.v1 ")]

/-- The identifier of the gift. -/
def giftId : Identifier where
  text := "gts.acme.shop.base.thing.v1~acme.shop.base.gift.v1"
  segments := [⟨1, 4, "acme.shop.base.thing.v1~", true,
      .full ⟨"acme", "shop", "base", "thing", 1, none⟩⟩,
    ⟨2, 28, "acme.shop.base.gift.v1", false, .full ⟨"acme", "shop", "base", "gift", 1, none⟩⟩]

/-- The schema of a special thing. -/
def specialSchema : Json :=
  .obj [("$id", .str "gts://gts.acme.shop.base.thing.v1~acme.shop.base.special.v1~"),
    ("$schema", .str "http://json-schema.org/draft-07/schema#")]

/-- The identifier of the special thing. -/
def specialId : Identifier where
  text := "gts.acme.shop.base.thing.v1~acme.shop.base.special.v1~"
  segments := [⟨1, 4, "acme.shop.base.thing.v1~", true,
      .full ⟨"acme", "shop", "base", "thing", 1, none⟩⟩,
    ⟨2, 28, "acme.shop.base.special.v1~", true,
      .full ⟨"acme", "shop", "base", "special", 1, none⟩⟩]

/-- The gift is governed by the type that it belongs to, and the special thing by the first of its
types; both are the thing, which is read as the front of either. -/
theorem governed_by_fronts_thing :
    (ofContent {} none giftDocument).id = some giftId ∧
    (ofContent {} none giftDocument).schemaId = giftId.typeId? ∧
    giftId.typeId? = some "gts.acme.shop.base.thing.v1~" ∧ (giftId.front 1).IsOwnType ∧
    (ofContent {} none specialSchema).id = some specialId ∧
    (ofContent {} none specialSchema).schemaId = some "gts.acme.shop.base.thing.v1~" ∧
    (specialId.front 2).IsOwnType := by
  have hgift : (ofContent {} none giftDocument).id = some giftId := by decide +kernel
  have hspecial : (ofContent {} none specialSchema).id = some specialId := by decide +kernel
  have hparse : Identifier.parse specialId.text = .ok specialId := by decide +kernel
  obtain ⟨hfronts, -, hgoverned⟩ := governed_by_fronts
  obtain ⟨hgiftSchema, hgiftType, hgiftFront, -⟩ := (hgoverned _ _ _ _ hgift).1 rfl (by decide)
  obtain ⟨hspecialSchema, -⟩ := (hgoverned _ _ _ _ hspecial).2 rfl (by decide) (by decide)
  exact ⟨hgift, hgiftSchema, hgiftType, hgiftFront, hspecial, hspecialSchema,
    hfronts _ _ hparse 1 _ rfl rfl⟩

end Entity

end TypeRegistry
