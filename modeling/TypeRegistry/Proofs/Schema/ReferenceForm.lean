import TypeRegistry.Proofs.Identifier.Beginning
import TypeRegistry.Proofs.Text.Cutting
import TypeRegistry.Schema.ReferenceForm
import TypeRegistry.Schema.Registered

/-!
# References that pass and references that lead to a schema

A reference to a registered schema names it by an identifier, which may stand behind the lead of a
URI and goes on to the first number sign.  The check of forms and the look-up of schemas read a
reference in this way, so what leads to a schema passes, and what passes names an identifier.  They
differ in blanks: the check drops those around the reference first, the look-up takes the text as it
is.  A blank in front makes a reference that passes none for the look-up, and one behind the
identifier is looked up with it.

Main results:

- Definition `NamesIdentifier`: how a reference names an identifier.
- Theorems `referenceFormCause?_eq_none_iff`, `registeredSchema_of_names`: both readings in terms
  of it.
- Theorem `exists_namesIdentifier_trim_iff`: blanks behind a reference do not matter for whether it
  names an identifier.
- Theorem `reference_resolution`: what passes leads to the registered schema unless blanks stand in
  front or behind the identifier, and what leads to one passes.
- Theorem `reference_resolution_padded`: references with blanks that pass and lead nowhere.
-/

namespace TypeRegistry

/-! ## Identifiers in references -/

/-- A reference names an identifier: the identifier stands at the start or behind the lead of a URI,
and goes on to the first number sign or to the end. -/
def NamesIdentifier (ref id : String) : Prop :=
  ∃ lead behind, ref.toList = lead ++ id.toList ++ behind ∧
    (lead = [] ∨ lead = Identifier.uriLead.toList) ∧ (behind = [] ∨ behind.head? = some '#') ∧
    '#' ∉ id.toList ∧ Identifier.isValid id = true

/-- An identifier that has no blanks in front begins with the lead of identifiers. -/
theorem exists_eq_lead_append {id : String} (h : Identifier.isValid id = true) :
    ∃ rest, id.toList = "gts.".toList ++ rest := by
  obtain ⟨hlead, -⟩ := Identifier.isValid_iff.1 h
  obtain ⟨rest, hrest⟩ := List.isPrefixOf_iff_prefix.1 hlead
  exact ⟨rest, hrest.symm⟩

/-- An identifier does not begin with the lead of a URI. -/
theorem dropStart?_of_isValid {id : String} (h : Identifier.isValid id = true) :
    Text.dropStart? Identifier.uriLead id = none := by
  obtain ⟨rest, hrest⟩ := exists_eq_lead_append h
  rw [Option.eq_none_iff_forall_ne_some]
  intro other hother
  rw [Text.dropStart?_eq_some_iff, hrest] at hother
  simp [Identifier.uriLead] at hother

/-- What a reference names is found where the reference is cut. -/
theorem namesIdentifier_iff {ref id : String} :
    NamesIdentifier ref id ↔ referencedId ref = id ∧ Identifier.isValid id = true := by
  constructor
  · rintro ⟨lead, behind, href, hlead, hbehind, hsign, hvalid⟩
    refine ⟨?_, hvalid⟩
    have hbefore : (Text.before '#' ref).toList = lead ++ id.toList := by
      rw [Text.toList_before, Text.takeWhile_ne_eq_iff]
      refine ⟨fun hmem => ?_, behind, href, hbehind⟩
      rcases List.mem_append.1 hmem with hmem | hmem
      · rcases hlead with rfl | rfl <;> simp [Identifier.uriLead] at hmem
      · exact hsign hmem
    rw [referencedId, Identifier.withoutUriLead]
    rcases hlead with rfl | rfl
    · rw [List.nil_append, String.toList_inj] at hbefore
      rw [hbefore, dropStart?_of_isValid hvalid, Option.getD_none]
    · rw [Text.dropStart?_eq_some_iff.2 hbefore, Option.getD_some]
  · rintro ⟨rfl, hvalid⟩
    obtain ⟨hsign, behind, hcut, hbehind⟩ :=
      Text.takeWhile_ne_eq_iff.1 (Text.toList_before '#' ref).symm
    rw [referencedId, Identifier.withoutUriLead] at hvalid ⊢
    cases hlead : Text.dropStart? Identifier.uriLead (Text.before '#' ref) with
    | none =>
      rw [hlead, Option.getD_none] at hvalid
      exact ⟨[], behind, hcut, .inl rfl, hbehind, hsign, hvalid⟩
    | some rest =>
      rw [hlead, Option.getD_some] at hvalid
      rw [Text.dropStart?_eq_some_iff] at hlead
      rw [hlead] at hcut hsign
      exact ⟨_, behind, hcut, .inr rfl, hbehind,
        fun hmem => hsign (List.mem_append_right _ hmem), hvalid⟩

/-- A reference that names an identifier has no blank in front. -/
theorem NamesIdentifier.head? {ref id : String} (h : NamesIdentifier ref id) :
    ref.toList.head? = some 'g' := by
  obtain ⟨lead, behind, href, hlead, -, -, hvalid⟩ := h
  obtain ⟨rest, hrest⟩ := exists_eq_lead_append hvalid
  rw [href, hrest]
  rcases hlead with rfl | rfl <;> rfl

/-- What the check of a form asks of a text: it stays in its document, or names an identifier. -/
theorem referenceFormCause?_eq_none_iff {text : String} :
    referenceFormCause? text = none ↔
      Text.startsWith "#" text = true ∨ ∃ id, NamesIdentifier text id := by
  have hnames : (∃ id, NamesIdentifier text id) ↔
      Identifier.isValid (referencedId text) = true := by
    simp [namesIdentifier_iff]
  -- The check cuts off the lead of a URI first, the reference as it is looked up the fragment.
  have hcuts : referencedId text = (Text.dropStart? Identifier.uriLead text).elim
      (Text.before '#' text) (Text.before '#') := by
    rw [referencedId, Identifier.withoutUriLead]
    cases hlead : Text.dropStart? Identifier.uriLead text with
    | some rest =>
      have hbefore : Text.dropStart? Identifier.uriLead (Text.before '#' text) =
          some (Text.before '#' rest) := by
        rw [Text.dropStart?_eq_some_iff] at hlead ⊢
        rw [Text.toList_before, Text.toList_before, hlead]
        exact List.takeWhile_append_of_pos (List.all_eq_true.1 rfl)
      rw [hbefore, Option.getD_some, Option.elim_some]
    | none =>
      have hbefore : Text.dropStart? Identifier.uriLead (Text.before '#' text) = none := by
        rw [Option.eq_none_iff_forall_ne_some] at hlead ⊢
        intro rest hrest
        obtain ⟨behind, hbehind⟩ := List.takeWhile_prefix (l := text.toList) (· ≠ '#')
        rw [Text.dropStart?_eq_some_iff, Text.toList_before] at hrest
        apply hlead (String.ofList (rest.toList ++ behind))
        rw [Text.dropStart?_eq_some_iff, String.toList_ofList, ← List.append_assoc, ← hrest,
          hbehind]
      rw [hbefore, Option.getD_none, Option.elim_none]
  rw [hnames, hcuts, referenceFormCause?]
  split
  next hempty =>
    obtain rfl : text = "" := by simpa using hempty
    decide
  next =>
    split
    next hsign => simp [hsign]
    next hsign =>
      cases Text.dropStart? Identifier.uriLead text <;> simp [hsign]

/-! ## Blanks around a reference -/

/-- The blanks around a text do not change the identifier that is read. -/
theorem Identifier.parse_trim_eq_ok_iff {text : String} {id : Identifier} :
    Identifier.parse (Text.trim text) = .ok id ↔ Identifier.parse text = .ok id := by
  rw [Identifier.parse, Identifier.parse, read_eq_ok_iff, read_eq_ok_iff, Text.toList_trim,
    Text.trimBlanks_trimBlanks, Text.trim_trim]

/-- A text that begins like an identifier is one exactly if it is one without the blanks behind. -/
theorem isValid_trim_iff {text : String} (h : Text.startsWith Identifier.lead text = true) :
    Identifier.isValid (Text.trim text) = true ↔ Identifier.isValid text = true := by
  have htrim : Text.startsWith Identifier.lead (Text.trim text) = true := by
    rw [Text.startsWith, List.isPrefixOf_iff_prefix] at h ⊢
    rw [Text.toList_trim]
    refine Text.prefix_trimBlanks h h fun c hc => ?_
    obtain rfl : '.' = c := Option.some.inj hc
    rfl
  simp only [Identifier.isValid_iff, h, htrim, true_and, Identifier.parse_trim_eq_ok_iff]

/-- Behind a part that does not end in a blank the blanks are dropped as if nothing stood before. -/
theorem Text.rdropWhile_append {start cs : List Char}
    (h : ∀ c, start.getLast? = some c → Text.isBlank c = false) :
    (start ++ cs).rdropWhile Text.isBlank = start ++ cs.rdropWhile Text.isBlank := by
  induction cs using List.reverseRecOn with
  | nil =>
    rw [List.append_nil, List.rdropWhile_nil, List.append_nil, List.rdropWhile_eq_self_iff]
    intro hne
    simpa using h _ (List.getLast?_eq_some_getLast hne)
  | append_singleton cs c ih =>
    rw [← List.append_assoc]
    by_cases hc : Text.isBlank c = true
    · rw [List.rdropWhile_concat_pos _ _ _ hc, List.rdropWhile_concat_pos _ _ _ hc, ih]
    · rw [List.rdropWhile_concat_neg _ _ _ hc, List.rdropWhile_concat_neg _ _ _ hc,
        List.append_assoc]

/-- An identifier with blanks behind it is one. -/
theorem isValid_append_blanks {id : String} {blanks : List Char}
    (h : Identifier.isValid id = true) (hblanks : ∀ c ∈ blanks, Text.isBlank c = true) :
    Identifier.isValid (String.ofList (id.toList ++ blanks)) = true := by
  obtain ⟨rest, hrest⟩ := exists_eq_lead_append h
  have hlead : "gts.".toList <+: id.toList ++ blanks := by
    rw [hrest, List.append_assoc]
    exact List.prefix_append _ _
  have htrim : Text.trim (String.ofList (id.toList ++ blanks)) = Text.trim id := by
    have hid : "gts.".toList <+: id.toList := hrest ▸ List.prefix_append _ _
    rw [← String.toList_inj, Text.toList_trim, Text.toList_trim, String.toList_ofList,
      Text.trimBlanks_eq_rdropWhile (Text.dropWhile_isBlank_of_lead hlead),
      Text.trimBlanks_eq_rdropWhile (Text.dropWhile_isBlank_of_lead hid), List.rdropWhile,
      List.rdropWhile, List.reverse_append, List.dropWhile_append_of_pos]
    simpa using hblanks
  rw [← isValid_trim_iff, htrim]
  · exact (isValid_trim_iff (Identifier.isValid_iff.1 h).1).2 h
  · rw [Text.startsWith, String.toList_ofList, List.isPrefixOf_iff_prefix]
    exact hlead

/-- What a reference without the blanks behind it names it names with them, or the identifier has them
behind it. -/
theorem NamesIdentifier.of_trim {ref id : String} (hids : NamesIdentifier (Text.trim ref) id)
    (h : ref.toList.dropWhile Text.isBlank = ref.toList) : ∃ id, NamesIdentifier ref id := by
  obtain ⟨lead, behind, href, hlead, hbehind, hid, hvalid⟩ := hids
  obtain ⟨blanks, hblanks, hall⟩ := Text.exists_eq_trim_append h
  rw [href] at hblanks
  rcases hbehind with rfl | hbehind
  · have hsign : '#' ∉ blanks := fun hmem => absurd (hall _ hmem) (by decide)
    refine ⟨String.ofList (id.toList ++ blanks), lead, [], ?_, hlead, .inl rfl, ?_,
      isValid_append_blanks hvalid hall⟩
    · simpa using hblanks
    · simp [hid, hsign]
  · refine ⟨id, lead, behind ++ blanks, ?_, hlead, .inr ?_, hid, hvalid⟩
    · rw [hblanks, List.append_assoc]
    · rw [List.head?_append, hbehind, Option.some_or]

/-- An identifier that a reference names it names without the blanks behind it, which stand behind
the identifier or in the fragment. -/
theorem NamesIdentifier.trim {ref id : String} (hids : NamesIdentifier ref id)
    (h : ref.toList.dropWhile Text.isBlank = ref.toList) :
    ∃ id, NamesIdentifier (Text.trim ref) id := by
  obtain ⟨lead, behind, href, hlead, hbehind, hid, hvalid⟩ := hids
  have htrim := Text.trimBlanks_eq_rdropWhile h
  rw [← Text.toList_trim, href] at htrim
  have hstart : id.toList.dropWhile Text.isBlank = id.toList := by
    obtain ⟨rest, hrest⟩ := exists_eq_lead_append hvalid
    exact Text.dropWhile_isBlank_of_lead (hrest ▸ List.prefix_append _ _)
  rcases hbehind with rfl | hbehind
  · have hkept : (Text.trim id).toList <+: id.toList := by
      rw [Text.toList_trim]
      exact Text.isPrefix_trimBlanks hstart
    refine ⟨Text.trim id, lead, [], ?_, hlead, .inl rfl, fun hmem => hid (hkept.subset hmem), ?_⟩
    · have hlast : ∀ c, lead.getLast? = some c → Text.isBlank c = false := by
        intro c hc
        rcases hlead with rfl | rfl
        · cases hc
        · obtain rfl : '/' = c := Option.some.inj hc
          rfl
      rw [htrim, List.append_nil, List.append_nil, Text.rdropWhile_append hlast, Text.toList_trim,
        Text.trimBlanks_eq_rdropWhile hstart]
    · exact (isValid_trim_iff (Identifier.isValid_iff.1 hvalid).1).2 hvalid
  · obtain ⟨rest, rfl⟩ := List.head?_eq_some_iff.1 hbehind
    refine ⟨id, lead, '#' :: rest.rdropWhile Text.isBlank, ?_, hlead, .inr rfl, hid, hvalid⟩
    have hlast : ∀ c, (lead ++ id.toList ++ ['#']).getLast? = some c → Text.isBlank c = false := by
      intro c hc
      obtain rfl : '#' = c := by simpa using hc
      decide
    rw [htrim, List.append_cons, Text.rdropWhile_append hlast, ← List.append_cons]

/-- Blanks behind a reference do not matter for whether it names an identifier. -/
theorem exists_namesIdentifier_trim_iff {ref : String}
    (h : ref.toList.dropWhile Text.isBlank = ref.toList) :
    (∃ id, NamesIdentifier (Text.trim ref) id) ↔ ∃ id, NamesIdentifier ref id :=
  ⟨fun ⟨_, hids⟩ => hids.of_trim h, fun ⟨_, hids⟩ => hids.trim h⟩

/-! ## The main statement -/

/-- The schema that is looked up is the one that the reference names, by the text that stands there. -/
theorem registeredSchema_of_names {lookup : Lookup} {ref id : String}
    (h : NamesIdentifier ref id) :
    (registeredSchema lookup ref).value = match lookup id with
      | none => .error ⟨ref, .notFound⟩
      | some entity =>
        if entity.isSchema then .ok entity.content else .error ⟨ref, .notSchema⟩ := by
  obtain ⟨rfl, hvalid⟩ := namesIdentifier_iff.1 h
  exact congrArg Consulted.value (if_pos hvalid)

/-- A reference is none for the look-up exactly if it names no identifier. -/
theorem registeredSchema_eq_notReference_iff {lookup : Lookup} {ref : String} :
    (registeredSchema lookup ref).value = .error ⟨ref, .notReference⟩ ↔
      ¬ ∃ id, NamesIdentifier ref id := by
  constructor
  · rintro hvalue ⟨id, hid⟩
    rw [registeredSchema_of_names hid] at hvalue
    cases hfound : lookup id with
    | none => simp [hfound] at hvalue
    | some entity => cases hschema : entity.isSchema <;> simp [hfound, hschema] at hvalue
  · intro hnone
    rw [registeredSchema, if_neg fun hvalid => hnone ⟨_, namesIdentifier_iff.2 ⟨rfl, hvalid⟩⟩]
    rfl

/-- A text begins with a blank. -/
def BeginsWithBlank (text : String) : Prop :=
  ∃ c, text.toList.head? = some c ∧ Text.isBlank c = true

/-- A text that does not begin with a blank has none to lose in front. -/
theorem dropWhile_isBlank_of_not_beginsWithBlank {text : String} (h : ¬ BeginsWithBlank text) :
    text.toList.dropWhile Text.isBlank = text.toList := by
  cases htext : text.toList with
  | nil => rfl
  | cons c rest =>
    rw [List.dropWhile_cons_of_neg]
    exact fun hc => h ⟨c, by rw [htext, List.head?_cons], hc⟩

/-- A reference that names an identifier does not begin with a blank. -/
theorem NamesIdentifier.not_beginsWithBlank {ref id : String} (h : NamesIdentifier ref id) :
    ¬ BeginsWithBlank ref := by
  rintro ⟨c, hc, hblank⟩
  rw [h.head?, Option.some_inj] at hc
  subst hc
  exact absurd hblank (by decide)

/-- A reference into another document passes exactly if it names an identifier, once the blanks
around it are dropped. -/
theorem referenceFormIssue?_eq_none_iff {path ref : String} :
    referenceFormIssue? path (.str ref) = none ↔
      Text.startsWith "#" (Text.trim ref) = true ∨ ∃ id, NamesIdentifier (Text.trim ref) id := by
  rw [← referenceFormCause?_eq_none_iff, referenceFormIssue?, Option.map_eq_none_iff]

/-- A reference into another document that does not begin with a blank passes exactly if it names an
identifier as it stands. -/
theorem referenceFormIssue?_eq_none_iff_names {path ref : String}
    (hlocal : Text.startsWith "#" ref = false) (h : ¬ BeginsWithBlank ref) :
    referenceFormIssue? path (.str ref) = none ↔ ∃ id, NamesIdentifier ref id := by
  have hfront := dropWhile_isBlank_of_not_beginsWithBlank h
  rw [referenceFormIssue?_eq_none_iff, exists_namesIdentifier_trim_iff hfront, or_iff_right]
  intro hsign
  rw [← Bool.not_eq_true] at hlocal
  apply hlocal
  obtain ⟨blanks, hblanks, -⟩ := Text.exists_eq_trim_append hfront
  rw [Text.startsWith, List.isPrefixOf_iff_prefix] at hsign ⊢
  rw [hblanks]
  exact hsign.trans (List.prefix_append _ _)

/-- Whatever a store holds, a reference into another document that passes the check of its form is
none for the look-up exactly if it begins with a blank; else it names an identifier.  Where no blanks
stand around that identifier, the reference leads to the schema that is registered under it.  And
what leads to a schema passes. -/
theorem reference_resolution (store : Store) (path ref : String)
    (hlocal : Text.startsWith "#" ref = false) :
    (referenceFormIssue? path (.str ref) = none →
      ((registeredSchema store.lookup? ref).value = .error ⟨ref, .notReference⟩ ↔
        BeginsWithBlank ref) ∧
      (¬ BeginsWithBlank ref → ∃ id, Identifier.parse (referencedId ref) = .ok id) ∧
      ∀ id entity, Identifier.parse (referencedId ref) = .ok id → referencedId ref = id.text →
        store.lookup? id.text = some entity → entity.isSchema = true →
          (registeredSchema store.lookup? ref).value = .ok entity.content) ∧
    ∀ content, (registeredSchema store.lookup? ref).value = .ok content →
      referenceFormIssue? path (.str ref) = none := by
  constructor
  · intro hpasses
    have hnames (h : ¬ BeginsWithBlank ref) : ∃ id, NamesIdentifier ref id :=
      (referenceFormIssue?_eq_none_iff_names hlocal h).1 hpasses
    refine ⟨?_, ?_, ?_⟩
    · rw [registeredSchema_eq_notReference_iff]
      constructor
      · exact fun hnone => by_contra fun h => hnone (hnames h)
      · rintro hblank ⟨id, hid⟩
        exact hid.not_beginsWithBlank hblank
    · intro h
      obtain ⟨id, hid⟩ := hnames h
      obtain ⟨rfl, hvalid⟩ := namesIdentifier_iff.1 hid
      exact (Identifier.isValid_iff.1 hvalid).2
    · intro id entity hid htext hfound hschema
      have hlead : Text.startsWith Identifier.lead (referencedId ref) = true := by
        obtain ⟨-, chain, hchain, -⟩ := exists_chain_of_read hid
        rw [htext, Text.startsWith, List.isPrefixOf_iff_prefix, hchain]
        exact List.prefix_append _ _
      have hvalid := Identifier.isValid_iff.2 ⟨hlead, id, hid⟩
      rw [registeredSchema_of_names (namesIdentifier_iff.2 ⟨htext, htext ▸ hvalid⟩), hfound]
      simp [hschema]
  · intro content hcontent
    have hnames : ∃ id, NamesIdentifier ref id := by
      by_contra hnone
      rw [registeredSchema_eq_notReference_iff.2 hnone] at hcontent
      cases hcontent
    obtain ⟨id, hid⟩ := hnames
    exact (referenceFormIssue?_eq_none_iff_names hlocal hid.not_beginsWithBlank).2 ⟨id, hid⟩

/-- A store with a schema for items. -/
def itemStore : Store :=
  (({} : Store).registerSchema "gts.acme.shop.cart.item.v1~" (.obj [])).2

/-- A reference into the schema for items, with a blank behind. -/
def itemPartReference : String :=
  "gts://gts.acme.shop.cart.item.v1~#/a "

/-- A reference passes with a blank behind its fragment, and leads to the schema that it names. -/
theorem reference_resolution_itemPart :
    Text.startsWith "#" itemPartReference = false ∧
    referenceFormIssue? "$ref" (.str itemPartReference) = none ∧
    (registeredSchema itemStore.lookup? itemPartReference).value = .ok (.obj []) := by
  have hlocal : Text.startsWith "#" itemPartReference = false := rfl
  have hpasses : referenceFormIssue? "$ref" (.str itemPartReference) = none := rfl
  obtain ⟨-, -, hleads⟩ := (reference_resolution itemStore "$ref" itemPartReference hlocal).1 hpasses
  exact ⟨hlocal, hpasses, hleads _ _ rfl rfl rfl rfl⟩

/-- A blank in front of a reference, or behind the identifier in it, passes; but the one makes it no
reference for the look-up, and with the other the schema that is registered is not found. -/
theorem reference_resolution_padded :
    let front := " gts://gts.acme.shop.cart.item.v1~"
    let behind := "gts://gts.acme.shop.cart.item.v1~ "
    (schemaContent? itemStore.lookup? "gts.acme.shop.cart.item.v1~").isSome = true ∧
    referenceFormIssue? "$ref" (.str front) = none ∧
    (registeredSchema itemStore.lookup? front).value = .error ⟨front, .notReference⟩ ∧
    referenceFormIssue? "$ref" (.str behind) = none ∧
    (Identifier.parse (referencedId behind)).toOption.map (·.text) =
      some "gts.acme.shop.cart.item.v1~" ∧
    (registeredSchema itemStore.lookup? behind).value = .error ⟨behind, .notFound⟩ :=
  ⟨rfl, rfl, rfl, rfl, rfl, rfl⟩

end TypeRegistry
