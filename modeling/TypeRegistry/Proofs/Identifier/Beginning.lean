import TypeRegistry.Proofs.Pattern.Reading

/-!
# Chains that begin alike

Where a text begins with another, the chains that are read of the two begin alike as far as the
tildes of the shorter one go: up to the last of them the pieces are the same, at the same places, and
so are the segments.  Behind it the shorter text has an open end.  If the longer text goes on there,
it goes on inside the last token of that end: the tokens in front are tokens of both, and the last
one is the beginning of a token.

Main results:

- Theorem `Text.prefix_trimBlanks`: blanks that are dropped at the end take nothing from a beginning
  that does not end in a blank.
- Theorem `exists_segmentsOf_append`: a chain that goes on behind a tilde is read part by part.
- Theorem `exists_chain_of_read`: what is read of a text is read of the chain behind its lead.
- Theorem `exists_segment_of_open_end`: what is read where a text goes on behind an open end.
-/

namespace TypeRegistry

/-! ## Blanks behind a beginning -/

namespace Text

/-- No blank stands at the end of a text whose blanks are dropped. -/
theorem isBlank_of_getLast?_trimBlanks {cs : List Char} {c : Char}
    (h : (trimBlanks cs).getLast? = some c) : isBlank c = false := by
  obtain ⟨front, hfront⟩ := List.getLast?_eq_some_iff.1 h
  have hends : trimBlanks cs = (cs.dropWhile isBlank).rdropWhile isBlank := rfl
  have hdrop := List.rdropWhile_idempotent isBlank (cs.dropWhile isBlank)
  rw [← hends, hfront] at hdrop
  by_contra hblank
  rw [List.rdropWhile_concat_pos _ _ _ (by simpa using hblank)] at hdrop
  have hlength := congrArg List.length hdrop
  have hkept : front.rdropWhile isBlank <+: front := List.rdropWhile_prefix isBlank front
  have hshort := hkept.length_le
  rw [List.length_append, List.length_singleton] at hlength
  omega

/-- Blanks only are dropped. -/
theorem mem_trimBlanks {cs : List Char} {c : Char} (hc : isBlank c = false) (h : c ∈ cs) :
    c ∈ trimBlanks cs := by
  have hkept : ∀ text : List Char, c ∈ text → c ∈ text.dropWhile isBlank := by
    intro text hmem
    rw [← List.takeWhile_append_dropWhile (p := isBlank) (l := text), List.mem_append] at hmem
    refine hmem.resolve_left fun hdropped => ?_
    rw [List.mem_takeWhile_imp hdropped] at hc
    cases hc
  rw [trimBlanks, trimWhere, List.mem_reverse]
  exact hkept _ (List.mem_reverse.2 (hkept cs h))

/-- What is dropped from the end of a text takes nothing from a beginning that ends in a character
that is kept. -/
theorem prefix_rdropWhile {drop : Char → Bool} {start cs : List Char} (h : start <+: cs)
    (hlast : ∀ c, start.getLast? = some c → drop c = false) : start <+: cs.rdropWhile drop := by
  obtain ⟨behind, rfl⟩ := h
  induction behind using List.reverseRecOn with
  | nil =>
    rw [List.append_nil]
    refine (List.rdropWhile_eq_self_iff.2 fun hne => ?_).symm ▸ List.prefix_rfl
    simpa using hlast _ (List.getLast?_eq_some_getLast hne)
  | append_singleton behind c ih =>
    rw [← List.append_assoc]
    by_cases hc : drop c = true
    · rwa [List.rdropWhile_concat_pos _ _ _ hc]
    · rw [List.rdropWhile_concat_neg _ _ _ hc]
      exact (List.prefix_append _ _).trans (List.prefix_append _ _)

/-- No blanks stand in front of a beginning of a text that begins like an identifier, whatever is put
behind it. -/
theorem dropWhile_isBlank_append {start behind cs : List Char} (hlead : "gts.".toList <+: cs)
    (h : start <+: cs) (hbehind : behind.dropWhile isBlank = behind) :
    (start ++ behind).dropWhile isBlank = start ++ behind := by
  cases start with
  | nil => exact hbehind
  | cons c rest =>
    obtain ⟨_, rfl⟩ := hlead
    obtain ⟨_, hstart⟩ := h
    obtain rfl : c = 'g' := (List.cons.inj hstart).1
    rfl

/-- A text that begins like an identifier has no blanks in front. -/
theorem dropWhile_isBlank_of_lead {cs : List Char} (h : "gts.".toList <+: cs) :
    cs.dropWhile isBlank = cs := by
  simpa using dropWhile_isBlank_append h List.prefix_rfl (List.dropWhile_nil)

/-- From a text without blanks in front those at its end are dropped. -/
theorem trimBlanks_eq_rdropWhile {cs : List Char} (h : cs.dropWhile isBlank = cs) :
    trimBlanks cs = cs.rdropWhile isBlank := by
  have hends : trimBlanks cs = (cs.dropWhile isBlank).rdropWhile isBlank := rfl
  rw [hends, h]

/-- What is left of a text without blanks in front is a beginning of it. -/
theorem isPrefix_trimBlanks {cs : List Char} (h : cs.dropWhile isBlank = cs) :
    trimBlanks cs <+: cs := by
  rw [trimBlanks_eq_rdropWhile h]
  exact List.rdropWhile_prefix _ _

/-- A beginning of a text that begins like an identifier is kept where blanks are dropped, unless it
ends in one. -/
theorem prefix_trimBlanks {start cs : List Char} (hlead : "gts.".toList <+: cs)
    (h : start <+: cs) (hlast : ∀ c, start.getLast? = some c → isBlank c = false) :
    start <+: trimBlanks cs := by
  rw [trimBlanks_eq_rdropWhile (dropWhile_isBlank_of_lead hlead)]
  exact prefix_rdropWhile h hlast

/-- From a text without a blank in front only blanks behind are dropped. -/
theorem exists_eq_trim_append {text : String} (h : text.toList.dropWhile isBlank = text.toList) :
    ∃ blanks, text.toList = (trim text).toList ++ blanks ∧ ∀ c ∈ blanks, isBlank c = true := by
  refine ⟨text.toList.rtakeWhile isBlank, ?_, fun c hc => List.mem_rtakeWhile_imp hc⟩
  rw [toList_trim, trimBlanks_eq_rdropWhile h, List.rdropWhile_append_rtakeWhile]

/-- A text without blanks in front has none to lose exactly if it does not end in one. -/
theorem trimBlanks_eq_self_iff {cs : List Char} (h : cs.dropWhile isBlank = cs) :
    trimBlanks cs = cs ↔ ∀ c, cs.getLast? = some c → isBlank c = false := by
  constructor
  · intro htrim c hc
    rw [← htrim] at hc
    exact isBlank_of_getLast?_trimBlanks hc
  · intro hlast
    apply (isPrefix_trimBlanks h).eq_of_length_le
    rw [trimBlanks_eq_rdropWhile h]
    exact (prefix_rdropWhile List.prefix_rfl hlast).length_le

end Text

/-! ## Chains read part by part -/

section Parts

variable {relaxed : Bool} {position offset : Nat} {segments : List Segment}

/-- The pieces of a chain are read one after the other, each from the place where those in front of
it end. -/
theorem segmentsOf_append {front behind : List (List Char)}
    (h : segmentsOf relaxed position offset (front ++ behind) = .ok segments) :
    ∃ first second, segments = first ++ second ∧
      segmentsOf relaxed position offset front = .ok first ∧
      segmentsOf relaxed (position + front.length) (offset + front.flatten.length) behind =
        .ok second := by
  induction front generalizing position offset segments with
  | nil => exact ⟨[], segments, rfl, rfl, h⟩
  | cons piece front ih =>
    obtain ⟨body, rest, hbody, hrest, rfl⟩ := segmentsOf_cons_eq_ok_iff.1 h
    obtain ⟨first, second, rfl, hfirst, hsecond⟩ := ih hrest
    refine ⟨_ :: first, second, rfl, segmentsOf_cons_eq_ok_iff.2 ⟨body, first, hbody, hfirst, rfl⟩,
      ?_⟩
    have hposition : position + (piece :: front).length = position + 1 + front.length := by
      rw [List.length_cons, Nat.add_comm front.length, Nat.add_assoc]
    rw [hposition, List.flatten_cons, List.length_append, ← Nat.add_assoc]
    exact hsecond

/-- A chain that goes on behind a tilde, or at its start, is read part by part. -/
theorem exists_segmentsOf_append {front behind : List Char}
    (hfront : front = [] ∨ front.getLast? = some '~')
    (h : segmentsOf relaxed position offset (Text.cutAfter '~' (front ++ behind)) =
      .ok segments) :
    ∃ first second, segments = first ++ second ∧
      segmentsOf relaxed position offset (Text.cutAfter '~' front) = .ok first ∧
      segmentsOf relaxed (position + first.length) (offset + front.length)
        (Text.cutAfter '~' behind) = .ok second := by
  rw [Text.cutAfter_append hfront] at h
  obtain ⟨first, second, hsegments, hfirst, hsecond⟩ := segmentsOf_append h
  refine ⟨first, second, hsegments, hfirst, ?_⟩
  rwa [(forall₂_of_segmentsOf hfirst).length_eq, Text.flatten_cutAfter] at hsecond

end Parts

/-! ## The chain of a text -/

/-- The text that is read is its lead and a chain, of which the segments are read. -/
theorem exists_chain_of_read {relaxed : Bool} {given : String} {id : Identifier}
    (h : Identifier.read relaxed given = .ok id) :
    id.text = Text.trim given ∧ ∃ chain, id.text.toList = "gts.".toList ++ chain ∧ chain ≠ [] ∧
      segmentsOf relaxed 1 4 (Text.cutAfter '~' chain) = .ok id.segments := by
  obtain ⟨-, -, ⟨chain, hchain⟩, -, hne, segments, hsegments, -, rfl⟩ := read_eq_ok_iff.1 h
  rw [← hchain] at hne hsegments
  exact ⟨rfl, chain, by rw [Text.toList_trim, hchain], hne, hsegments⟩

/-- The text of an identifier has no star. -/
theorem star_not_mem_text {given : String} {id : Identifier} (h : Identifier.parse given = .ok id) :
    '*' ∉ id.text.toList := by
  obtain ⟨-, chain, hchain, -, hsegments⟩ := exists_chain_of_read h
  have hstar := star_not_mem_of_forall₂ (forall₂_of_segmentsOf hsegments)
  rw [Text.flatten_cutAfter] at hstar
  simp [hchain, hstar]

/-- A text is valid if it spells an identifier and has no blanks in front. -/
theorem Identifier.isValid_iff {given : String} :
    Identifier.isValid given = true ↔
      Text.startsWith Identifier.lead given = true ∧ ∃ id, Identifier.parse given = .ok id := by
  rw [Identifier.isValid, Identifier.parse?]
  split
  next hlead =>
    rw [and_iff_right hlead]
    cases Identifier.parse given <;> simp [Except.toOption]
  next hlead => simp [hlead]

/-! ## Open ends -/

/-- The tilde at the end of a text is at the end of what stands last in it. -/
theorem withoutTilde_append {text behind : List Char} (h : behind ≠ []) :
    withoutTilde (text ++ behind) = text ++ withoutTilde behind := by
  unfold withoutTilde
  rw [List.getLast?_append_of_ne_nil _ h]
  split
  · rw [List.dropLast_append_of_ne_nil h]
  · rfl

/-- No token of a segment is empty. -/
theorem SpellsDesignation.nil_not_mem {tokens : List (List Char)} {d : Designation}
    (h : SpellsDesignation tokens d) : [] ∉ tokens := by
  have hlength := h.length
  obtain ⟨vendor, package, space, typeName, version, behind, rfl⟩ :=
    exists_eq_of_five_le (by omega : 5 ≤ tokens.length)
  obtain ⟨⟨h1, -⟩, ⟨h2, -⟩, ⟨h3, -⟩, ⟨h4, -⟩, ⟨digits, rfl, -⟩, hminor⟩ := h
  have hname : ¬ IsNameToken [] := by rw [← isName_iff]; decide
  have hbehind : [] ∉ behind := by
    rcases behind with _ | ⟨token, _ | ⟨_, _⟩⟩
    · simp
    · obtain ⟨n, -, hspelled⟩ := hminor
      rw [List.mem_singleton]
      rintro rfl
      rw [← versionNumber?_eq_some_iff] at hspelled
      cases hspelled
    · exact absurd hminor id
  simp only [List.mem_cons, not_or]
  refine ⟨?_, ?_, ?_, ?_, by simp, hbehind⟩
  · rintro rfl
    exact hname h1
  · rintro rfl
    exact hname h2
  · rintro rfl
    exact hname h3
  · rintro rfl
    exact hname h4

/-- A text behind an open end goes on in the piece that the end is of: the tokens of the end but for
the last are tokens of the piece, and the last is the beginning of one. -/
theorem exists_segment_of_open_end {position offset : Nat} {text behind last : List Char}
    {front : List (List Char)} {segments : List Segment} (htext : '~' ∉ text)
    (htokens : Text.splitOn '.' text = front ++ [last]) (hbehind : behind ≠ [])
    (h : segmentsOf false position offset (Text.cutAfter '~' (text ++ behind)) = .ok segments) :
    ∃ segment rest d tail others, segments = segment :: rest ∧ segment.position = position ∧
      segment.offset = offset ∧ text <+: segment.text.toList ∧ segment.body = .full d ∧
      SpellsDesignation (front ++ (last ++ tail) :: others) d := by
  have hcut : Text.cutAfter '~' behind ≠ [] := by
    intro hnil
    exact hbehind (by rw [← Text.flatten_cutAfter '~' behind, hnil, List.flatten_nil])
  obtain ⟨piece, pieces, hpieces⟩ := List.exists_cons_of_ne_nil hcut
  have hpiece : piece ≠ [] := Text.ne_nil_of_mem_cutAfter (hpieces ▸ List.mem_cons_self)
  rw [Text.cutAfter_append_of_not_mem htext hpieces] at h
  obtain ⟨body, rest, hbody, -, rfl⟩ := segmentsOf_cons_eq_ok_iff.1 h
  obtain ⟨d, rfl, hspells⟩ := ofPiece_eq_ok_iff.1 hbody
  obtain ⟨tail, others, htail⟩ :=
    List.exists_cons_of_ne_nil (Text.splitOn_ne_nil '.' (withoutTilde piece))
  rw [withoutTilde_append hpiece, Text.splitOn_append htokens htail] at hspells
  exact ⟨_, rest, d, tail, others, rfl, rfl, rfl, by simp, rfl, hspells⟩

end TypeRegistry
