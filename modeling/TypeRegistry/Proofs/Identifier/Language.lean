import Mathlib.Data.List.Forall2
import TypeRegistry.Proofs.Identifier.Grammar

/-!
# The language of identifiers

An identifier is a text of limited length that begins with `gts.`; what follows is a chain of
segments, each of which but perhaps the last is closed by a tilde, and a chain of one segment is
closed.  The language is set out over the split at tildes and points.  Reading accepts exactly this
language, although it tests for capitals and hyphens first: no segment has room for them.

Main results:

- Theorem `read_eq_ok_iff`: what a text has to pass to be read, one condition for each check.
- Theorem `IsIdentifierText.isLowerCase`: an identifier passes the checks on the text as a whole.
- Theorem `parse_language`: the language of identifiers, and what is read from each of them.
-/

namespace TypeRegistry

/-! ## The language -/

/-- The pieces of a chain behind its lead, cut at the tildes, each with whether a tilde closes
it. -/
def chainPieces (raw : List Char) : List (List Char × Bool) :=
  Text.closePieces (Text.splitOn '~' (raw.drop 4))

/-- A text that spells an identifier, blanks around it being dropped. -/
structure IsIdentifierText (raw : List Char) : Prop where
  hasLead : "gts.".toList <+: raw
  isShort : raw.length ≤ 1024
  hasPiece : chainPieces raw ≠ []
  isSpelled : ∀ piece ∈ chainPieces raw, ∃ d, SpellsDesignation (Text.splitOn '.' piece.1) d
  isTyped : 2 ≤ (chainPieces raw).length ∨ (raw.drop 4).getLast? = some '~'

/-- A segment is a full one with the fields that a piece of a chain spells, and it is a type if the
piece is closed. -/
def SaysPiece (piece : List Char × Bool) (segment : Segment) : Prop :=
  (∃ d, segment.body = .full d ∧ SpellsDesignation (Text.splitOn '.' piece.1) d) ∧
    segment.isType = piece.2

/-! ## Reading a chain -/

/-- What is read of a piece, and of the pieces behind it. -/
theorem segmentsOf_cons_eq_ok_iff {relaxed : Bool} {position offset : Nat} {piece : List Char}
    {pieces : List (List Char)} {segments : List Segment} :
    segmentsOf relaxed position offset (piece :: pieces) = .ok segments ↔
      ∃ body rest, SegmentBody.ofPiece relaxed piece = .ok body ∧
        segmentsOf relaxed (position + 1) (offset + piece.length) pieces = .ok rest ∧
        segments = ⟨position, offset, String.ofList piece, piece.getLast? = some '~', body⟩ ::
          rest := by
  simp only [segmentsOf]
  cases SegmentBody.ofPiece relaxed piece with
  | error cause => simp
  | ok body =>
    cases segmentsOf relaxed (position + 1) (offset + piece.length) pieces with
    | error fault => simp
    | ok rest => simp [eq_comm]

/-- The segments that are read belong to the pieces one by one. -/
theorem forall₂_of_segmentsOf {relaxed : Bool} {position offset : Nat}
    {pieces : List (List Char)} {segments : List Segment}
    (h : segmentsOf relaxed position offset pieces = .ok segments) :
    List.Forall₂ (fun piece segment =>
      SegmentBody.ofPiece relaxed piece = .ok segment.body ∧
        segment.isType = decide (piece.getLast? = some '~')) pieces segments := by
  induction pieces generalizing position offset segments with
  | nil =>
    obtain rfl := Except.ok.inj h
    exact .nil
  | cons piece pieces ih =>
    obtain ⟨body, rest, hbody, hrest, rfl⟩ := segmentsOf_cons_eq_ok_iff.1 h
    exact .cons ⟨hbody, rfl⟩ (ih hrest)

/-- Pieces that can be read one by one can be read as a chain. -/
theorem exists_segmentsOf {relaxed : Bool} {position offset : Nat} {pieces : List (List Char)}
    (h : ∀ piece ∈ pieces, ∃ body, SegmentBody.ofPiece relaxed piece = .ok body) :
    ∃ segments, segmentsOf relaxed position offset pieces = .ok segments := by
  induction pieces generalizing position offset with
  | nil => exact ⟨[], rfl⟩
  | cons piece pieces ih =>
    obtain ⟨body, hbody⟩ := h piece List.mem_cons_self
    obtain ⟨rest, hrest⟩ := @ih (position + 1) (offset + piece.length)
      fun other hother => h other (List.mem_cons_of_mem _ hother)
    exact ⟨_, segmentsOf_cons_eq_ok_iff.2 ⟨body, rest, hbody, hrest, rfl⟩⟩

/-- A check that fails with a fault is passed exactly if its condition does not hold. -/
theorem ite_error_eq_ok_iff {ε α : Type} {condition : Prop} [Decidable condition] {fault : ε}
    {rest : Except ε α} {result : α} :
    (if condition then .error fault else rest) = .ok result ↔ ¬ condition ∧ rest = .ok result := by
  by_cases h : condition <;> simp [h]

/-- A text is read if it passes the checks on the whole and its pieces are read as segments. -/
theorem read_eq_ok_iff {relaxed : Bool} {given : String} {id : Identifier} :
    Identifier.read relaxed given = .ok id ↔
      Text.isLowerCase (Text.trimBlanks given.toList) = true ∧
        '-' ∉ Text.trimBlanks given.toList ∧
        "gts.".toList <+: Text.trimBlanks given.toList ∧
        (Text.trimBlanks given.toList).length ≤ 1024 ∧
        (Text.trimBlanks given.toList).drop 4 ≠ [] ∧
        ∃ segments,
          segmentsOf relaxed 1 4 (Text.cutAfter '~' ((Text.trimBlanks given.toList).drop 4)) =
            .ok segments ∧
          (relaxed = true ∨ segments.length ≠ 1 ∨ segments.any Segment.isType = true) ∧
          id = ⟨Text.trim given, segments⟩ := by
  have hlead : Identifier.lead.length = 4 := rfl
  simp only [Identifier.read, ite_error_eq_ok_iff, hlead, Identifier.lengthLimit]
  rw [Bool.not_eq_true', Bool.not_eq_false, List.contains_iff_mem, Bool.not_eq_true',
    Bool.not_eq_false, List.isPrefixOf_iff_prefix, Nat.not_lt, List.isEmpty_iff]
  refine and_congr_right fun _ => and_congr_right fun _ => and_congr_right fun _ =>
    and_congr_right fun _ => and_congr_right fun _ => ?_
  cases hread :
    segmentsOf relaxed 1 4 (Text.cutAfter '~' ((Text.trimBlanks given.toList).drop 4)) with
  | error fault => simp
  | ok segments =>
    simp only [ite_error_eq_ok_iff, Except.ok.injEq, exists_eq_left', Text.trim]
    refine and_congr ?_ eq_comm
    cases relaxed <;> cases segments.any Segment.isType <;> simp

/-! ## Characters of an identifier -/

/-- The characters that an identifier is written with. -/
def IsIdentifierChar (c : Char) : Prop :=
  c = '.' ∨ c = '~' ∨ c = '_' ∨ c = '\n' ∨ 'a' ≤ c ∧ c ≤ 'z' ∨ '0' ≤ c ∧ c ≤ '9'

/-- An ASCII character below the letters or behind the capitals is in lower case. -/
theorem isLowered_of_toNat {c : Char} (h : c.toNat < 65 ∨ 90 < c.toNat ∧ c.toNat < 128) :
    Text.isLowered c = true := by
  rw [Text.isLowered_ascii (by omega), Bool.not_eq_true', ← Bool.not_eq_true]
  intro hupper
  obtain ⟨hlow, hhigh⟩ := of_decide_eq_true hupper
  have h1 : 65 ≤ c.toNat := hlow
  have h2 : c.toNat ≤ 90 := hhigh
  omega

/-- Lower-casing leaves the characters of identifiers alone. -/
theorem IsIdentifierChar.isLowered {c : Char} (h : IsIdentifierChar c) :
    Text.isLowered c = true := by
  apply isLowered_of_toNat
  rcases h with rfl | rfl | rfl | rfl | ⟨hlow, hhigh⟩ | ⟨hlow, hhigh⟩
  · decide
  · decide
  · decide
  · decide
  · have h1 : 97 ≤ c.toNat := hlow
    have h2 : c.toNat ≤ 122 := hhigh
    omega
  · have h2 : c.toNat ≤ 57 := hhigh
    omega

/-- No character of an identifier is a hyphen. -/
theorem not_isIdentifierChar_hyphen : ¬ IsIdentifierChar '-' := by
  unfold IsIdentifierChar
  decide

/-- Nor is one a star. -/
theorem not_isIdentifierChar_star : ¬ IsIdentifierChar '*' := by
  unfold IsIdentifierChar
  decide

/-- An optional line break has characters of identifiers only. -/
theorem IsOptionalBreak.chars {cs : List Char} (h : IsOptionalBreak cs) :
    ∀ c ∈ cs, IsIdentifierChar c := by
  intro c hc
  rcases h with rfl | rfl
  · simp at hc
  · rw [List.mem_singleton] at hc
    simp [IsIdentifierChar, hc]

/-- A name has characters of identifiers only. -/
theorem IsNameToken.chars {token : List Char} (h : IsNameToken token) :
    ∀ c ∈ token, IsIdentifierChar c := by
  obtain ⟨_, lineBreak, rfl, ⟨first, rest, rfl, hfirst, hrest⟩, hbreak⟩ := h
  intro c hc
  rcases List.mem_append.1 hc with hc | hc
  · rcases List.mem_cons.1 hc with rfl | hc
    · unfold IsIdentifierChar
      tauto
    · have := hrest c hc
      unfold IsIdentifierChar
      tauto
  · exact hbreak.chars c hc

/-- A number has characters of identifiers only. -/
theorem SpellsNumber.chars {token : List Char} {n : Nat} (h : SpellsNumber token n) :
    ∀ c ∈ token, IsIdentifierChar c := by
  obtain ⟨digits, lineBreak, rfl, hdigits, hbreak, -⟩ := h
  intro c hc
  rcases List.mem_append.1 hc with hc | hc
  · rcases hdigits with rfl | ⟨first, rest, rfl, ⟨hone, hnine⟩, hrest⟩
    · rw [List.mem_singleton] at hc
      simp [IsIdentifierChar, hc]
    · rcases List.mem_cons.1 hc with rfl | hc
      · have hzero : '0' ≤ c := Char.le_trans (by decide) hone
        unfold IsIdentifierChar
        tauto
      · have := hrest c hc
        unfold IsIdentifierChar
        tauto
  · exact hbreak.chars c hc

/-- The tokens of a segment have characters of identifiers only. -/
theorem SpellsDesignation.chars {tokens : List (List Char)} {d : Designation}
    (h : SpellsDesignation tokens d) : ∀ token ∈ tokens, ∀ c ∈ token, IsIdentifierChar c := by
  have hlength := h.length
  obtain ⟨vendor, package, space, typeName, version, behind, rfl⟩ :=
    exists_eq_of_five_le (by omega : 5 ≤ tokens.length)
  obtain ⟨⟨h1, _⟩, ⟨h2, _⟩, ⟨h3, _⟩, ⟨h4, _⟩, ⟨digits, rfl, hmajor⟩, hminor⟩ := h
  have hmark : IsIdentifierChar 'v' := by
    unfold IsIdentifierChar
    decide
  have hbehind : ∀ token ∈ behind, ∀ c ∈ token, IsIdentifierChar c := by
    rcases behind with _ | ⟨token, _ | ⟨_, _⟩⟩
    · simp
    · obtain ⟨n, _, hspelled⟩ := hminor
      simpa using hspelled.chars
    · exact absurd hminor id
  simp only [List.forall_mem_cons]
  exact ⟨h1.chars, h2.chars, h3.chars, h4.chars, ⟨hmark, hmajor.chars⟩, hbehind⟩

/-- A piece that spells a segment has characters of identifiers only. -/
theorem chars_of_spelled {piece : List Char} {d : Designation}
    (h : SpellsDesignation (Text.splitOn '.' piece) d) : ∀ c ∈ piece, IsIdentifierChar c := by
  intro c hc
  rcases Text.mem_of_mem_splitOn '.' hc with hpoint | ⟨token, htoken, hc⟩
  · exact .inl hpoint
  · exact h.chars token htoken c hc

/-- A piece that spells a segment has no star. -/
theorem star_not_mem_of_spelled {piece : List Char} {d : Designation}
    (h : SpellsDesignation (Text.splitOn '.' piece) d) : '*' ∉ piece :=
  fun hmem => not_isIdentifierChar_star (chars_of_spelled h '*' hmem)

/-- A text behind the lead is put together from the lead, its pieces and their tildes. -/
theorem mem_of_mem_chain {raw : List Char} (hlead : "gts.".toList <+: raw) {c : Char}
    (hc : c ∈ raw) : c ∈ "gts.".toList ∨ c = '~' ∨ ∃ piece ∈ chainPieces raw, c ∈ piece.1 := by
  obtain ⟨chain, hraw⟩ := hlead
  have hchain : raw.drop 4 = chain := by rw [← hraw]; rfl
  rw [← hraw] at hc
  rcases List.mem_append.1 hc with hc | hc
  · exact .inl hc
  · right
    rw [← Text.flatten_cutAfter '~' chain, Text.cutAfter_eq_map_closePieces, List.mem_flatten] at hc
    obtain ⟨_, hmem, hc⟩ := hc
    obtain ⟨piece, hpiece, rfl⟩ := List.mem_map.1 hmem
    rw [← hchain] at hpiece
    unfold Text.closedText at hc
    split at hc
    · rcases List.mem_append.1 hc with hc | hc
      · exact .inr ⟨piece, hpiece, hc⟩
      · exact .inl (List.mem_singleton.1 hc)
    · exact .inr ⟨piece, hpiece, hc⟩

/-- The lead of an identifier has characters of identifiers only. -/
theorem isIdentifierChar_of_mem_lead {c : Char} (hc : c ∈ "gts.".toList) : IsIdentifierChar c := by
  have hlead : c = 'g' ∨ c = 't' ∨ c = 's' ∨ c = '.' := by simpa using hc
  unfold IsIdentifierChar
  rcases hlead with rfl | rfl | rfl | rfl <;> decide

/-- An identifier has characters of identifiers only. -/
theorem IsIdentifierText.chars {raw : List Char} (h : IsIdentifierText raw) :
    ∀ c ∈ raw, IsIdentifierChar c := by
  intro c hc
  rcases mem_of_mem_chain h.hasLead hc with hlead | htilde | ⟨piece, hpiece, hc⟩
  · exact isIdentifierChar_of_mem_lead hlead
  · exact .inr (.inl htilde)
  · obtain ⟨d, hspelled⟩ := h.isSpelled piece hpiece
    exact chars_of_spelled hspelled c hc

/-- An identifier is in lower case. -/
theorem IsIdentifierText.isLowerCase {raw : List Char} (h : IsIdentifierText raw) :
    Text.isLowerCase raw = true := by
  rw [Text.isLowerCase, List.all_eq_true]
  intro c hc
  exact (h.chars c hc).isLowered

/-- An identifier has no hyphen. -/
theorem IsIdentifierText.hyphen_not_mem {raw : List Char} (h : IsIdentifierText raw) :
    '-' ∉ raw := by
  intro hmem
  exact not_isIdentifierChar_hyphen (h.chars '-' hmem)

/-! ## Closed pieces -/

/-- The text of a piece without its tilde is the piece. -/
theorem withoutTilde_closedText {piece : List Char × Bool} (h : '~' ∉ piece.1) :
    withoutTilde (Text.closedText '~' piece) = piece.1 := by
  unfold withoutTilde Text.closedText
  split
  · rw [if_pos (by simp), List.dropLast_concat]
  · rw [if_neg]
    intro hlast
    exact h (List.mem_of_getLast? hlast)

/-- The text of a piece ends in a tilde exactly if the piece is closed. -/
theorem getLast?_closedText {piece : List Char × Bool} (h : '~' ∉ piece.1) :
    (Text.closedText '~' piece).getLast? = some '~' ↔ piece.2 = true := by
  unfold Text.closedText
  split
  next hclosed => simp [hclosed]
  next hopen =>
    simp only [hopen, Bool.false_eq_true, iff_false]
    intro hlast
    exact h (List.mem_of_getLast? hlast)

/-- No piece of a chain holds a tilde. -/
theorem tilde_not_mem_of_mem_chainPieces {raw : List Char} {piece : List Char × Bool}
    (h : piece ∈ chainPieces raw) : '~' ∉ piece.1 :=
  Text.not_mem_of_mem_splitOn (Text.fst_mem_of_mem_closePieces h)

/-- The chain behind the lead, cut behind every tilde. -/
theorem cutAfter_drop_lead (raw : List Char) :
    Text.cutAfter '~' (raw.drop 4) = (chainPieces raw).map (Text.closedText '~') :=
  Text.cutAfter_eq_map_closePieces '~' (raw.drop 4)

/-! ## The main statement -/

/-- A piece is read as a segment exactly if it spells one. -/
theorem ofPiece_closedText_eq_ok_iff {piece : List Char × Bool} {body : SegmentBody}
    (h : '~' ∉ piece.1) :
    SegmentBody.ofPiece false (Text.closedText '~' piece) = .ok body ↔
      ∃ d, body = .full d ∧ SpellsDesignation (Text.splitOn '.' piece.1) d := by
  rw [ofPiece_eq_ok_iff, withoutTilde_closedText h]

/-- The segments that are read of a chain say what its pieces spell. -/
theorem forall₂_saysPiece {raw : List Char} {segments : List Segment}
    (h : segmentsOf false 1 4 (Text.cutAfter '~' (raw.drop 4)) = .ok segments) :
    List.Forall₂ SaysPiece (chainPieces raw) segments := by
  have hread := forall₂_of_segmentsOf h
  rw [cutAfter_drop_lead, List.forall₂_map_left_iff] at hread
  refine List.forall₂_iff_zip.2 ⟨hread.length_eq, fun {piece segment} hmem => ?_⟩
  obtain ⟨hbody, htype⟩ := List.forall₂_zip hread hmem
  have htilde := tilde_not_mem_of_mem_chainPieces (List.of_mem_zip hmem).1
  refine ⟨(ofPiece_closedText_eq_ok_iff htilde).1 hbody, ?_⟩
  rw [htype, Bool.eq_iff_iff, decide_eq_true_eq]
  exact getLast?_closedText htilde

/-- A chain of one piece is closed exactly if it ends in a tilde. -/
theorem getLast?_drop_lead {raw : List Char} {piece : List Char × Bool}
    (h : chainPieces raw = [piece]) :
    (raw.drop 4).getLast? = some '~' ↔ piece.2 = true := by
  have hmem : piece ∈ chainPieces raw := by simp [h]
  have htilde : '~' ∉ piece.1 := tilde_not_mem_of_mem_chainPieces hmem
  have hchain : raw.drop 4 = Text.closedText '~' piece := by
    rw [← Text.flatten_cutAfter '~' (raw.drop 4), cutAfter_drop_lead, h]
    simp
  rw [hchain]
  exact getLast?_closedText htilde

/-- A chain that is read is typed: it has two segments, or ends in a tilde. -/
theorem isTyped_iff {raw : List Char} {segments : List Segment}
    (h : List.Forall₂ SaysPiece (chainPieces raw) segments) (hpiece : chainPieces raw ≠ []) :
    (segments.length ≠ 1 ∨ segments.any Segment.isType = true) ↔
      (2 ≤ (chainPieces raw).length ∨ (raw.drop 4).getLast? = some '~') := by
  have hlength := h.length_eq
  have hpos := List.length_pos_iff.2 hpiece
  by_cases hone : (chainPieces raw).length = 1
  · obtain ⟨piece, hsingle⟩ := List.length_eq_one_iff.1 hone
    rw [getLast?_drop_lead hsingle]
    rw [hsingle] at h hlength ⊢
    obtain ⟨segment, _, hspelt, hnil, rfl⟩ := List.forall₂_cons_left_iff.1 h
    obtain rfl := List.forall₂_nil_left_iff.1 hnil
    simp [hspelt.2]
  · constructor
    · intro _
      left
      omega
    · intro _
      left
      omega

/-- Pieces that have segments spell them. -/
theorem spelled_of_forall₂_saysPiece {pieces : List (List Char × Bool)} {segments : List Segment}
    (h : List.Forall₂ SaysPiece pieces segments) :
    ∀ piece ∈ pieces, ∃ d, SpellsDesignation (Text.splitOn '.' piece.1) d := by
  induction h with
  | nil => simp
  | cons hspelt _ ih =>
    obtain ⟨⟨d, _, hspells⟩, _⟩ := hspelt
    exact List.forall_mem_cons.2 ⟨⟨d, hspells⟩, ih⟩

/-- A chain with something in it has a piece. -/
theorem chainPieces_eq_nil_iff {raw : List Char} : chainPieces raw = [] ↔ raw.drop 4 = [] := by
  constructor
  · intro h
    rw [← Text.flatten_cutAfter '~' (raw.drop 4), cutAfter_drop_lead, h]
    rfl
  · intro h
    rw [chainPieces, h]
    rfl

/-- Exactly the texts of the language are read as identifiers, blanks around them being dropped.
What is read is the text without the blanks, with a full segment for each piece of the chain: its
names are the tokens as they are written, its versions the numbers that the tokens spell, and it is
a type if a tilde closes the piece.  For every other text there is a fault. -/
theorem parse_language (given : String) :
    ((∃ id, Identifier.parse given = .ok id) ↔
      IsIdentifierText (Text.trimBlanks given.toList)) ∧
    (∀ id, Identifier.parse given = .ok id →
      id.text = Text.trim given ∧
        List.Forall₂ SaysPiece (chainPieces (Text.trimBlanks given.toList)) id.segments) ∧
    (¬ IsIdentifierText (Text.trimBlanks given.toList) →
      ∃ fault, Identifier.parse given = .error fault) := by
  have hread : (∃ id, Identifier.parse given = .ok id) ↔
      IsIdentifierText (Text.trimBlanks given.toList) := by
    constructor
    · rintro ⟨id, h⟩
      obtain ⟨-, -, hlead, hshort, hchain, segments, hsegments, htyped, -⟩ := read_eq_ok_iff.1 h
      have hspelt := forall₂_saysPiece hsegments
      have hpiece := mt chainPieces_eq_nil_iff.1 hchain
      exact ⟨hlead, hshort, hpiece, spelled_of_forall₂_saysPiece hspelt,
        (isTyped_iff hspelt hpiece).1 (htyped.resolve_left (by simp))⟩
    · intro h
      obtain ⟨segments, hsegments⟩ : ∃ segments, segmentsOf false 1 4
          (Text.cutAfter '~' ((Text.trimBlanks given.toList).drop 4)) = .ok segments := by
        apply exists_segmentsOf
        rw [cutAfter_drop_lead, List.forall_mem_map]
        intro piece hpiece
        obtain ⟨d, hspelled⟩ := h.isSpelled piece hpiece
        exact ⟨.full d, (ofPiece_closedText_eq_ok_iff
          (tilde_not_mem_of_mem_chainPieces hpiece)).2 ⟨d, rfl, hspelled⟩⟩
      have htyped := (isTyped_iff (forall₂_saysPiece hsegments) h.hasPiece).2 h.isTyped
      exact ⟨_, read_eq_ok_iff.2 ⟨h.isLowerCase, h.hyphen_not_mem, h.hasLead, h.isShort,
        mt chainPieces_eq_nil_iff.2 h.hasPiece, segments, hsegments, .inr htyped, rfl⟩⟩
  refine ⟨hread, ?_, ?_⟩
  · intro id h
    obtain ⟨-, -, -, -, -, segments, hsegments, -, rfl⟩ := read_eq_ok_iff.1 h
    exact ⟨rfl, forall₂_saysPiece hsegments⟩
  · intro h
    cases hparse : Identifier.parse given with
    | error fault => exact ⟨fault, rfl⟩
    | ok id => exact absurd (hread.1 ⟨id, hparse⟩) h

end TypeRegistry
