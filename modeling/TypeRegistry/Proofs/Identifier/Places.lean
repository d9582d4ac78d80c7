import TypeRegistry.Proofs.Identifier.Front
import TypeRegistry.Proofs.Pattern.Language

/-!
# The places of segments

While the pieces of a chain are read one after the other, a position and an offset are carried
along.  They are the number of the pieces so far and the length of their texts behind the lead, so
a segment is found in the identifier at its offset, and a piece that is no segment is found in the
text that was given.  A piece ends at its tilde, if it is not the last one, and so the position
counts the tildes in front.

Main results:

- Definition `IsSegmentPiece`, theorem `exists_ofPiece_iff`: the pieces that are read as segments,
  where a star is allowed and where it is not.
- Theorem `place_of_segmentsOf`: the positions and offsets of the segments that are read.
- Theorem `exists_of_segmentsOf_error`: the piece at which reading fails.
- Structures `Identifier.IsLocated`, `IsLocatedFault`: how places go with texts.
- Theorem `Identifier.read_located`: segments and faults of segments are located.
-/

namespace TypeRegistry

/-! ## Pieces that are segments -/

/-- The tokens of a piece of a chain are those of a full segment; or a star is allowed, there is one
behind tokens that a full segment begins with, and there are at most six tokens, and at least five
unless the piece ends in a star. -/
def IsSegmentPiece (relaxed : Bool) (piece : List Char) : Prop :=
  (∃ d, SpellsDesignation (Text.splitOn '.' (withoutTilde piece)) d) ∨
    relaxed = true ∧ ∃ front behind rest d,
      Text.splitOn '.' (withoutTilde piece) = front ++ ['*'] :: behind ∧
        front.length + 1 + behind.length ≤ 6 ∧
        (5 ≤ front.length + 1 + behind.length ∨ (withoutTilde piece).getLast? = some '*') ∧
        SpellsDesignation (front ++ rest) d

/-- What stands behind a star is not read. -/
theorem ofTokens_behind_star {front : List (List Char)} (hlength : front.length ≤ 5)
    (behind : List (List Char)) :
    SegmentBody.ofTokens (front ++ ['*'] :: behind) = SegmentBody.ofTokens (front ++ [['*']]) := by
  rcases front with _ | ⟨a, _ | ⟨b, _ | ⟨c, _ | ⟨d, _ | ⟨e, _ | ⟨f, _⟩⟩⟩⟩⟩⟩
  case cons.cons.cons.cons.cons.cons =>
    simp only [List.length_cons] at hlength
    omega
  all_goals simp [SegmentBody.ofTokens, takeName, takeMajor]

/-- A piece is read as a segment exactly if it is one. -/
theorem exists_ofPiece_iff {relaxed : Bool} {piece : List Char} :
    (∃ body, SegmentBody.ofPiece relaxed piece = .ok body) ↔ IsSegmentPiece relaxed piece := by
  constructor
  · rintro ⟨body, h⟩
    rcases ofPiece_cases h with ⟨d, -, hspells⟩ | ⟨hrelaxed, -, -, -, hstar⟩
    · exact .inl ⟨d, hspells⟩
    · obtain ⟨front, behind, htokens, hfront⟩ := List.eq_append_cons_of_mem hstar
      simp only [SegmentBody.ofPiece, ite_error_eq_ok_iff, htokens] at h
      obtain ⟨hmany, -, hfew, hread⟩ := h
      simp only [List.length_append, List.length_cons] at hmany hfew
      rw [ofTokens_behind_star (by omega)] at hread
      obtain ⟨rest, d, hspells⟩ := exists_spellsDesignation_append (by omega) hfront hread
      refine .inr ⟨hrelaxed, front, behind, rest, d, htokens, by omega, ?_, hspells⟩
      by_cases hlast : (withoutTilde piece).getLast? = some '*'
      · exact .inr hlast
      · left
        simp [hlast] at hfew
        omega
  · rintro (⟨d, hspells⟩ | ⟨rfl, front, behind, rest, d, htokens, hmany, hfew, hspells⟩)
    · have hstrict := ofPiece_eq_ok_iff.2 ⟨d, rfl, hspells⟩
      cases relaxed with
      | false => exact ⟨_, hstrict⟩
      | true => exact ⟨_, ofPiece_relaxed hstrict⟩
    · refine ⟨.wildcard (d.front front.length), ?_⟩
      have hread := ofTokens_star (by omega) hspells
      rw [← ofTokens_behind_star (by omega) behind] at hread
      simp only [SegmentBody.ofPiece, ite_error_eq_ok_iff, htokens]
      refine ⟨?_, by simp, ?_, hread⟩
      · simp only [List.length_append, List.length_cons]
        omega
      · simp only [List.length_append, List.length_cons]
        rcases hfew with hfew | hlast
        · simp
          omega
        · simp [hlast]

/-! ## Pieces and tildes -/

/-- In front of a piece of a cut, each piece has one separator. -/
theorem Text.count_flatten_of_cutAfter {separator : Char} {cs : List Char}
    {front behind : List (List Char)} (h : cutAfter separator cs = front ++ behind)
    (hbehind : behind ≠ []) : front.flatten.count separator = front.length := by
  have hone : ∀ piece ∈ front, piece.count separator = 1 := by
    intro piece hpiece
    obtain ⟨before, after, rfl⟩ := List.append_of_mem hpiece
    rw [List.append_assoc, List.cons_append] at h
    obtain ⟨inner, hinner, rfl | ⟨-, hnil⟩⟩ := exists_inner_of_cutAfter_eq h
    · simp [List.count_eq_zero.2 hinner]
    · exact absurd (List.append_eq_nil_iff.1 hnil).2 hbehind
  rw [List.count_flatten, List.map_congr_left hone, List.map_const', List.sum_replicate_nat,
    Nat.mul_one]

/-! ## Places along a chain -/

section Chain

variable {relaxed : Bool} {position offset : Nat} {pieces : List (List Char)}

/-- A segment has its position behind those in front of it and its offset behind their texts. -/
theorem place_of_segmentsOf {front behind : List Segment} {segment : Segment}
    (h : segmentsOf relaxed position offset pieces = .ok (front ++ segment :: behind)) :
    segment.position = position + front.length ∧
      segment.offset = offset + (front.map (·.text.toList)).flatten.length := by
  induction front generalizing position offset pieces with
  | nil =>
    cases pieces with
    | nil => cases h
    | cons piece pieces =>
      obtain ⟨body, rest, -, -, heq⟩ := segmentsOf_cons_eq_ok_iff.1 h
      obtain ⟨rfl, -⟩ := List.cons.inj heq
      exact ⟨rfl, rfl⟩
  | cons first front ih =>
    cases pieces with
    | nil => cases h
    | cons piece pieces =>
      obtain ⟨body, rest, -, hrest, heq⟩ := segmentsOf_cons_eq_ok_iff.1 h
      obtain ⟨rfl, rfl⟩ := List.cons.inj heq
      obtain ⟨hposition, hoffset⟩ := ih hrest
      rw [hposition, hoffset]
      simp only [List.length_cons, List.map_cons, List.flatten_cons, List.length_append,
        String.toList_ofList]
      omega

/-- Reading fails at the first piece that is not read as a segment, and reports its place. -/
theorem exists_of_segmentsOf_error {fault : IdentifierFault}
    (h : segmentsOf relaxed position offset pieces = .error fault) :
    ∃ earlier piece later cause, pieces = earlier ++ piece :: later ∧
      (∀ other ∈ earlier, ∃ body, SegmentBody.ofPiece relaxed other = .ok body) ∧
      SegmentBody.ofPiece relaxed piece = .error cause ∧
      fault = .segment (position + earlier.length) (offset + earlier.flatten.length)
        (String.ofList piece) cause := by
  induction pieces generalizing position offset with
  | nil => cases h
  | cons piece pieces ih =>
    rw [segmentsOf] at h
    cases hbody : SegmentBody.ofPiece relaxed piece with
    | error cause =>
      rw [hbody] at h
      exact ⟨[], piece, pieces, cause, rfl, by simp, hbody, (Except.error.inj h).symm⟩
    | ok body =>
      simp only [hbody] at h
      cases hrest : segmentsOf relaxed (position + 1) (offset + piece.length) pieces with
      | ok rest =>
        rw [hrest] at h
        cases h
      | error other =>
        rw [hrest] at h
        obtain rfl := Except.error.inj h
        obtain ⟨earlier, faulty, later, cause, rfl, hearlier, hcause, rfl⟩ := ih hrest
        refine ⟨piece :: earlier, faulty, later, cause, rfl,
          List.forall_mem_cons.2 ⟨⟨body, hbody⟩, hearlier⟩, hcause, ?_⟩
        simp only [List.length_cons, List.flatten_cons, List.length_append]
        congr 1 <;> omega

end Chain

/-! ## Located segments -/

namespace Identifier

/-- The segments of an identifier are where their positions and offsets say, and they are types as
far as their tildes say. -/
structure IsLocated (id : Identifier) : Prop where
  /-- The text is the lead and the texts of the segments. -/
  text : id.text.toList = lead.toList ++ (id.segments.map (·.text.toList)).flatten
  nonempty : id.segments ≠ []
  /-- Positions count from one, and at its offset a segment stands in the text. -/
  place (front : List Segment) (segment : Segment) (behind : List Segment) :
    id.segments = front ++ segment :: behind →
      segment.position = front.length + 1 ∧
        segment.offset = lead.length + (front.map (·.text.toList)).flatten.length ∧
        (id.text.toList.drop segment.offset).take segment.text.toList.length =
          segment.text.toList
  /-- A segment is a type if its last character is a tilde; no other character is one. -/
  closed (segment : Segment) : segment ∈ id.segments →
    (segment.isType = true ↔ segment.text.toList.getLast? = some '~') ∧
      '~' ∉ segment.text.toList.dropLast
  /-- Only the last segment may be no type, and the identifier is a type if that is one. -/
  typed (front : List Segment) (segment : Segment) (behind : List Segment) :
    id.segments = front ++ segment :: behind →
      (behind ≠ [] → segment.isType = true) ∧ (behind = [] → id.isType = segment.isType)

/-- The segments of an identifier or a pattern that was read are located. -/
theorem isLocated_of_read {relaxed : Bool} {given : String} {id : Identifier}
    (h : read relaxed given = .ok id) : id.IsLocated := by
  obtain ⟨chain, hchain⟩ := exists_isChainOf_of_read h
  obtain ⟨-, chain', htext, hne, hsegments⟩ := exists_chain_of_read h
  refine ⟨hchain.toList_text, ?_, ?_, ?_, ?_⟩
  · intro hnil
    have hpieces := texts_of_segmentsOf hsegments
    rw [hnil, List.map_nil] at hpieces
    rw [← Text.flatten_cutAfter '~' chain', ← hpieces] at hne
    exact hne rfl
  · intro front segment behind hsplit
    rw [hsplit] at hsegments
    obtain ⟨hposition, hoffset⟩ := place_of_segmentsOf hsegments
    refine ⟨hposition.trans (Nat.add_comm _ _), hoffset, ?_⟩
    have hstart : segment.offset =
        (lead.toList ++ (front.map (·.text.toList)).flatten).length := by
      rw [hoffset, List.length_append]
      rfl
    rw [hchain.toList_text, hsplit, List.map_append, List.flatten_append, List.map_cons,
      List.flatten_cons, ← List.append_assoc, List.drop_left' hstart.symm, List.take_left]
  · intro segment hsegment
    refine ⟨hchain.closed segment hsegment, ?_⟩
    obtain ⟨front, behind, hsplit⟩ := List.append_of_mem hsegment
    obtain ⟨inner, hinner, ⟨-, hclosed⟩ | ⟨-, hopen, -⟩⟩ := hchain.exists_inner hsplit
    · rwa [hclosed, List.dropLast_concat]
    · rw [hopen]
      exact fun hmem => hinner ((List.dropLast_sublist inner).subset hmem)
  · intro front segment behind hsplit
    have htype := hchain.isType_segment_iff hsplit
    refine ⟨fun hbehind => htype.2 (.inl hbehind), ?_⟩
    rintro rfl
    rw [Bool.eq_iff_iff, htype]
    simp

/-! ## Located faults -/

/-- A piece at which the reading of a text fails stands at the offset that is reported, the position
counts the tildes in front of it, and it is the first of the pieces that is no segment. -/
structure IsLocatedFault (relaxed : Bool) (raw : List Char) (position offset : Nat)
    (piece : List Char) : Prop where
  stands : (raw.drop offset).take piece.length = piece
  counted : position = (raw.take offset).count '~' + 1
  /-- The pieces are those of the text behind the lead, cut behind each tilde. -/
  first : ∃ earlier later, Text.cutAfter '~' (raw.drop lead.length) = earlier ++ piece :: later ∧
    offset = lead.length + earlier.flatten.length ∧
    (∀ other ∈ earlier, IsSegmentPiece relaxed other) ∧ ¬ IsSegmentPiece relaxed piece

/-- A check that fails with another fault than the one reported is passed. -/
theorem of_ite_error_eq_error {ε α : Type} {condition : Prop} [Decidable condition]
    {fault reported : ε} {rest : Except ε α} (hne : fault ≠ reported)
    (h : (if condition then .error fault else rest) = .error reported) :
    ¬ condition ∧ rest = .error reported := by
  split at h
  · exact absurd (Except.error.inj h) hne
  next hcondition => exact ⟨hcondition, h⟩

/-- Where a piece is reported, the text begins as identifiers do, and the fault is one in reading
the segments. -/
theorem segmentsOf_of_read_error {relaxed : Bool} {given piece : String} {position offset : Nat}
    {cause : SegmentFault}
    (h : read relaxed given = .error (.segment position offset piece cause)) :
    "gts.".toList <+: Text.trimBlanks given.toList ∧
      segmentsOf relaxed 1 4 (Text.cutAfter '~' ((Text.trimBlanks given.toList).drop 4)) =
        .error (.segment position offset piece cause) := by
  rw [read] at h
  obtain ⟨-, h⟩ := of_ite_error_eq_error (by simp) h
  obtain ⟨-, h⟩ := of_ite_error_eq_error (by simp) h
  obtain ⟨hlead, h⟩ := of_ite_error_eq_error (by simp) h
  obtain ⟨-, h⟩ := of_ite_error_eq_error (by simp) h
  obtain ⟨-, h⟩ := of_ite_error_eq_error (by simp) h
  rw [Bool.not_eq_true', Bool.not_eq_false, List.isPrefixOf_iff_prefix] at hlead
  refine ⟨hlead, ?_⟩
  split at h
  next fault hfault =>
    obtain rfl := Except.error.inj h
    exact hfault
  next =>
    split at h
    · cases Except.error.inj h
    · cases h

/-- A fault in a segment is located in the text that was given, blanks around it being dropped. -/
theorem isLocatedFault_of_read {relaxed : Bool} {given piece : String} {position offset : Nat}
    {cause : SegmentFault}
    (h : read relaxed given = .error (.segment position offset piece cause)) :
    IsLocatedFault relaxed (Text.trim given).toList position offset piece.toList := by
  obtain ⟨⟨chain, hraw⟩, hfault⟩ := segmentsOf_of_read_error h
  rw [Text.toList_trim, ← hraw]
  rw [← hraw] at hfault
  obtain ⟨earlier, faulty, later, cause', hpieces, hearlier, hcause, heq⟩ :=
    exists_of_segmentsOf_error hfault
  obtain ⟨rfl, rfl, rfl, rfl⟩ := IdentifierFault.segment.inj heq
  have hchain : chain = earlier.flatten ++ (faulty ++ later.flatten) := by
    have hcut : Text.cutAfter '~' chain = earlier ++ faulty :: later := hpieces
    rw [← Text.flatten_cutAfter '~' chain, hcut, List.flatten_append, List.flatten_cons]
  have hstart : ("gts.".toList ++ earlier.flatten).length = 4 + earlier.flatten.length := by
    rw [List.length_append]
    rfl
  have hfaulty : (String.ofList faulty).toList = faulty := String.toList_ofList
  rw [hfaulty]
  refine ⟨?_, ?_, earlier, later, hpieces, rfl, ?_, ?_⟩
  · rw [hchain, ← List.append_assoc, List.drop_left' hstart, List.take_left]
  · have hcount := Text.count_flatten_of_cutAfter hpieces (List.cons_ne_nil faulty later)
    have hlead : "gts.".toList.count '~' = 0 := by decide
    rw [hchain, ← List.append_assoc, List.take_left' hstart, List.count_append, hcount, hlead]
    omega
  · exact fun other hother => exists_ofPiece_iff.1 (hearlier other hother)
  · rw [← exists_ofPiece_iff, hcause]
    simp

/-- Whatever text is read, as an identifier or as a pattern: if it is accepted, its segments are
located, and if a segment is at fault, the fault is. -/
theorem read_located (relaxed : Bool) (given : String) :
    (∀ id, read relaxed given = .ok id → id.IsLocated) ∧
      ∀ position offset piece cause,
        read relaxed given = .error (.segment position offset piece cause) →
          IsLocatedFault relaxed (Text.trim given).toList position offset piece.toList :=
  ⟨fun _ h => isLocated_of_read h, fun _ _ _ _ h => isLocatedFault_of_read h⟩

/-- A chain of a type and an instance. -/
def chainedId : Identifier where
  text := "gts.a.b.c.d.v1~x.y.z.w.v2.3"
  segments := [⟨1, 4, "a.b.c.d.v1~", true, .full ⟨"a", "b", "c", "d", 1, none⟩⟩,
    ⟨2, 15, "x.y.z.w.v2.3", false, .full ⟨"x", "y", "z", "w", 2, some 3⟩⟩]

/-- The chain is located where a blank stands before it, and so is, in a pattern, a segment that
stops too early behind a type. -/
theorem read_located_chained :
    (read false " gts.a.b.c.d.v1~x.y.z.w.v2.3" = .ok chainedId ∧ chainedId.IsLocated) ∧
      read true "gts.a.b.c.d.v1~x.*.z~ " = .error (.segment 2 15 "x.*.z~" .tooFewTokens) ∧
      IsLocatedFault true (Text.trim "gts.a.b.c.d.v1~x.*.z~ ").toList 2 15 "x.*.z~".toList := by
  have hread : read false " gts.a.b.c.d.v1~x.y.z.w.v2.3" = .ok chainedId := by decide +kernel
  have hfault : read true "gts.a.b.c.d.v1~x.*.z~ " =
      .error (.segment 2 15 "x.*.z~" .tooFewTokens) := by decide +kernel
  exact ⟨⟨hread, (read_located false _).1 _ hread⟩, hfault, (read_located true _).2 _ _ _ _ hfault⟩

end Identifier

end TypeRegistry
