import Mathlib.Data.List.DropRight
import Mathlib.Data.List.TakeDrop
import TypeRegistry.Pattern
import TypeRegistry.Proofs.Identifier.Language

/-!
# What is read of a pattern

Where a star is allowed, a segment is read in full unless one of its tokens is a star, and then it
is cut short before its minor version.  The star of a pattern is its last character, so only the
last segment can be cut short, and no tilde closes it.

Main results:

- Theorem `ofPiece_cases`: a piece is read as a full segment that it spells, or as one cut short.
- Theorem `parse_isCutAtEnd`: of the segments of a pattern only the last may be cut short.
- Theorem `parse_hasWildcard_iff`: a pattern has a star exactly if a segment is cut short.
- Theorem `parse_of_identifier`: an identifier is read as a pattern with the same segments.
-/

namespace TypeRegistry

/-! ## Blanks -/

namespace Text

/-- Dropping from the end leaves the beginning as it is, unless nothing is left. -/
theorem dropWhile_rdropWhile {drop : Char → Bool} {cs : List Char}
    (h : cs.dropWhile drop = cs) :
    (cs.rdropWhile drop).dropWhile drop = cs.rdropWhile drop := by
  cases hleft : cs.rdropWhile drop with
  | nil => rfl
  | cons first rest =>
    obtain ⟨tail, rfl⟩ : first :: rest <+: cs := hleft ▸ List.rdropWhile_prefix drop cs
    have hfirst : ¬ drop first = true := by
      rw [List.cons_append, List.dropWhile_eq_self_iff] at h
      simpa using h
    rw [List.dropWhile_cons_of_neg hfirst]

/-- A text without blanks at its ends has none to lose. -/
theorem trimBlanks_trimBlanks (cs : List Char) : trimBlanks (trimBlanks cs) = trimBlanks cs := by
  have hends : ∀ text : List Char,
      trimBlanks text = (text.dropWhile isBlank).rdropWhile isBlank := fun _ => rfl
  rw [hends, hends, dropWhile_rdropWhile (List.dropWhile_idempotent isBlank cs),
    List.rdropWhile_idempotent]

@[simp]
theorem trim_trim (s : String) : trim (trim s) = trim s := by
  rw [trim, toList_trim, trimBlanks_trimBlanks, trim]

end Text

/-! ## Tokens -/

section Tokens

variable {written : OpenDesignation} {tokens : List (List Char)} {body : SegmentBody}

/-- At the front of the tokens stands a star that ends the segment, or a name. -/
theorem takeName_cases {next : String → List (List Char) → Except SegmentFault SegmentBody}
    (h : takeName written tokens next = .ok body) :
    (∃ rest, tokens = ['*'] :: rest ∧ body = .wildcard written) ∨
      ∃ token rest, tokens = token :: rest ∧ IsNameToken token ∧
        next (String.ofList token) rest = .ok body := by
  cases tokens with
  | nil => simp [takeName] at h
  | cons token rest =>
    by_cases hstar : token = ['*']
    · left
      simp only [takeName, if_pos hstar, Except.ok.injEq] at h
      exact ⟨rest, by rw [hstar], h.symm⟩
    · right
      obtain ⟨hname, hnext⟩ := (takeName_eq_ok_iff hstar).1 h
      exact ⟨token, rest, rfl, hname, hnext⟩

/-- At the front of the tokens stands a star that ends the segment, or a major version. -/
theorem takeMajor_cases {next : Nat → List (List Char) → Except SegmentFault SegmentBody}
    (h : takeMajor written tokens next = .ok body) :
    (∃ rest, tokens = ['*'] :: rest ∧ body = .wildcard written) ∨
      ∃ digits major rest, tokens = ('v' :: digits) :: rest ∧ SpellsNumber digits major ∧
        next major rest = .ok body := by
  cases tokens with
  | nil => simp [takeMajor] at h
  | cons token rest =>
    by_cases hstar : token = ['*']
    · left
      simp only [takeMajor, if_pos hstar, Except.ok.injEq] at h
      exact ⟨rest, by rw [hstar], h.symm⟩
    · right
      obtain ⟨digits, major, rfl, hmajor, hnext⟩ := (takeMajor_eq_ok_iff hstar).1 h
      exact ⟨digits, major, rest, rfl, hmajor, hnext⟩

/-- At most six tokens are read as the full segment that they spell, or one of them is a star and
they are read as a segment cut short before its minor version. -/
theorem ofTokens_cases (hlength : tokens.length ≤ 6) (h : SegmentBody.ofTokens tokens = .ok body) :
    (∃ d, body = .full d ∧ SpellsDesignation tokens d) ∨
      ∃ w, body = .wildcard w ∧ w.minor = none ∧ ['*'] ∈ tokens := by
  unfold SegmentBody.ofTokens at h
  obtain ⟨_, rfl, rfl⟩ | ⟨vendor, _, rfl, hvendor, h⟩ := takeName_cases h
  · exact .inr ⟨_, rfl, rfl, by simp⟩
  obtain ⟨_, rfl, rfl⟩ | ⟨package, _, rfl, hpackage, h⟩ := takeName_cases h
  · exact .inr ⟨_, rfl, rfl, by simp⟩
  obtain ⟨_, rfl, rfl⟩ | ⟨space, _, rfl, hspace, h⟩ := takeName_cases h
  · exact .inr ⟨_, rfl, rfl, by simp⟩
  obtain ⟨_, rfl, rfl⟩ | ⟨typeName, _, rfl, htypeName, h⟩ := takeName_cases h
  · exact .inr ⟨_, rfl, rfl, by simp⟩
  obtain ⟨_, rfl, rfl⟩ | ⟨digits, major, behind, rfl, hmajor, h⟩ := takeMajor_cases h
  · exact .inr ⟨_, rfl, rfl, by simp⟩
  rcases behind with _ | ⟨token, _ | ⟨_, _⟩⟩
  · left
    obtain rfl := Except.ok.inj h
    exact ⟨_, rfl, ⟨hvendor, rfl⟩, ⟨hpackage, rfl⟩, ⟨hspace, rfl⟩, ⟨htypeName, rfl⟩,
      ⟨digits, rfl, hmajor⟩, rfl⟩
  · by_cases hstar : token = ['*']
    · right
      simp only [if_pos hstar, Except.ok.injEq] at h
      exact ⟨_, h.symm, rfl, by simp [hstar]⟩
    · left
      simp only [if_neg hstar] at h
      split at h
      next minor hminor =>
        obtain rfl := Except.ok.inj h
        exact ⟨_, rfl, ⟨hvendor, rfl⟩, ⟨hpackage, rfl⟩, ⟨hspace, rfl⟩, ⟨htypeName, rfl⟩,
          ⟨digits, rfl, hmajor⟩, minor, rfl, versionNumber?_eq_some_iff.1 hminor⟩
      next => simp at h
  · simp only [List.length_cons] at hlength
    omega

end Tokens

/-! ## Pieces -/

section Pieces

variable {relaxed : Bool} {piece : List Char} {body : SegmentBody}

/-- A piece of a chain is read as the full segment that it spells, or a star is allowed and it is
read as a segment cut short before its minor version. -/
theorem ofPiece_cases (h : SegmentBody.ofPiece relaxed piece = .ok body) :
    (∃ d, body = .full d ∧ SpellsDesignation (Text.splitOn '.' (withoutTilde piece)) d) ∨
      relaxed = true ∧ ∃ w, body = .wildcard w ∧ w.minor = none ∧
        ['*'] ∈ Text.splitOn '.' (withoutTilde piece) := by
  simp only [SegmentBody.ofPiece, ite_error_eq_ok_iff] at h
  obtain ⟨hlength, hallowed, -, htokens⟩ := h
  rcases ofTokens_cases (by omega) htokens with hfull | ⟨w, rfl, hminor, hstar⟩
  · exact .inl hfull
  · right
    refine ⟨?_, w, rfl, hminor, hstar⟩
    simpa [hstar] using hallowed

/-- Where a star is allowed, pieces without one are read as where it is not. -/
theorem ofPiece_relaxed (h : SegmentBody.ofPiece false piece = .ok body) :
    SegmentBody.ofPiece true piece = .ok body := by
  obtain ⟨d, rfl, hspells⟩ := ofPiece_eq_ok_iff.1 h
  have hlength := hspells.length
  simp only [SegmentBody.ofPiece, ite_error_eq_ok_iff] at h ⊢
  refine ⟨h.1, by simp, ?_, h.2.2.2⟩
  simp only [Bool.and_eq_true, decide_eq_true_eq, not_and]
  omega

/-- The characters of a piece but for its tilde are those of its inner text. -/
theorem mem_withoutTilde {c : Char} (hc : c ≠ '~') : c ∈ withoutTilde piece ↔ c ∈ piece := by
  unfold withoutTilde
  split
  next htilde =>
    obtain ⟨front, rfl⟩ := List.getLast?_eq_some_iff.1 htilde
    simp [hc]
  next => rfl

/-- A text splits into pieces of its own characters. -/
theorem mem_of_mem_token {separator c : Char} {token cs : List Char}
    (htoken : token ∈ Text.splitOn separator cs) (hc : c ∈ token) : c ∈ cs := by
  induction cs generalizing token with
  | nil =>
    rw [Text.splitOn, List.mem_singleton] at htoken
    simp [htoken] at hc
  | cons d rest ih =>
    simp only [Text.splitOn] at htoken
    split at htoken
    · rcases List.mem_cons.1 htoken with rfl | htoken
      · simp at hc
      · exact List.mem_cons_of_mem _ (ih htoken hc)
    · obtain ⟨first, others, hrest⟩ :=
        List.exists_cons_of_ne_nil (Text.splitOn_ne_nil separator rest)
      simp only [hrest] at htoken ih
      rcases List.mem_cons.1 htoken with rfl | htoken
      · rcases List.mem_cons.1 hc with rfl | hc
        · exact List.mem_cons_self
        · exact List.mem_cons_of_mem _ (ih List.mem_cons_self hc)
      · exact List.mem_cons_of_mem _ (ih (List.mem_cons_of_mem _ htoken) hc)

/-- A piece with a star in it, and no other, is cut short. -/
theorem isWildcard_iff_star_mem (h : SegmentBody.ofPiece relaxed piece = .ok body) :
    body.isWildcard = true ↔ '*' ∈ piece := by
  rw [← mem_withoutTilde (by decide : '*' ≠ '~')]
  rcases ofPiece_cases h with ⟨d, rfl, hspells⟩ | ⟨-, w, rfl, -, hstar⟩
  · simp only [SegmentBody.isWildcard, Bool.false_eq_true, false_iff]
    exact star_not_mem_of_spelled hspells
  · simp only [SegmentBody.isWildcard, true_iff]
    exact mem_of_mem_token hstar List.mem_cons_self

end Pieces

/-! ## The segments of a pattern -/

/-- Only the last of some segments may be cut short, and then it is no type and writes no minor
version. -/
def IsCutAtEnd : List Segment → Prop
  | [] => True
  | [last] => last.isWildcard = true → last.isType = false ∧ last.written.minor = none
  | segment :: next :: rest => segment.isWildcard = false ∧ IsCutAtEnd (next :: rest)

/-- Segments in front of others that may be cut short are not. -/
theorem isCutAtEnd_cons {segment : Segment} {rest : List Segment} (h : rest ≠ []) :
    IsCutAtEnd (segment :: rest) ↔ segment.isWildcard = false ∧ IsCutAtEnd rest := by
  cases rest with
  | nil => exact absurd rfl h
  | cons next rest => rfl

/-- How a segment that is read goes with its piece. -/
def ReadsAs (relaxed : Bool) (piece : List Char) (segment : Segment) : Prop :=
  SegmentBody.ofPiece relaxed piece = .ok segment.body ∧
    segment.isType = decide (piece.getLast? = some '~')

/-- Pieces of which only the last character of all may be a star are read as segments of which only
the last may be cut short. -/
theorem isCutAtEnd_of_forall₂ {pieces : List (List Char)} {segments : List Segment}
    (h : List.Forall₂ (ReadsAs true) pieces segments) (hempty : ∀ piece ∈ pieces, piece ≠ [])
    (hstar : '*' ∉ pieces.flatten.dropLast) : IsCutAtEnd segments := by
  induction h with
  | nil => trivial
  | @cons piece segment pieces segments hread hrest ih =>
    obtain ⟨hbody, htype⟩ := hread
    have hcut := isWildcard_iff_star_mem hbody
    cases hrest with
    | nil =>
      intro hwildcard
      obtain ⟨front, hpiece⟩ : ∃ front, piece = front ++ ['*'] := by
        obtain ⟨front, last, hpiece⟩ :=
          List.eq_nil_or_concat piece |>.resolve_left (hempty piece List.mem_cons_self)
        subst hpiece
        have hmem := hcut.1 hwildcard
        simp only [List.flatten_cons, List.flatten_nil, List.append_nil, List.concat_eq_append,
          List.dropLast_concat] at hstar
        rw [List.concat_eq_append, List.mem_append] at hmem
        refine ⟨front, ?_⟩
        simpa [hstar, eq_comm] using hmem
      refine ⟨by simp [htype, hpiece], ?_⟩
      rcases ofPiece_cases hbody with ⟨d, hfull, -⟩ | ⟨-, w, hopen, hminor, -⟩
      · simp [Segment.isWildcard, hfull, SegmentBody.isWildcard] at hwildcard
      · simp [Segment.written, hopen, SegmentBody.written, hminor]
    | @cons next following nexts followings hnext hnexts =>
      have hbehind : (next :: nexts).flatten ≠ [] := by
        have hnonempty := hempty next (by simp)
        simp [hnonempty]
      rw [List.flatten_cons, List.dropLast_append_of_ne_nil hbehind, List.mem_append, not_or]
        at hstar
      rw [isCutAtEnd_cons (by simp)]
      refine ⟨?_, ih (fun other hother => hempty other (List.mem_cons_of_mem _ hother)) hstar.2⟩
      rw [Bool.eq_false_iff]
      exact fun hwildcard => hstar.1 (hcut.1 hwildcard)

/-- A segment is cut short exactly if there is a star in the pieces. -/
theorem exists_isWildcard_iff {relaxed : Bool} {pieces : List (List Char)}
    {segments : List Segment} (h : List.Forall₂ (ReadsAs relaxed) pieces segments) :
    (∃ segment ∈ segments, segment.isWildcard = true) ↔ '*' ∈ pieces.flatten := by
  induction h with
  | nil => simp
  | @cons piece segment pieces segments hread _ ih =>
    rw [List.flatten_cons, List.mem_append, ← isWildcard_iff_star_mem hread.1, ← ih]
    simp [Segment.isWildcard]

/-- Where no star is allowed, there is none in the pieces that are read. -/
theorem star_not_mem_of_forall₂ {pieces : List (List Char)} {segments : List Segment}
    (h : List.Forall₂ (ReadsAs false) pieces segments) : '*' ∉ pieces.flatten := by
  induction h with
  | nil => simp
  | @cons piece segment pieces segments hread _ ih =>
    obtain ⟨d, hfull, -⟩ := ofPiece_eq_ok_iff.1 hread.1
    have hpiece : '*' ∉ piece := by
      rw [← isWildcard_iff_star_mem hread.1, hfull]
      simp [SegmentBody.isWildcard]
    simpa [hpiece] using ih

/-- Where a star is allowed, chains without one are read as where it is not. -/
theorem segmentsOf_relaxed {position offset : Nat} {pieces : List (List Char)}
    {segments : List Segment} (h : segmentsOf false position offset pieces = .ok segments) :
    segmentsOf true position offset pieces = .ok segments := by
  induction pieces generalizing position offset segments with
  | nil => exact h
  | cons piece pieces ih =>
    obtain ⟨body, rest, hbody, hrest, rfl⟩ := segmentsOf_cons_eq_ok_iff.1 h
    exact segmentsOf_cons_eq_ok_iff.2 ⟨body, rest, ofPiece_relaxed hbody, ih hrest, rfl⟩

/-- There is no star in the lead of an identifier. -/
theorem star_mem_iff_of_lead {raw : List Char} (h : "gts.".toList <+: raw) :
    '*' ∈ raw ↔ '*' ∈ raw.drop 4 := by
  obtain ⟨chain, rfl⟩ := h
  simp

namespace Pattern

/-- A text whose only star ends it has no star before. -/
theorem star_not_mem_dropLast {cs : List Char} (hcount : cs.count '*' ≤ 1)
    (hlast : cs.count '*' = 1 → cs.getLast? = some '*') : '*' ∉ cs.dropLast := by
  intro hmem
  have hsome : 0 < cs.dropLast.count '*' := List.count_pos_iff.2 hmem
  have hle : cs.dropLast.count '*' ≤ cs.count '*' := (List.dropLast_sublist cs).count_le '*'
  obtain ⟨front, rfl⟩ := List.getLast?_eq_some_iff.1 (hlast (by omega))
  simp only [List.dropLast_concat, List.count_append, List.count_singleton_self] at hsome hcount
  omega

/-- A text that ends in a star for a token or a segment ends in a star. -/
theorem getLast?_of_endsInWildcard {s : String} (h : endsInWildcard s = true) :
    s.toList.getLast? = some '*' := by
  simp only [endsInWildcard, Text.endsWith, Bool.or_eq_true, List.isSuffixOf_iff_suffix] at h
  rcases h with ⟨front, hfront⟩ | ⟨front, hfront⟩
  · rw [← hfront]
    simp
  · rw [← hfront]
    simp

/-- What a text has to pass to be read as a pattern. -/
theorem parse_eq_ok_iff {given : String} {p : Pattern} :
    parse given = .ok p ↔
      Text.startsWith Identifier.lead (Text.trim given) = true ∧
        Text.count '*' (Text.trim given) ≤ 1 ∧
        (Text.count '*' (Text.trim given) = 1 → endsInWildcard (Text.trim given) = true) ∧
        ∃ id, Identifier.parsePattern (Text.trim given) = .ok id ∧
          p = ⟨Text.trim given, id.segments⟩ := by
  simp only [parse, ite_error_eq_ok_iff, Bool.not_eq_true', Bool.not_eq_false, Nat.not_lt,
    Bool.and_eq_true, decide_eq_true_eq, not_and]
  refine and_congr_right fun _ => and_congr_right fun _ => and_congr_right fun _ => ?_
  cases Identifier.parsePattern (Text.trim given) with
  | error fault => simp
  | ok id => simp [eq_comm]

/-- The segments of a pattern are read of the pieces of its text, no star being inside. -/
theorem forall₂_of_parse {given : String} {p : Pattern} (h : parse given = .ok p) :
    p.text = Text.trim given ∧
      List.Forall₂ (ReadsAs true) (Text.cutAfter '~' (p.text.toList.drop 4)) p.segments ∧
      '*' ∉ (p.text.toList.drop 4).dropLast := by
  obtain ⟨-, hcount, hend, id, hread, rfl⟩ := parse_eq_ok_iff.1 h
  obtain ⟨-, -, -, -, -, segments, hsegments, -, rfl⟩ := read_eq_ok_iff.1 hread
  rw [Text.toList_trim, Text.trimBlanks_trimBlanks] at hsegments
  refine ⟨rfl, ?_, ?_⟩
  · rw [Text.toList_trim]
    exact forall₂_of_segmentsOf hsegments
  · have hstar := star_not_mem_dropLast hcount fun hone => getLast?_of_endsInWildcard (hend hone)
    rw [List.dropLast_drop_eq_drop_dropLast]
    exact fun hmem => hstar (List.mem_of_mem_drop hmem)

/-- Of the segments of a pattern only the last may be cut short, and then it is no type and writes
no minor version. -/
theorem parse_isCutAtEnd {given : String} {p : Pattern} (h : parse given = .ok p) :
    IsCutAtEnd p.segments := by
  obtain ⟨-, hread, hstar⟩ := forall₂_of_parse h
  exact isCutAtEnd_of_forall₂ hread (fun _ => Text.ne_nil_of_mem_cutAfter)
    (by rwa [Text.flatten_cutAfter])

/-- A pattern has a star exactly if one of its segments is cut short. -/
theorem parse_hasWildcard_iff {given : String} {p : Pattern} (h : parse given = .ok p) :
    p.hasWildcard = true ↔ ∃ segment ∈ p.segments, segment.isWildcard = true := by
  obtain ⟨htext, hread, -⟩ := forall₂_of_parse h
  obtain ⟨hlead, -⟩ := parse_eq_ok_iff.1 h
  rw [Text.startsWith, ← htext, List.isPrefixOf_iff_prefix] at hlead
  rw [exists_isWildcard_iff hread, Text.flatten_cutAfter, ← star_mem_iff_of_lead hlead, hasWildcard,
    List.contains_iff_mem]

/-- An identifier is read as a pattern with the same text and the same segments. -/
theorem parse_of_identifier {given : String} {id : Identifier}
    (h : Identifier.parse given = .ok id) : parse given = .ok ⟨id.text, id.segments⟩ := by
  obtain ⟨hlower, hhyphen, hlead, hshort, hchain, segments, hsegments, -, rfl⟩ :=
    read_eq_ok_iff.1 h
  have hstar : '*' ∉ (Text.trim given).toList := by
    rw [Text.toList_trim, star_mem_iff_of_lead hlead]
    simpa using star_not_mem_of_forall₂ (forall₂_of_segmentsOf hsegments)
  have hcount : Text.count '*' (Text.trim given) = 0 := List.count_eq_zero.2 hstar
  refine parse_eq_ok_iff.2 ⟨?_, by omega, by omega, ⟨Text.trim given, segments⟩, ?_, rfl⟩
  · rw [Text.startsWith, List.isPrefixOf_iff_prefix, Text.toList_trim]
    exact hlead
  · refine read_eq_ok_iff.2 ?_
    rw [Text.toList_trim, Text.trimBlanks_trimBlanks, Text.trim_trim]
    exact ⟨hlower, hhyphen, hlead, hshort, hchain, segments, segmentsOf_relaxed hsegments, .inl rfl,
      rfl⟩

end Pattern

end TypeRegistry
