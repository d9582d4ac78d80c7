import Mathlib.Tactic.IntervalCases
import TypeRegistry.Proofs.Pattern.Reading

/-!
# The language of patterns

A pattern is spelled like an identifier, save that its last piece may be left open and end in a star
in the place of a token.  The tokens in front of the star are those that a full segment begins with.
Reading accepts exactly this language.  Two tests that know nothing of each other take part: one on
the star of the text as a whole, and the reading of the pieces, where a piece that ends in a star
may have any number of tokens up to six.  A star behind other characters of its token is refused by
either, for it stands for no token, and its token is neither a name nor a version.

Main results:

- Definition `SpellsCut`: the tokens of a segment that is cut short by a star.
- Theorem `ofTokens_star_iff`: tokens with a star behind them are read as a segment cut short
  exactly if a full segment begins with them.
- Theorem `ofPiece_star_iff`: the same for an open piece of a chain that ends in a star.
- Theorem `IsPatternText.endsInWildcard`: a star in a text of the language stands for a token or a
  segment at its end.
- Theorem `Pattern.says_of_parse`: the segments of a pattern say what its pieces spell.
- Theorem `pattern_language`: the language of patterns, and what is read from each of them.
-/

namespace TypeRegistry

/-! ## Segments cut short -/

/-- The fields that a segment writes in its first tokens, the minor version not being among them. -/
def Designation.front (d : Designation) (count : Nat) : OpenDesignation where
  vendor := if 0 < count then some d.vendor else none
  package := if 1 < count then some d.package else none
  space := if 2 < count then some d.space else none
  typeName := if 3 < count then some d.typeName else none
  major := if 4 < count then some d.major else none
  minor := none

/-- The tokens of a segment cut short: at most five tokens that a full segment begins with, and a
star behind them.  The segment writes the fields of the tokens in front of the star. -/
def SpellsCut (tokens : List (List Char)) (written : OpenDesignation) : Prop :=
  ∃ front behind d, tokens = front ++ [['*']] ∧ front.length ≤ 5 ∧
    SpellsDesignation (front ++ behind) d ∧ written = d.front front.length

section Places

variable {written : OpenDesignation} {body : SegmentBody} {front : List (List Char)}

theorem takeName_star (next : String → List (List Char) → Except SegmentFault SegmentBody) :
    takeName written [['*']] next = .ok (.wildcard written) := by
  simp [takeName]

theorem takeMajor_star (next : Nat → List (List Char) → Except SegmentFault SegmentBody) :
    takeMajor written [['*']] next = .ok (.wildcard written) := by
  simp [takeMajor]

theorem takeName_of_isNameToken {token : List Char} (h : IsNameToken token)
    (rest : List (List Char))
    (next : String → List (List Char) → Except SegmentFault SegmentBody) :
    takeName written (token :: rest) next = next (String.ofList token) rest := by
  have hstar : token ≠ ['*'] := fun heq => not_isNameToken_star (heq ▸ h)
  simp [takeName, hstar, isName_iff.2 h]

theorem takeMajor_of_spellsNumber {digits : List Char} {major : Nat}
    (h : SpellsNumber digits major) (rest : List (List Char))
    (next : Nat → List (List Char) → Except SegmentFault SegmentBody) :
    takeMajor written (('v' :: digits) :: rest) next = next major rest := by
  simp [takeMajor, versionNumber?_eq_some_iff.2 h]

/-- Where tokens with a star behind them are read, there is none left or the first is a name. -/
theorem takeName_front {next : String → List (List Char) → Except SegmentFault SegmentBody}
    (hstar : ['*'] ∉ front) (h : takeName written (front ++ [['*']]) next = .ok body) :
    front = [] ∨ ∃ token rest, front = token :: rest ∧ IsNameToken token ∧ ['*'] ∉ rest ∧
      next (String.ofList token) (rest ++ [['*']]) = .ok body := by
  cases front with
  | nil => exact .inl rfl
  | cons token rest =>
    rw [List.mem_cons, not_or] at hstar
    obtain ⟨hname, hnext⟩ := (takeName_eq_ok_iff (Ne.symm hstar.1)).1 h
    exact .inr ⟨token, rest, rfl, hname, hstar.2, hnext⟩

/-- Where tokens with a star behind them are read, there is none left or the first is a major
version. -/
theorem takeMajor_front {next : Nat → List (List Char) → Except SegmentFault SegmentBody}
    (hstar : ['*'] ∉ front) (h : takeMajor written (front ++ [['*']]) next = .ok body) :
    front = [] ∨ ∃ digits major rest, front = ('v' :: digits) :: rest ∧
      SpellsNumber digits major := by
  cases front with
  | nil => exact .inl rfl
  | cons token rest =>
    rw [List.mem_cons, not_or] at hstar
    obtain ⟨digits, major, rfl, hmajor, -⟩ := (takeMajor_eq_ok_iff (Ne.symm hstar.1)).1 h
    exact .inr ⟨digits, major, rest, rfl, hmajor⟩

/-- Four names and a major version spell a segment. -/
theorem spellsDesignation_of_tokens {vendor package space typeName digits : List Char}
    {major : Nat} (hvendor : IsNameToken vendor) (hpackage : IsNameToken package)
    (hspace : IsNameToken space) (htypeName : IsNameToken typeName)
    (hmajor : SpellsNumber digits major) :
    SpellsDesignation [vendor, package, space, typeName, 'v' :: digits]
      ⟨.ofList vendor, .ofList package, .ofList space, .ofList typeName, major, none⟩ :=
  ⟨⟨hvendor, rfl⟩, ⟨hpackage, rfl⟩, ⟨hspace, rfl⟩, ⟨htypeName, rfl⟩, ⟨digits, rfl, hmajor⟩, rfl⟩

/-- Tokens that are read in front of a star are the beginning of a full segment, for names and a
version can be put behind them. -/
theorem exists_spellsDesignation_append (hlength : front.length ≤ 5) (hstar : ['*'] ∉ front)
    (h : SegmentBody.ofTokens (front ++ [['*']]) = .ok body) :
    ∃ behind d, SpellsDesignation (front ++ behind) d := by
  have hname : IsNameToken ['_'] := isName_iff.1 (by decide)
  have hzero : SpellsNumber ['0'] 0 := versionNumber?_eq_some_iff.1 (by decide)
  unfold SegmentBody.ofTokens at h
  obtain rfl | ⟨vendor, front, rfl, hvendor, hstar, h⟩ := takeName_front hstar h
  · exact ⟨_, _, spellsDesignation_of_tokens hname hname hname hname hzero⟩
  obtain rfl | ⟨package, front, rfl, hpackage, hstar, h⟩ := takeName_front hstar h
  · exact ⟨_, _, spellsDesignation_of_tokens hvendor hname hname hname hzero⟩
  obtain rfl | ⟨space, front, rfl, hspace, hstar, h⟩ := takeName_front hstar h
  · exact ⟨_, _, spellsDesignation_of_tokens hvendor hpackage hname hname hzero⟩
  obtain rfl | ⟨typeName, front, rfl, htypeName, hstar, h⟩ := takeName_front hstar h
  · exact ⟨_, _, spellsDesignation_of_tokens hvendor hpackage hspace hname hzero⟩
  obtain rfl | ⟨digits, major, front, rfl, hmajor⟩ := takeMajor_front hstar h
  · exact ⟨_, _, spellsDesignation_of_tokens hvendor hpackage hspace htypeName hzero⟩
  obtain rfl : front = [] := by
    rw [← List.length_eq_zero_iff]
    simp only [List.length_cons] at hlength
    omega
  exact ⟨_, _, spellsDesignation_of_tokens hvendor hpackage hspace htypeName hmajor⟩

/-- The beginning of a full segment is read in front of a star, as what it writes. -/
theorem ofTokens_star {behind : List (List Char)} {d : Designation} (hlength : front.length ≤ 5)
    (h : SpellsDesignation (front ++ behind) d) :
    SegmentBody.ofTokens (front ++ [['*']]) = .ok (.wildcard (d.front front.length)) := by
  have hfive : 5 ≤ (front ++ behind).length := by
    have := h.length
    omega
  obtain ⟨vendor, package, space, typeName, version, rest, htokens⟩ := exists_eq_of_five_le hfive
  have hfront : front = (front ++ behind).take front.length := List.take_left.symm
  rw [htokens] at h hfront
  obtain ⟨⟨h1, e1⟩, ⟨h2, e2⟩, ⟨h3, e3⟩, ⟨h4, e4⟩, ⟨digits, rfl, hmajor⟩, -⟩ := h
  generalize front.length = count at hlength hfront
  subst hfront
  interval_cases count <;>
    simp [SegmentBody.ofTokens, Designation.front, takeName_star, takeMajor_star,
      takeName_of_isNameToken, takeMajor_of_spellsNumber hmajor, h1, h2, h3, h4, e1, e2, e3, e4]

/-- At most five tokens with a star behind them are read as a segment exactly if a full segment
begins with them, and then as one cut short that writes their fields. -/
theorem ofTokens_star_iff (hlength : front.length ≤ 5) (hstar : ['*'] ∉ front) :
    SegmentBody.ofTokens (front ++ [['*']]) = .ok body ↔
      ∃ w, body = .wildcard w ∧ SpellsCut (front ++ [['*']]) w := by
  constructor
  · intro h
    obtain ⟨behind, d, hspells⟩ := exists_spellsDesignation_append hlength hstar h
    have hbody := h.symm.trans (ofTokens_star hlength hspells)
    exact ⟨_, Except.ok.inj hbody, front, behind, d, rfl, hlength, hspells, rfl⟩
  · rintro ⟨_, rfl, front', behind, d, htokens, hlength', hspells, rfl⟩
    obtain rfl := List.append_cancel_right htokens
    exact ofTokens_star hlength' hspells

end Places

/-! ## Pieces -/

section Pieces

variable {body : SegmentBody} {text : List Char} {piece : List Char × Bool} {segment : Segment}

/-- The tokens of a text without a star have none. -/
theorem star_not_mem_splitOn (h : '*' ∉ text) : ['*'] ∉ Text.splitOn '.' text :=
  fun hmem => h (mem_of_mem_token hmem List.mem_cons_self)

/-- A piece without a star is read exactly if it spells a full segment. -/
theorem ofPiece_plain_iff (htilde : '~' ∉ piece.1) (hstar : '*' ∉ piece.1) :
    SegmentBody.ofPiece true (Text.closedText '~' piece) = .ok body ↔
      ∃ d, body = .full d ∧ SpellsDesignation (Text.splitOn '.' piece.1) d := by
  constructor
  · intro h
    rcases ofPiece_cases h with hfull | ⟨-, _, -, -, hmem⟩
    · rwa [withoutTilde_closedText htilde] at hfull
    · rw [withoutTilde_closedText htilde] at hmem
      exact absurd hmem (star_not_mem_splitOn hstar)
  · intro h
    exact ofPiece_relaxed ((ofPiece_closedText_eq_ok_iff htilde).2 h)

/-- Of tokens that end in a star, those that spell a segment cut short are at most five and the star
alone. -/
theorem SpellsCut.of_concat {front : List (List Char)} {last : List Char} {w : OpenDesignation}
    (h : SpellsCut (front ++ [last ++ ['*']]) w) : last = [] ∧ front.length ≤ 5 := by
  obtain ⟨_, -, -, htokens, hlength, -⟩ := h
  obtain ⟨rfl, hlast⟩ := List.append_inj' htokens rfl
  exact ⟨by simpa using hlast, hlength⟩

/-- Tokens of which the last has a star behind other characters are not read. -/
theorem ofTokens_ne_ok {front : List (List Char)} {last : List Char} (hlength : front.length ≤ 5)
    (hfront : ['*'] ∉ front) (hlast : last ≠ []) :
    SegmentBody.ofTokens (front ++ [last ++ ['*']]) ≠ .ok body := by
  intro h
  have hsix : (front ++ [last ++ ['*']]).length ≤ 6 := by
    rw [List.length_append, List.length_singleton]
    omega
  rcases ofTokens_cases hsix h with ⟨d, -, hspells⟩ | ⟨-, -, -, hstar⟩
  · have hmem : last ++ ['*'] ∈ front ++ [last ++ ['*']] := by simp
    exact not_isIdentifierChar_star (hspells.chars _ hmem '*' (by simp))
  · rcases List.mem_append.1 hstar with hmem | hmem
    · exact hfront hmem
    · exact hlast (by simpa using hmem)

/-- An open piece that ends in its only star is read exactly if it spells a segment cut short. -/
theorem ofPiece_star_iff (hstar : '*' ∉ text) :
    SegmentBody.ofPiece true (text ++ ['*']) = .ok body ↔
      ∃ w, body = .wildcard w ∧ SpellsCut (Text.splitOn '.' (text ++ ['*'])) w := by
  obtain ⟨front, last, htext, hconcat⟩ :=
    Text.exists_splitOn_concat (by decide : '*' ≠ '.') text
  have hfront : ['*'] ∉ front := by
    have hnone := star_not_mem_splitOn hstar
    rw [htext] at hnone
    exact fun hmem => hnone (List.mem_append_left _ hmem)
  -- A star at the end lifts the demand for five tokens.
  have hread : SegmentBody.ofPiece true (text ++ ['*']) = .ok body ↔
      front.length ≤ 5 ∧ SegmentBody.ofTokens (front ++ [last ++ ['*']]) = .ok body := by
    have hopen : withoutTilde (text ++ ['*']) = text ++ ['*'] := by simp [withoutTilde]
    simp only [SegmentBody.ofPiece, ite_error_eq_ok_iff, hopen, hconcat]
    simp [Nat.lt_succ_iff]
  rw [hread, hconcat]
  constructor
  · rintro ⟨hlength, h⟩
    obtain rfl : last = [] := by
      by_contra hlast
      exact ofTokens_ne_ok hlength hfront hlast h
    exact (ofTokens_star_iff hlength hfront).1 h
  · rintro ⟨w, rfl, hcut⟩
    obtain ⟨rfl, hlength⟩ := hcut.of_concat
    exact ⟨hlength, (ofTokens_star_iff hlength hfront).2 ⟨w, rfl, hcut⟩⟩

end Pieces

/-! ## The language -/

/-- A text that spells a pattern, blanks around it being dropped: every piece of its chain spells a
full segment, but the last may instead be left open and spell a segment cut short. -/
structure IsPatternText (raw : List Char) : Prop where
  hasLead : "gts.".toList <+: raw
  isShort : raw.length ≤ 1024
  isSpelled : ∃ front last, chainPieces raw = front ++ [last] ∧
    (∀ piece ∈ front, ∃ d, SpellsDesignation (Text.splitOn '.' piece.1) d) ∧
    ((∃ d, SpellsDesignation (Text.splitOn '.' last.1) d) ∨
      last.2 = false ∧ ∃ w, SpellsCut (Text.splitOn '.' last.1) w)

/-- A segment is one cut short with the fields that an open piece of a chain spells in front of its
star, and it is no type. -/
def SaysCut (piece : List Char × Bool) (segment : Segment) : Prop :=
  (∃ w, segment.body = .wildcard w ∧ SpellsCut (Text.splitOn '.' piece.1) w) ∧
    piece.2 = false ∧ segment.isType = false

/-! ## Reading a chain -/

section Reading

variable {piece last : List Char × Bool} {segment : Segment}

/-- A segment that is read of a piece without a star says what the piece spells. -/
theorem saysPiece_of_readsAs (htilde : '~' ∉ piece.1) (hstar : '*' ∉ piece.1)
    (h : ReadsAs true (Text.closedText '~' piece) segment) : SaysPiece piece segment := by
  refine ⟨(ofPiece_plain_iff htilde hstar).1 h.1, ?_⟩
  rw [h.2, Bool.eq_iff_iff, decide_eq_true_eq]
  exact getLast?_closedText htilde

/-- A segment that is read of a piece with no star but at its end says what the piece spells, in
full or cut short. -/
theorem saysPiece_or_saysCut (htilde : '~' ∉ last.1)
    (hstar : '*' ∉ (Text.closedText '~' last).dropLast)
    (h : ReadsAs true (Text.closedText '~' last) segment) :
    SaysPiece last segment ∨ SaysCut last segment := by
  by_cases hmem : '*' ∈ last.1
  case neg => exact .inl (saysPiece_of_readsAs htilde hmem h)
  case pos =>
    right
    -- The star is the last character of all, so no tilde closes the piece.
    have hopen : last.2 = false := by
      by_contra hclosed
      rw [Text.closedText, if_pos (by simpa using hclosed), List.dropLast_concat] at hstar
      exact hstar hmem
    have htext : Text.closedText '~' last = last.1 := by simp [Text.closedText, hopen]
    rw [htext] at hstar h
    obtain ⟨text, hlast⟩ : ∃ text, last.1 = text ++ ['*'] := by
      rcases List.eq_nil_or_concat last.1 with hnil | ⟨text, c, hconcat⟩
      · simp [hnil] at hmem
      · rw [List.concat_eq_append] at hconcat
        rw [hconcat, List.dropLast_concat] at hstar
        rw [hconcat, List.mem_append] at hmem
        have hc := List.mem_singleton.1 (hmem.resolve_left hstar)
        exact ⟨text, by rw [hconcat, hc]⟩
    rw [hlast, List.dropLast_concat] at hstar
    obtain ⟨hbody, htype⟩ := h
    rw [hlast] at hbody
    refine ⟨?_, hopen, ?_⟩
    · rw [hlast]
      exact (ofPiece_star_iff hstar).1 hbody
    · rw [htype, hlast]
      simp

/-- The segments that are read of the pieces of a chain say what these spell, the last piece in full
or cut short. -/
theorem say_of_readsAs {front : List (List Char × Bool)} {segments : List Segment}
    (h : List.Forall₂ (ReadsAs true) ((front ++ [last]).map (Text.closedText '~')) segments)
    (htilde : ∀ piece ∈ front ++ [last], '~' ∉ piece.1) (hfront : ∀ piece ∈ front, '*' ∉ piece.1)
    (hlast : '*' ∉ (Text.closedText '~' last).dropLast) :
    ∃ full segment, segments = full ++ [segment] ∧ List.Forall₂ SaysPiece front full ∧
      (SaysPiece last segment ∨ SaysCut last segment) := by
  induction front generalizing segments with
  | nil =>
    obtain ⟨segment, rest, hread, hrest, rfl⟩ := List.forall₂_cons_left_iff.1 h
    obtain rfl := List.forall₂_nil_left_iff.1 hrest
    exact ⟨[], segment, rfl, .nil, saysPiece_or_saysCut (htilde last (by simp)) hlast hread⟩
  | cons piece front ih =>
    obtain ⟨segment, rest, hread, hrest, rfl⟩ := List.forall₂_cons_left_iff.1 h
    obtain ⟨full, final, rfl, hfull, hsays⟩ := ih hrest
      (fun other hother => htilde other (List.mem_cons_of_mem _ hother))
      (fun other hother => hfront other (List.mem_cons_of_mem _ hother))
    have hpiece := saysPiece_of_readsAs (htilde piece List.mem_cons_self)
      (hfront piece List.mem_cons_self) hread
    exact ⟨segment :: full, final, rfl, .cons hpiece hfull, hsays⟩

/-- A chain with no star but at its end has none in its pieces in front. -/
theorem star_not_mem_pieces {raw : List Char} {front : List (List Char × Bool)}
    (hpieces : chainPieces raw = front ++ [last]) (hstar : '*' ∉ (raw.drop 4).dropLast) :
    (∀ piece ∈ front, '*' ∉ piece.1) ∧ '*' ∉ (Text.closedText '~' last).dropLast := by
  have hmem : Text.closedText '~' last ∈ Text.cutAfter '~' (raw.drop 4) := by
    rw [cutAfter_drop_lead, hpieces]
    simp
  have hlast : Text.closedText '~' last ≠ [] := Text.ne_nil_of_mem_cutAfter hmem
  rw [← Text.flatten_cutAfter '~' (raw.drop 4), cutAfter_drop_lead, hpieces, List.map_append,
    List.flatten_append] at hstar
  simp only [List.map_cons, List.map_nil, List.flatten_cons, List.flatten_nil, List.append_nil]
    at hstar
  rw [List.dropLast_append_of_ne_nil hlast, List.mem_append, not_or] at hstar
  refine ⟨fun piece hpiece hmem => hstar.1 ?_, hstar.2⟩
  refine List.mem_flatten.2 ⟨_, List.mem_map_of_mem hpiece, ?_⟩
  unfold Text.closedText
  split
  · exact List.mem_append_left _ hmem
  · exact hmem

end Reading

/-! ## Texts of chains -/

section Chains

variable {raw : List Char} {front : List (List Char × Bool)} {last : List Char × Bool}

/-- A chain of pieces without a star has none. -/
theorem star_not_mem_of_pieces (hlead : "gts.".toList <+: raw)
    (h : ∀ piece ∈ chainPieces raw, '*' ∉ piece.1) : '*' ∉ raw := by
  intro hmem
  rcases mem_of_mem_chain hlead hmem with hstar | htilde | ⟨piece, hpiece, hstar⟩
  · exact absurd hstar (by decide)
  · cases htilde
  · exact h piece hpiece hstar

/-- Pieces without a star have none in their texts. -/
theorem star_not_mem_closedTexts (h : ∀ piece ∈ front, '*' ∉ piece.1) :
    '*' ∉ (front.map (Text.closedText '~')).flatten := by
  intro hmem
  obtain ⟨_, htext, hstar⟩ := List.mem_flatten.1 hmem
  obtain ⟨piece, hpiece, rfl⟩ := List.mem_map.1 htext
  unfold Text.closedText at hstar
  split at hstar
  · exact h piece hpiece (by simpa using hstar)
  · exact h piece hpiece hstar

/-- A chain whose last piece is left open is its lead, the texts of the pieces in front and the last
piece. -/
theorem eq_append_of_open (hlead : "gts.".toList <+: raw)
    (hpieces : chainPieces raw = front ++ [last]) (hopen : last.2 = false) :
    raw = "gts.".toList ++ (front.map (Text.closedText '~')).flatten ++ last.1 := by
  obtain ⟨chain, rfl⟩ := hlead
  have hcuts : Text.cutAfter '~' chain = (front ++ [last]).map (Text.closedText '~') :=
    hpieces ▸ cutAfter_drop_lead ("gts.".toList ++ chain)
  have hchain : chain = (front.map (Text.closedText '~')).flatten ++ last.1 := by
    rw [← Text.flatten_cutAfter '~' chain, hcuts]
    simp [Text.closedText, hopen]
  rw [List.append_assoc, ← hchain]

/-- In front of the last piece of a chain stands the point of the lead or a tilde. -/
theorem exists_concat_of_front (hpieces : chainPieces raw = front ++ [last]) :
    ∃ before c, "gts.".toList ++ (front.map (Text.closedText '~')).flatten = before ++ [c] ∧
      (c = '.' ∨ c = '~') := by
  rcases List.eq_nil_or_concat front with rfl | ⟨others, piece, rfl⟩
  · exact ⟨"gts".toList, '.', rfl, .inl rfl⟩
  · have hclosed := Text.closed_of_closePieces_eq hpieces piece (by simp)
    exact ⟨"gts.".toList ++ (others.map (Text.closedText '~')).flatten ++ piece.1, '~',
      by simp [Text.closedText, hclosed], .inr rfl⟩

end Chains

/-! ## What the language passes -/

/-- The characters of tokens that spell a segment cut short are those of identifiers and the
star. -/
theorem SpellsCut.chars {tokens : List (List Char)} {w : OpenDesignation}
    (h : SpellsCut tokens w) : ∀ token ∈ tokens, ∀ c ∈ token, IsIdentifierChar c ∨ c = '*' := by
  obtain ⟨front, behind, d, rfl, -, hspells, -⟩ := h
  intro token htoken c hc
  rcases List.mem_append.1 htoken with hfront | hstar
  · exact .inl (hspells.chars token (List.mem_append_left _ hfront) c hc)
  · rw [List.mem_singleton.1 hstar] at hc
    exact .inr (List.mem_singleton.1 hc)

/-- A piece that spells a segment cut short ends in its only star, in front of which stands a point
or nothing. -/
theorem SpellsCut.piece {piece : List Char} {w : OpenDesignation}
    (h : SpellsCut (Text.splitOn '.' piece) w) :
    ∃ text, piece = text ++ ['*'] ∧ '*' ∉ text ∧
      (text = [] ∨ ∃ before, text = before ++ ['.']) := by
  obtain ⟨front, behind, d, htokens, -, hspells, -⟩ := h
  have hfront : '*' ∉ front.flatten := by
    intro hmem
    obtain ⟨token, htoken, hc⟩ := List.mem_flatten.1 hmem
    exact not_isIdentifierChar_star (hspells.chars token (List.mem_append_left _ htoken) '*' hc)
  obtain ⟨text, hpiece, hbefore⟩ : ∃ text, piece = text ++ ['*'] ∧
      (text = [] ∨ ∃ before, text = before ++ ['.']) := by
    rcases Text.eq_or_eq_append_of_splitOn htokens with hstar | ⟨before, hpiece⟩
    · exact ⟨[], hstar, .inl rfl⟩
    · exact ⟨before ++ ['.'], by simp [hpiece], .inr ⟨before, rfl⟩⟩
  refine ⟨text, hpiece, ?_, hbefore⟩
  -- The tokens hold every star of the piece, and there is one behind those in front.
  have hcount := congrArg (List.count '*') (Text.flatten_splitOn '.' piece)
  rw [htokens, hpiece, List.flatten_append, List.filter_append, List.count_append,
    List.count_append, List.count_eq_zero.2 hfront, List.count_filter (by decide)] at hcount
  apply List.count_eq_zero.1
  simpa using hcount

namespace IsPatternText

variable {raw : List Char}

/-- The characters of a pattern are those of identifiers and the star. -/
theorem chars (h : IsPatternText raw) : ∀ c ∈ raw, IsIdentifierChar c ∨ c = '*' := by
  intro c hc
  obtain ⟨front, last, hpieces, hfront, hlast⟩ := h.isSpelled
  rcases mem_of_mem_chain h.hasLead hc with hlead | htilde | ⟨piece, hpiece, hc⟩
  · exact .inl (isIdentifierChar_of_mem_lead hlead)
  · exact .inl (.inr (.inl htilde))
  · rw [hpieces, List.mem_append, List.mem_singleton] at hpiece
    rcases hpiece with hpiece | rfl
    · obtain ⟨d, hspells⟩ := hfront piece hpiece
      exact .inl (chars_of_spelled hspells c hc)
    · rcases hlast with ⟨d, hspells⟩ | ⟨-, w, hcut⟩
      · exact .inl (chars_of_spelled hspells c hc)
      · rcases Text.mem_of_mem_splitOn '.' hc with hpoint | ⟨token, htoken, hc⟩
        · exact .inl (.inl hpoint)
        · exact hcut.chars token htoken c hc

/-- A pattern is in lower case. -/
theorem isLowerCase (h : IsPatternText raw) : Text.isLowerCase raw = true := by
  rw [Text.isLowerCase, List.all_eq_true]
  intro c hc
  rcases h.chars c hc with hchar | rfl
  · exact hchar.isLowered
  · exact isLowered_of_toNat (by decide)

/-- A pattern has no hyphen. -/
theorem hyphen_not_mem (h : IsPatternText raw) : '-' ∉ raw := by
  intro hmem
  rcases h.chars '-' hmem with hchar | hstar
  · exact not_isIdentifierChar_hyphen hchar
  · cases hstar

/-- A pattern has no star, or ends in its only one, in front of which stands a point or a tilde. -/
theorem star_cases (h : IsPatternText raw) :
    '*' ∉ raw ∨ ∃ text c, raw = text ++ [c, '*'] ∧ '*' ∉ text ++ [c] ∧ (c = '.' ∨ c = '~') := by
  obtain ⟨front, last, hpieces, hfront, hlast⟩ := h.isSpelled
  have hplain : ∀ piece ∈ front, '*' ∉ piece.1 := by
    intro piece hpiece
    obtain ⟨d, hspells⟩ := hfront piece hpiece
    exact star_not_mem_of_spelled hspells
  rcases hlast with ⟨d, hspells⟩ | ⟨hopen, w, hcut⟩
  case inl =>
    left
    apply star_not_mem_of_pieces h.hasLead
    intro piece hpiece
    rw [hpieces, List.mem_append, List.mem_singleton] at hpiece
    rcases hpiece with hpiece | rfl
    · exact hplain piece hpiece
    · exact star_not_mem_of_spelled hspells
  case inr =>
    right
    obtain ⟨text, hpiece, hstar, htext⟩ := hcut.piece
    obtain ⟨before, c, hbefore, hc⟩ := exists_concat_of_front hpieces
    have hfront : '*' ∉ before ++ [c] := by
      rw [← hbefore, List.mem_append, not_or]
      exact ⟨by decide, star_not_mem_closedTexts hplain⟩
    have hraw : raw = before ++ [c] ++ (text ++ ['*']) := by
      rw [← hbefore, ← hpiece]
      exact eq_append_of_open h.hasLead hpieces hopen
    -- The star follows a point of its piece, or it is the piece and follows those in front.
    rcases htext with rfl | ⟨inner, rfl⟩
    · exact ⟨before, c, by simp [hraw], hfront, hc⟩
    · refine ⟨before ++ [c] ++ inner, '.', by simp [hraw], ?_, .inl rfl⟩
      rw [List.append_assoc, List.mem_append, not_or]
      exact ⟨hfront, hstar⟩

/-- A pattern has at most one star. -/
theorem count_le (h : IsPatternText raw) : raw.count '*' ≤ 1 := by
  rcases h.star_cases with hstar | ⟨text, c, rfl, hstar, -⟩
  · rw [List.count_eq_zero.2 hstar]
    exact Nat.zero_le 1
  · rw [show text ++ [c, '*'] = (text ++ [c]) ++ ['*'] by simp, List.count_append,
      List.count_eq_zero.2 hstar, List.count_singleton_self]

/-- A star in a pattern stands at its end for a token or a segment. -/
theorem endsInWildcard (h : IsPatternText raw) (hstar : '*' ∈ raw) :
    Pattern.endsInWildcard (String.ofList raw) = true := by
  rcases h.star_cases with hnone | ⟨text, c, rfl, -, hc⟩
  · exact absurd hstar hnone
  · simp only [Pattern.endsInWildcard, Text.endsWith, String.toList_ofList, Bool.or_eq_true,
      List.isSuffixOf_iff_suffix]
    rcases hc with rfl | rfl
    · exact .inl ⟨text, rfl⟩
    · exact .inr ⟨text, rfl⟩

/-- The pieces of a pattern are read. -/
theorem exists_ofPiece (h : IsPatternText raw) : ∀ piece ∈ Text.cutAfter '~' (raw.drop 4),
    ∃ body, SegmentBody.ofPiece true piece = .ok body := by
  obtain ⟨front, last, hpieces, hfront, hlast⟩ := h.isSpelled
  have htilde : ∀ piece ∈ front ++ [last], '~' ∉ piece.1 := fun piece hpiece =>
    tilde_not_mem_of_mem_chainPieces (hpieces ▸ hpiece)
  have hfull : ∀ piece : List Char × Bool, '~' ∉ piece.1 →
      (∃ d, SpellsDesignation (Text.splitOn '.' piece.1) d) →
        ∃ body, SegmentBody.ofPiece true (Text.closedText '~' piece) = .ok body :=
    fun piece hnone ⟨d, hspells⟩ =>
      ⟨.full d, ofPiece_relaxed ((ofPiece_closedText_eq_ok_iff hnone).2 ⟨d, rfl, hspells⟩)⟩
  rw [cutAfter_drop_lead, hpieces, List.forall_mem_map]
  intro piece hpiece
  rcases List.mem_append.1 hpiece with hmem | hmem
  · exact hfull piece (htilde piece hpiece) (hfront piece hmem)
  · obtain rfl := List.mem_singleton.1 hmem
    rcases hlast with hspelled | ⟨hopen, w, hcut⟩
    · exact hfull piece (htilde piece hpiece) hspelled
    · obtain ⟨text, htext, hstar, -⟩ := hcut.piece
      have hclosed : Text.closedText '~' piece = text ++ ['*'] := by
        simp [Text.closedText, hopen, htext]
      rw [htext] at hcut
      rw [hclosed]
      exact ⟨_, (ofPiece_star_iff hstar).2 ⟨w, rfl, hcut⟩⟩

end IsPatternText

/-! ## The main statement -/

namespace Pattern

/-- A text of the language is read as a pattern. -/
theorem exists_parse {given : String} (h : IsPatternText (Text.trimBlanks given.toList)) :
    ∃ p, parse given = .ok p := by
  have htext : (Text.trim given).toList = Text.trimBlanks given.toList := Text.toList_trim given
  have hchain : (Text.trimBlanks given.toList).drop 4 ≠ [] := by
    obtain ⟨front, last, hpieces, -⟩ := h.isSpelled
    rw [Ne, ← chainPieces_eq_nil_iff, hpieces]
    simp
  obtain ⟨segments, hsegments⟩ := @exists_segmentsOf true 1 4 _ h.exists_ofPiece
  refine ⟨_, parse_eq_ok_iff.2 ⟨?_, ?_, ?_, ⟨Text.trim given, segments⟩, ?_, rfl⟩⟩
  · rw [Text.startsWith, htext, List.isPrefixOf_iff_prefix]
    exact h.hasLead
  · rw [Text.count, htext]
    exact h.count_le
  · intro hone
    rw [Text.count, htext] at hone
    have hstar : '*' ∈ Text.trimBlanks given.toList := List.count_pos_iff.1 (by omega)
    exact h.endsInWildcard hstar
  · refine read_eq_ok_iff.2 ?_
    rw [htext, Text.trimBlanks_trimBlanks, Text.trim_trim]
    exact ⟨h.isLowerCase, h.hyphen_not_mem, h.hasLead, h.isShort, hchain, segments, hsegments,
      .inl rfl, rfl⟩

/-- The segments of a pattern say what the pieces of its text spell, the last piece in full or cut
short. -/
theorem says_of_parse {given : String} {p : Pattern} (h : parse given = .ok p) :
    ∃ front last full segment,
      chainPieces (Text.trimBlanks given.toList) = front ++ [last] ∧
        p.segments = full ++ [segment] ∧ List.Forall₂ SaysPiece front full ∧
        (SaysPiece last segment ∨ SaysCut last segment) := by
  obtain ⟨-, -, -, id, hid, -⟩ := parse_eq_ok_iff.1 h
  obtain ⟨-, -, -, -, hchain, -⟩ := read_eq_ok_iff.1 hid
  obtain ⟨htext, hread, hstar⟩ := forall₂_of_parse h
  rw [htext, Text.toList_trim] at hread hstar
  rw [Text.toList_trim, Text.trimBlanks_trimBlanks] at hchain
  obtain hnil | ⟨front, last, hpieces⟩ :=
    List.eq_nil_or_concat (chainPieces (Text.trimBlanks given.toList))
  · exact absurd (chainPieces_eq_nil_iff.1 hnil) hchain
  rw [List.concat_eq_append] at hpieces
  rw [cutAfter_drop_lead, hpieces] at hread
  obtain ⟨hfront, hlast⟩ := star_not_mem_pieces hpieces hstar
  obtain ⟨full, segment, hsegments, hfull, hsays⟩ := say_of_readsAs hread
    (fun piece hpiece => tilde_not_mem_of_mem_chainPieces (hpieces ▸ hpiece)) hfront hlast
  exact ⟨front, last, full, segment, hpieces, hsegments, hfull, hsays⟩

/-- A text that is read as a pattern is one of the language. -/
theorem isPatternText_of_parse {given : String} {p : Pattern} (h : parse given = .ok p) :
    IsPatternText (Text.trimBlanks given.toList) := by
  obtain ⟨-, -, -, id, hid, -⟩ := parse_eq_ok_iff.1 h
  obtain ⟨-, -, hlead, hshort, -⟩ := read_eq_ok_iff.1 hid
  rw [Text.toList_trim, Text.trimBlanks_trimBlanks] at hlead hshort
  obtain ⟨front, last, full, segment, hpieces, -, hfull, hsays⟩ := says_of_parse h
  refine ⟨hlead, hshort, front, last, hpieces, spelled_of_forall₂_saysPiece hfull, ?_⟩
  rcases hsays with ⟨⟨d, -, hspells⟩, -⟩ | ⟨⟨w, -, hcut⟩, hopen, -⟩
  · exact .inl ⟨d, hspells⟩
  · exact .inr ⟨hopen, w, hcut⟩

/-- A fault repeats the text that is no pattern. -/
theorem given_of_parse {given : String} {fault : PatternFault} (h : parse given = .error fault) :
    fault.given = given := by
  simp only [parse] at h
  repeat' split at h
  all_goals cases h
  all_goals rfl

end Pattern

/-- Exactly the texts of the language are read as patterns, blanks around them being dropped.  What
is read is the text without the blanks, with a segment for each piece of the chain: a full one with
the fields that the piece spells, which is a type if a tilde closes the piece; or, for a last piece
that is left open and ends in a star, one cut short with the fields in front of the star, which is
no type.  For every other text there is a fault, which repeats the text. -/
theorem pattern_language (given : String) :
    ((∃ p, Pattern.parse given = .ok p) ↔ IsPatternText (Text.trimBlanks given.toList)) ∧
    (∀ p, Pattern.parse given = .ok p →
      p.text = Text.trim given ∧
        ∃ front last full segment,
          chainPieces (Text.trimBlanks given.toList) = front ++ [last] ∧
            p.segments = full ++ [segment] ∧ List.Forall₂ SaysPiece front full ∧
            (SaysPiece last segment ∨ SaysCut last segment)) ∧
    (¬ IsPatternText (Text.trimBlanks given.toList) →
      ∃ cause, Pattern.parse given = .error ⟨given, cause⟩) := by
  refine ⟨⟨fun ⟨_, h⟩ => Pattern.isPatternText_of_parse h, Pattern.exists_parse⟩, ?_, ?_⟩
  · intro p h
    exact ⟨(Pattern.forall₂_of_parse h).1, Pattern.says_of_parse h⟩
  · intro h
    cases hparse : Pattern.parse given with
    | ok p => exact absurd (Pattern.isPatternText_of_parse hparse) h
    | error fault =>
      obtain rfl : fault.given = given := Pattern.given_of_parse hparse
      exact ⟨fault.cause, rfl⟩

end TypeRegistry
