import TypeRegistry.Proofs.Identifier.Language

/-!
# Identifiers spelled from their fields

The fields of an identifier spell a text: the tokens of each segment with points between them, a
tilde behind each type, all behind `gts.`.  A number has one numeral without leading zeros and a name
is kept as it is written, so what is read of a text spells that text again, save that a line break
behind a version, which reading lets pass, is not spelled.

Main results:

- Theorem `toDigits_of_isNumeral`: a numeral is the decimal text of the number that it spells.
- Theorem `SaysPiece.spelling_eq`: a segment spells the piece that it was read from, without line
  breaks behind versions.
- Theorem `spelling_of_parse`: what an identifier spells, and when this is its text.
-/

namespace TypeRegistry

/-! ## Writing identifiers -/

/-- The tokens that fields are written as, the major version behind its mark. -/
def OpenDesignation.tokens (written : OpenDesignation) : List (List Char) :=
  [written.vendor, written.package, written.space, written.typeName].filterMap
      (·.map String.toList) ++
    (written.major.map fun major => 'v' :: Nat.toDigits 10 major).toList ++
    (written.minor.map (Nat.toDigits 10)).toList

/-- The tokens of a segment: those of its fields, and the star if it is cut short. -/
def Segment.tokens (segment : Segment) : List (List Char) :=
  segment.written.tokens ++ if segment.isWildcard then [['*']] else []

/-- The text that the fields of a segment spell. -/
def Segment.spelling (segment : Segment) : List Char :=
  Text.closedText '~' (['.'].intercalate segment.tokens, segment.isType)

/-- The text that the fields of an identifier spell. -/
def Identifier.spelling (id : Identifier) : String :=
  String.ofList (Identifier.lead.toList ++ (id.segments.map Segment.spelling).flatten)

/-- The fields of the segments of an identifier, with whether each is a type. -/
def Identifier.fields (id : Identifier) : List (SegmentBody × Bool) :=
  id.segments.map fun segment => (segment.body, segment.isType)

/-- Identifiers with the same fields spell the same text. -/
theorem Identifier.spelling_congr {id other : Identifier} (h : id.fields = other.fields) :
    id.spelling = other.spelling := by
  have hspelled (any : Identifier) : any.segments.map Segment.spelling =
      any.fields.map fun fields => Segment.spelling ⟨0, 0, "", fields.2, fields.1⟩ := by
    rw [Identifier.fields, List.map_map]
    rfl
  rw [Identifier.spelling, Identifier.spelling, hspelled, hspelled, h]

/-! ## Line breaks behind versions -/

/-- The tokens of a segment without the line breaks behind its versions, which stand behind the four
names. -/
def withoutVersionBreaks (tokens : List (List Char)) : List (List Char) :=
  tokens.take 4 ++ (tokens.drop 4).map withoutFinalBreak

/-- A piece of a chain without the line breaks behind its versions. -/
def plainPiece (piece : List Char × Bool) : List Char :=
  Text.closedText '~'
    (['.'].intercalate (withoutVersionBreaks (Text.splitOn '.' piece.1)), piece.2)

/-- The text of an identifier without the line breaks behind its versions. -/
def plainText (text : String) : String :=
  String.ofList
    (Identifier.lead.toList ++ ((chainPieces text.toList).map plainPiece).flatten)

/-- No version in the text of an identifier has a line break behind it. -/
def HasPlainVersions (text : String) : Prop :=
  ∀ piece ∈ chainPieces text.toList, ∀ token ∈ (Text.splitOn '.' piece.1).drop 4,
    token.getLast? ≠ some '\n'

/-- Dropping the line break at the end leaves a part of the text. -/
theorem withoutFinalBreak_sublist (cs : List Char) : (withoutFinalBreak cs).Sublist cs := by
  obtain ⟨lineBreak, hcs, -⟩ := exists_eq_withoutFinalBreak_append cs
  conv => rhs; rw [hcs]
  exact List.sublist_append_left _ _

/-- A character other than a line break in front of a text is kept. -/
theorem withoutFinalBreak_cons {c : Char} (h : c ≠ '\n') (cs : List Char) :
    withoutFinalBreak (c :: cs) = c :: withoutFinalBreak cs := by
  cases cs with
  | nil => simp [withoutFinalBreak, h]
  | cons d rest =>
    simp only [withoutFinalBreak, List.getLast?_cons_cons]
    split
    · rw [List.dropLast_cons_cons]
    · rfl

/-- Nothing is dropped exactly from a text that does not end in a line break. -/
theorem withoutFinalBreak_eq_self_iff {cs : List Char} :
    withoutFinalBreak cs = cs ↔ cs.getLast? ≠ some '\n' := by
  unfold withoutFinalBreak
  split
  next hlast =>
    obtain ⟨front, rfl⟩ := List.getLast?_eq_some_iff.1 hlast
    simp
  next hlast => simp [hlast]

/-- Tokens stay as they are exactly if no version among them has a line break behind it. -/
theorem withoutVersionBreaks_eq_self_iff {tokens : List (List Char)} :
    withoutVersionBreaks tokens = tokens ↔
      ∀ token ∈ tokens.drop 4, token.getLast? ≠ some '\n' := by
  have hsame : withoutVersionBreaks tokens = tokens ↔
      (tokens.drop 4).map withoutFinalBreak = (tokens.drop 4).map id := by
    conv_lhs => rhs; rw [← List.take_append_drop 4 tokens]
    rw [withoutVersionBreaks, List.append_cancel_left_eq, List.map_id]
  rw [hsame, List.map_inj_left]
  exact forall₂_congr fun token _ => withoutFinalBreak_eq_self_iff

/-- Tokens without the line breaks behind versions are parts of the tokens. -/
theorem withoutVersionBreaks_sublist (tokens : List (List Char)) :
    List.Forall₂ List.Sublist (withoutVersionBreaks tokens) tokens := by
  conv => rhs; rw [← List.take_append_drop 4 tokens]
  refine List.rel_append ?_ ?_
  · exact List.forall₂_same.2 fun token _ => List.Sublist.refl token
  · rw [List.forall₂_map_left_iff]
    exact List.forall₂_same.2 fun token _ => withoutFinalBreak_sublist token

/-! ## Numerals -/

/-- A decimal digit is the character of its value. -/
theorem digitChar_of_digit {c : Char} (hlow : '0' ≤ c) (hhigh : c ≤ '9') :
    Nat.digitChar (c.toNat - '0'.toNat) = c := by
  have h48 : 48 ≤ c.toNat := hlow
  have h57 : c.toNat ≤ 57 := hhigh
  have hzero : '0'.toNat = 48 := rfl
  apply Char.toNat_inj.1
  rw [Nat.toNat_digitChar_of_lt_ten (by omega)]
  omega

/-- Digits read onto a number other than zero stand behind its numeral. -/
theorem toDigits_append_digits {digits : List Char} (h : ∀ c ∈ digits, '0' ≤ c ∧ c ≤ '9')
    {n : Nat} (hn : 0 < n) :
    Nat.toDigits 10 (Nat.ofDigitChars 10 digits n) = Nat.toDigits 10 n ++ digits := by
  induction digits generalizing n with
  | nil => simp [Nat.ofDigitChars]
  | cons c rest ih =>
    obtain ⟨⟨hlow, hhigh⟩, hrest⟩ := List.forall_mem_cons.1 h
    have h57 : c.toNat ≤ 57 := hhigh
    have hzero : '0'.toNat = 48 := rfl
    have hdigit : c.toNat - '0'.toNat < 10 := by omega
    rw [Nat.ofDigitChars_cons, ih hrest (by omega),
      ← Nat.toDigits_append_toDigits (by decide) hn hdigit, Nat.toDigits_of_lt_base hdigit,
      digitChar_of_digit hlow hhigh, List.append_assoc]
    rfl

/-- A numeral is the decimal text of the number that it spells. -/
theorem toDigits_of_isNumeral {digits : List Char} (h : IsNumeral digits) :
    Nat.toDigits 10 (Nat.ofDigitChars 10 digits 0) = digits := by
  rcases h with rfl | ⟨first, rest, rfl, ⟨hone, hnine⟩, hrest⟩
  · rfl
  · have h49 : 49 ≤ first.toNat := hone
    have h57 : first.toNat ≤ 57 := hnine
    have hzero : '0'.toNat = 48 := rfl
    have hlow : '0' ≤ first := Char.le_trans (by decide) hone
    rw [Nat.ofDigitChars_cons, Nat.mul_zero, Nat.zero_add,
      toDigits_append_digits hrest (by omega), Nat.toDigits_of_lt_base (by omega),
      digitChar_of_digit hlow hnine]
    rfl

/-- A version is the decimal text of the number that it spells, perhaps with a line break behind
it. -/
theorem SpellsNumber.toDigits_eq {token : List Char} {n : Nat} (h : SpellsNumber token n) :
    Nat.toDigits 10 n = withoutFinalBreak token := by
  obtain ⟨digits, lineBreak, rfl, hdigits, hbreak, rfl⟩ := h
  rw [withoutFinalBreak_append hdigits.break_not_mem hbreak, toDigits_of_isNumeral hdigits]

/-! ## Segments -/

/-- The tokens of a full segment are those that it was read from, without line breaks behind
versions. -/
theorem SpellsDesignation.tokens_eq {tokens : List (List Char)} {d : Designation}
    (h : SpellsDesignation tokens d) :
    (SegmentBody.full d).written.tokens = withoutVersionBreaks tokens := by
  have hlength := h.length
  obtain ⟨vendor, package, space, typeName, version, behind, rfl⟩ :=
    exists_eq_of_five_le (by omega : 5 ≤ tokens.length)
  obtain ⟨⟨-, h1⟩, ⟨-, h2⟩, ⟨-, h3⟩, ⟨-, h4⟩, ⟨digits, rfl, hmajor⟩, hminor⟩ := h
  have hversion : 'v' :: Nat.toDigits 10 d.major = withoutFinalBreak ('v' :: digits) := by
    rw [withoutFinalBreak_cons (by decide), hmajor.toDigits_eq]
  have hbehind : (d.minor.map (Nat.toDigits 10)).toList = behind.map withoutFinalBreak := by
    rcases behind with _ | ⟨token, _ | ⟨_, _⟩⟩
    · rw [show d.minor = none from hminor]
      rfl
    · obtain ⟨n, hn, hspelled⟩ := hminor
      simp [hn, hspelled.toDigits_eq]
    · exact absurd hminor id
  simp [OpenDesignation.tokens, SegmentBody.written, withoutVersionBreaks, h1, h2, h3, h4,
    hversion, hbehind]

/-- A segment spells the piece that it was read from, without line breaks behind versions. -/
theorem SaysPiece.spelling_eq {piece : List Char × Bool} {segment : Segment}
    (h : SaysPiece piece segment) : segment.spelling = plainPiece piece := by
  obtain ⟨⟨d, hbody, hspells⟩, htype⟩ := h
  have htokens : segment.tokens = withoutVersionBreaks (Text.splitOn '.' piece.1) := by
    rw [← hspells.tokens_eq, Segment.tokens, Segment.written, Segment.isWildcard, hbody]
    exact List.append_nil _
  rw [Segment.spelling, htokens, htype, plainPiece]

/-! ## Whole identifiers -/

/-- The text of a piece is that of its tokens with points between them. -/
theorem closedText_eq (piece : List Char × Bool) :
    Text.closedText '~' piece =
      Text.closedText '~' (['.'].intercalate (Text.splitOn '.' piece.1), piece.2) := by
  rw [Text.intercalate_splitOn]

/-- What is behind a text, a tilde or nothing, does not tell it from another. -/
theorem closedText_inj {first second : List Char} {closed : Bool} :
    Text.closedText '~' (first, closed) = Text.closedText '~' (second, closed) ↔
      first = second := by
  cases closed <;> simp [Text.closedText]

/-- A piece without the line breaks behind its versions is a part of its text. -/
theorem plainPiece_sublist (piece : List Char × Bool) :
    (plainPiece piece).Sublist (Text.closedText '~' piece) := by
  have hinner := Text.intercalate_sublist ['.']
    (withoutVersionBreaks_sublist (Text.splitOn '.' piece.1))
  rw [closedText_eq]
  unfold plainPiece Text.closedText
  split
  · exact hinner.append (List.Sublist.refl _)
  · exact hinner

/-- A piece stays as it is exactly if no version in it has a line break behind it. -/
theorem plainPiece_eq_iff {piece : List Char × Bool} :
    plainPiece piece = Text.closedText '~' piece ↔
      ∀ token ∈ (Text.splitOn '.' piece.1).drop 4, token.getLast? ≠ some '\n' := by
  rw [closedText_eq, plainPiece, closedText_inj, ← withoutVersionBreaks_eq_self_iff]
  constructor
  · exact Text.eq_of_intercalate_eq (withoutVersionBreaks_sublist _)
  · intro h
    rw [h]

/-- A text behind the lead stays as it is exactly if no version in it has a line break behind it. -/
theorem plainText_eq_iff {text : String} (h : Identifier.lead.toList <+: text.toList) :
    plainText text = text ↔ HasPlainVersions text := by
  obtain ⟨chain, htext⟩ := h
  have hchain : text.toList.drop 4 = chain := by rw [← htext]; rfl
  have hpieces : ((chainPieces text.toList).map (Text.closedText '~')).flatten = chain := by
    rw [← cutAfter_drop_lead, Text.flatten_cutAfter, hchain]
  have hplain : plainText text = text ↔
      ((chainPieces text.toList).map plainPiece).flatten =
        ((chainPieces text.toList).map (Text.closedText '~')).flatten := by
    rw [hpieces, plainText, ← String.toList_inj, String.toList_ofList, ← htext,
      List.append_cancel_left_eq]
  have hparts : List.Forall₂ List.Sublist ((chainPieces text.toList).map plainPiece)
      ((chainPieces text.toList).map (Text.closedText '~')) := by
    rw [List.forall₂_map_left_iff, List.forall₂_map_right_iff]
    exact List.forall₂_same.2 fun piece _ => plainPiece_sublist piece
  rw [hplain, ← Text.intercalate_nothing, ← Text.intercalate_nothing]
  constructor
  · intro heq piece hpiece
    exact plainPiece_eq_iff.1 (List.map_inj_left.1 (Text.eq_of_intercalate_eq hparts heq) piece hpiece)
  · intro hversions
    exact congrArg _ (List.map_inj_left.2 fun piece hpiece =>
      plainPiece_eq_iff.2 (hversions piece hpiece))

/-- An identifier that was read has the lead in front of its text, and its segments say what the
pieces behind the lead spell. -/
theorem saysPieces_of_parse {given : String} {id : Identifier}
    (h : Identifier.parse given = .ok id) :
    Identifier.lead.toList <+: id.text.toList ∧
      List.Forall₂ SaysPiece (chainPieces id.text.toList) id.segments := by
  obtain ⟨-, -, hlead, -, -, segments, hsegments, -, rfl⟩ := read_eq_ok_iff.1 h
  rw [Text.trim, String.toList_ofList]
  exact ⟨hlead, forall₂_saysPiece hsegments⟩

/-- What is read of a text spells that text without the line breaks behind its versions. -/
theorem spelling_eq_plainText {given : String} {id : Identifier}
    (h : Identifier.parse given = .ok id) : id.spelling = plainText id.text := by
  have hspelled : ∀ {pieces : List (List Char × Bool)} {segments : List Segment},
      List.Forall₂ SaysPiece pieces segments →
        segments.map Segment.spelling = pieces.map plainPiece := by
    intro pieces segments hsays
    induction hsays with
    | nil => rfl
    | cons hsays _ ih => rw [List.map_cons, List.map_cons, hsays.spelling_eq, ih]
  rw [Identifier.spelling, plainText, hspelled (saysPieces_of_parse h).2]

/-- What is read of a text spells that text without the line breaks behind its versions: the text
itself exactly if no version has one.  So the fields tell two identifiers apart unless their texts
differ in such line breaks only, and the fields of identifiers without them determine text and
UUID. -/
theorem spelling_of_parse (given : String) (id : Identifier)
    (h : Identifier.parse given = .ok id) :
    id.spelling = plainText id.text ∧
    (id.spelling = id.text ↔ HasPlainVersions id.text) ∧
    ∀ otherGiven other, Identifier.parse otherGiven = .ok other → id.fields = other.fields →
      plainText id.text = plainText other.text ∧
      (HasPlainVersions id.text → HasPlainVersions other.text →
        id.text = other.text ∧ id.uuid = other.uuid) := by
  have hspelling := spelling_eq_plainText h
  refine ⟨hspelling, ?_, ?_⟩
  · rw [hspelling]
    exact plainText_eq_iff (saysPieces_of_parse h).1
  · intro otherGiven other hother hfields
    have hplain : plainText id.text = plainText other.text := by
      rw [← hspelling, ← spelling_eq_plainText hother, Identifier.spelling_congr hfields]
    refine ⟨hplain, fun hversions hotherVersions => ?_⟩
    have htext : id.text = other.text := by
      rw [← (plainText_eq_iff (saysPieces_of_parse h).1).2 hversions, hplain]
      exact (plainText_eq_iff (saysPieces_of_parse hother).1).2 hotherVersions
    rw [Identifier.uuid, Identifier.uuid, htext]
    exact ⟨rfl, rfl⟩

/-- A type with a minor version. -/
def itemVersion : Identifier where
  text := "gts.acme.shop.cart.item.v1.2~"
  segments := [⟨1, 4, "acme.shop.cart.item.v1.2~", true,
    .full ⟨"acme", "shop", "cart", "item", 1, some 2⟩⟩]

/-- The same type with a line break behind the minor version. -/
def brokenItemVersion : Identifier where
  text := "gts.acme.shop.cart.item.v1.2\n~"
  segments := [⟨1, 4, "acme.shop.cart.item.v1.2\n~", true,
    .full ⟨"acme", "shop", "cart", "item", 1, some 2⟩⟩]

/-- The type without the line break is spelled by its fields, which are those of the other. -/
theorem spelling_of_parse_itemVersion :
    Identifier.parse "gts.acme.shop.cart.item.v1.2~" = .ok itemVersion ∧
    Identifier.parse "gts.acme.shop.cart.item.v1.2\n~" = .ok brokenItemVersion ∧
    itemVersion.spelling = itemVersion.text ∧
    itemVersion.fields = brokenItemVersion.fields ∧
    plainText itemVersion.text = plainText brokenItemVersion.text := by
  have hitem : Identifier.parse "gts.acme.shop.cart.item.v1.2~" = .ok itemVersion := rfl
  have hbroken : Identifier.parse "gts.acme.shop.cart.item.v1.2\n~" = .ok brokenItemVersion := rfl
  have hversions : HasPlainVersions itemVersion.text := by
    unfold HasPlainVersions
    decide
  obtain ⟨-, hspelled, hothers⟩ := spelling_of_parse _ _ hitem
  exact ⟨hitem, hbroken, hspelled.2 hversions, rfl, (hothers _ _ hbroken rfl).1⟩

/-- The type with the line break is not spelled by its fields, and they do not determine text and
UUID. -/
theorem spelling_ne_text :
    Identifier.parse "gts.acme.shop.cart.item.v1.2\n~" = .ok brokenItemVersion ∧
    brokenItemVersion.spelling ≠ brokenItemVersion.text ∧
    Identifier.parse "gts.acme.shop.cart.item.v1.2~" = .ok itemVersion ∧
    itemVersion.fields = brokenItemVersion.fields ∧
    itemVersion.text ≠ brokenItemVersion.text ∧ itemVersion.uuid ≠ brokenItemVersion.uuid := by
  refine ⟨rfl, by decide, rfl, rfl, by decide, by decide +kernel⟩

end TypeRegistry
