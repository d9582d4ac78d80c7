import TypeRegistry.Proofs.Identifier.Beginning
import TypeRegistry.Proofs.Identifier.Spelling
import TypeRegistry.Proofs.Schema.ConstraintReach

/-!
# Constraints by an identifier

A constraint that is an identifier is compared with the text of a value, which has to begin with it.
The text of a type ends in a tilde, so what comes behind it is a segment of its own, and the value is
the type or descends from it.  The text of an instance ends inside a version, and what comes behind
it may be another digit, or a minor version: the segments in front of the last are shared, but in the
place of the last stands any segment whose version goes on from it.  The instance `v1` is not told
from `v10` or `v1.2`.

Main results:

- Definitions `Designation.Continues`, `Segment.Continues`: a segment whose text and version go on
  from those of another.
- Theorem `SpellsDesignation.continues`: where the last token of a segment goes on, so does its
  version.
- Theorem `segments_of_beginning`: what is read of a text that begins with that of an identifier.
- Theorem `constrained_by_identifier`: what a constraint that is an identifier accepts.
- Theorem `constrained_by_identifier_tenthGift`: it need not be the instance or descend from it.
-/

namespace TypeRegistry

/-! ## Versions that go on -/

/-- A designation has the names of another and a version whose decimal text goes on where that of the
other one ends: in the minor version if the other writes one, else in the major version. -/
structure Designation.Continues (d other : Designation) : Prop where
  vendor : d.vendor = other.vendor
  package : d.package = other.package
  space : d.space = other.space
  typeName : d.typeName = other.typeName
  major : other.minor = none → Nat.toDigits 10 other.major <+: Nat.toDigits 10 d.major
  minor : ∀ m, other.minor = some m → d.major = other.major ∧
    ∃ n, d.minor = some n ∧ Nat.toDigits 10 m <+: Nat.toDigits 10 n

/-- A segment stands where another one does and begins with its text; it says the same but for a
version that goes on. -/
structure Segment.Continues (segment other : Segment) : Prop where
  position : segment.position = other.position
  offset : segment.offset = other.offset
  text : other.text.toList <+: segment.text.toList
  body : ∃ d e, segment.body = .full d ∧ other.body = .full e ∧ d.Continues e

theorem Designation.Continues.refl (d : Designation) : d.Continues d where
  vendor := rfl
  package := rfl
  space := rfl
  typeName := rfl
  major _ := List.prefix_rfl
  minor m hm := ⟨rfl, m, hm, List.prefix_rfl⟩

/-- A text that does not end in a line break is kept in front of others whose final line break is
dropped. -/
theorem prefix_withoutFinalBreak {cs : List Char} (h : cs.getLast? ≠ some '\n')
    (behind : List Char) : cs <+: withoutFinalBreak (cs ++ behind) := by
  unfold withoutFinalBreak
  split
  next hlast =>
    have hbehind : behind ≠ [] := by
      rintro rfl
      exact h (by simpa using hlast)
    rw [List.dropLast_append_of_ne_nil hbehind]
    exact List.prefix_append _ _
  next => exact List.prefix_append _ _

/-- What stands behind a numeral goes on with the decimal text of its number. -/
theorem SpellsNumber.toDigits_begins {token behind : List Char} {m n : Nat}
    (hm : SpellsNumber token m) (hn : SpellsNumber (token ++ behind) n)
    (hbreak : token.getLast? ≠ some '\n') : Nat.toDigits 10 m <+: Nat.toDigits 10 n := by
  rw [hm.toDigits_eq, hn.toDigits_eq, withoutFinalBreak_eq_self_iff.2 hbreak]
  exact prefix_withoutFinalBreak hbreak behind

/-- A token spells one number. -/
theorem SpellsNumber.unique {token : List Char} {m n : Nat} (hm : SpellsNumber token m)
    (hn : SpellsNumber token n) : m = n := by
  rw [← versionNumber?_eq_some_iff] at hm hn
  exact Option.some.inj (hm.symm.trans hn)

/-- Tokens that begin with those of a segment, the last of which goes on, spell a segment with a
version that goes on. -/
theorem SpellsDesignation.continues {front others : List (List Char)} {last tail : List Char}
    {d e : Designation} (h : SpellsDesignation (front ++ [last]) e)
    (h' : SpellsDesignation (front ++ (last ++ tail) :: others) d)
    (hbreak : last.getLast? ≠ some '\n') : d.Continues e := by
  have hlength := h.length
  rw [List.length_append, List.length_singleton] at hlength
  -- The last token of a segment is its major or its minor version.
  obtain ⟨vendor, package, space, typeName, rest, rfl, hrest⟩ : ∃ vendor package space typeName rest,
      front = vendor :: package :: space :: typeName :: rest ∧ rest.length ≤ 1 := by
    rcases front with _ | ⟨vendor, _ | ⟨package, _ | ⟨space, _ | ⟨typeName, rest⟩⟩⟩⟩
    all_goals simp only [List.length_cons, List.length_nil] at hlength
    all_goals try omega
    exact ⟨vendor, package, space, typeName, rest, rfl, by omega⟩
  rcases rest with _ | ⟨version, _ | ⟨_, _⟩⟩
  · obtain ⟨⟨-, h1⟩, ⟨-, h2⟩, ⟨-, h3⟩, ⟨-, h4⟩, ⟨digits, rfl, hmajor⟩, hminor⟩ := h
    obtain ⟨⟨-, h1'⟩, ⟨-, h2'⟩, ⟨-, h3'⟩, ⟨-, h4'⟩, ⟨_, hdigits, hmajor'⟩, -⟩ := h'
    obtain rfl := (List.cons.inj hdigits).2
    have hminor : e.minor = none := hminor
    have hdigitsBreak : digits.getLast? ≠ some '\n' := by
      intro hlast
      exact hbreak (by rw [List.getLast?_cons, hlast, Option.getD_some])
    refine ⟨h1'.trans h1.symm, h2'.trans h2.symm, h3'.trans h3.symm, h4'.trans h4.symm, ?_, ?_⟩
    · intro _
      exact hmajor.toDigits_begins hmajor' hdigitsBreak
    · intro m hm
      rw [hminor] at hm
      cases hm
  · obtain ⟨⟨-, h1⟩, ⟨-, h2⟩, ⟨-, h3⟩, ⟨-, h4⟩, ⟨digits, rfl, hmajor⟩, hminor⟩ := h
    obtain ⟨⟨-, h1'⟩, ⟨-, h2'⟩, ⟨-, h3'⟩, ⟨-, h4'⟩, ⟨_, hdigits, hmajor'⟩, hminor'⟩ := h'
    obtain rfl := (List.cons.inj hdigits).2
    obtain ⟨m, hm, hspelled⟩ := hminor
    cases others with
    | nil =>
      obtain ⟨n, hn, hspelled'⟩ := hminor'
      refine ⟨h1'.trans h1.symm, h2'.trans h2.symm, h3'.trans h3.symm, h4'.trans h4.symm, ?_, ?_⟩
      · intro hnone
        rw [hm] at hnone
        cases hnone
      · intro other hother
        obtain rfl := Option.some.inj (hm.symm.trans hother)
        exact ⟨hmajor'.unique hmajor, n, hn, hspelled.toDigits_begins hspelled' hbreak⟩
    | cons _ _ => exact absurd hminor' id
  · simp at hrest

/-! ## Identifiers that begin alike -/

/-- The text of a constraint that is an identifier stands at the front of every identifier that begins
as the constraint wants. -/
theorem prefix_of_patternStart {pattern value : String} {p id : Identifier}
    (hp : Identifier.parse pattern = .ok p) (hid : Identifier.parse value = .ok id)
    (hlead : Text.startsWith Identifier.lead pattern = true)
    (hstart : Text.startsWith (patternStart pattern) value = true) :
    p.text.toList <+: id.text.toList := by
  obtain ⟨hptext, -⟩ := exists_chain_of_read hp
  obtain ⟨hidtext, -⟩ := exists_chain_of_read hid
  have hplain := star_not_mem_text hp
  rw [hptext, Text.toList_trim] at hplain
  obtain ⟨behind, hbehind, hstar⟩ := patternStart_append pattern
  have hsame : pattern.toList = (patternStart pattern).toList := by
    rcases hstar with rfl | rfl
    · rwa [List.append_nil] at hbehind
    · exact absurd (Text.mem_trimBlanks (by decide) (by rw [hbehind]; simp)) hplain
  rw [Text.startsWith, List.isPrefixOf_iff_prefix] at hlead hstart
  rw [← hsame] at hstart
  rw [hptext, hidtext, Text.toList_trim, Text.toList_trim]
  refine Text.prefix_trimBlanks (hlead.trans hstart) ?_ fun c =>
    Text.isBlank_of_getLast?_trimBlanks
  have htrim := Text.isPrefix_trimBlanks (Text.dropWhile_isBlank_of_lead hlead)
  exact htrim.trans hstart

/-- The one segment of an open end goes on in the first segment of a text that begins with it. -/
theorem exists_continues_of_open_end {position offset : Nat} {text tail : List Char}
    {segments longer : List Segment} (htilde : '~' ∉ text) (hne : text ≠ [])
    (hbreak : text.getLast? ≠ some '\n')
    (h : segmentsOf false position offset (Text.cutAfter '~' text) = .ok segments)
    (hlonger : segmentsOf false position offset (Text.cutAfter '~' (text ++ tail)) =
      .ok longer) :
    ∃ segment next rest, segments = [segment] ∧ longer = next :: rest ∧
      next.Continues segment := by
  rw [Text.cutAfter_of_not_mem htilde hne] at h
  obtain ⟨body, rest, hbody, hrest, rfl⟩ := segmentsOf_cons_eq_ok_iff.1 h
  obtain rfl := Except.ok.inj hrest
  obtain ⟨e, rfl, hspells⟩ := ofPiece_eq_ok_iff.1 hbody
  have hopen : withoutTilde text = text := if_neg fun hlast => htilde (List.mem_of_getLast? hlast)
  obtain ⟨front, last, htokens⟩ := Text.exists_splitOn_eq_concat '.' text
  rw [hopen, htokens] at hspells
  by_cases htail : tail = []
  case pos =>
    rw [htail, List.append_nil, Text.cutAfter_of_not_mem htilde hne, h] at hlonger
    obtain rfl := Except.ok.inj hlonger
    exact ⟨_, _, [], rfl, rfl, rfl, rfl, List.prefix_rfl, e, e, rfl, rfl, .refl e⟩
  case neg =>
    obtain ⟨next, rest, d, token, others, rfl, hposition, hoffset, htext, hnext, hspells'⟩ :=
      exists_segment_of_open_end htilde htokens htail hlonger
    have hcontinues := hspells.continues hspells' fun hlast =>
      hbreak (Text.getLast?_of_splitOn htokens hlast)
    exact ⟨_, next, rest, rfl, rfl, hposition, hoffset, by rwa [String.toList_ofList], d, e, hnext,
      rfl, hcontinues⟩

/-- What is read of a text that begins with the text of an identifier: the segments of a type and
others behind them; or the segments of an instance but for the last, which goes on. -/
theorem segments_of_beginning {pattern value : String} {p id : Identifier}
    (hp : Identifier.parse pattern = .ok p) (hid : Identifier.parse value = .ok id)
    (hstart : p.text.toList <+: id.text.toList) :
    (p.isType = true → p.segments <+: id.segments) ∧
    (p.isType = false → ∃ front last next rest, p.segments = front ++ [last] ∧
      id.segments = front ++ next :: rest ∧ next.Continues last) := by
  obtain ⟨hptext, chain, hchain, hne, hsegments⟩ := exists_chain_of_read hp
  obtain ⟨-, longer, hlonger, -, hlongerSegments⟩ := exists_chain_of_read hid
  rw [hchain, hlonger, List.prefix_append_right_inj] at hstart
  obtain ⟨tail, rfl⟩ := hstart
  have htype : p.isType = true ↔ chain.getLast? = some '~' := by
    rw [Identifier.isType, Text.endsWith, List.isSuffixOf_iff_suffix,
      ← List.getLast?_append_of_ne_nil "gts.".toList hne, ← hchain, List.getLast?_eq_some_iff]
    exact exists_congr fun front => eq_comm
  obtain ⟨closed, text, rfl, hclosed, htilde⟩ := Text.exists_open_end '~' chain
  rw [List.append_assoc] at hlongerSegments
  obtain ⟨front, second, hp, hfront, hsecond⟩ := exists_segmentsOf_append hclosed hsegments
  obtain ⟨front', third, hid, hfront', hthird⟩ := exists_segmentsOf_append hclosed hlongerSegments
  obtain rfl := Except.ok.inj (hfront.symm.trans hfront')
  rw [htype, ← Bool.not_eq_true, htype, hp, hid]
  by_cases hnil : text = []
  case pos =>
    subst hnil
    obtain rfl := Except.ok.inj hsecond
    rw [List.append_nil] at hne ⊢
    exact ⟨fun _ => by simp, fun hopen => absurd (hclosed.resolve_left hne) hopen⟩
  case neg =>
    have hlast : (closed ++ text).getLast? = text.getLast? := List.getLast?_append_of_ne_nil _ hnil
    have hbreak : text.getLast? ≠ some '\n' := by
      intro hbreak
      rw [← hlast, ← List.getLast?_append_of_ne_nil "gts.".toList hne, ← hchain, hptext,
        Text.toList_trim] at hbreak
      exact absurd (Text.isBlank_of_getLast?_trimBlanks hbreak) (by decide)
    obtain ⟨segment, next, rest, rfl, rfl, hcontinues⟩ :=
      exists_continues_of_open_end htilde hnil hbreak hsecond hthird
    constructor
    · intro htilded
      exact absurd (List.mem_of_getLast? (hlast ▸ htilded)) htilde
    · intro _
      exact ⟨front, segment, next, rest, rfl, rfl, hcontinues⟩

/-! ## The main statement -/

/-- A constraint by an identifier is met by identifiers that begin with its text.  If it names a type,
these have its segments in front, and go on behind its last tilde.  If it names an instance, they
have its segments in front but for the last, and in the place of that one a segment with a text that
goes on and, but for a version that goes on, the same fields. -/
theorem constrained_by_identifier (lookup : Option Lookup) (members : Json.Members) (path : String)
    (subject : Json) (pattern value : String) (hvalid : Identifier.isValid pattern = true)
    (hreached : Constrains members subject (.str pattern) value)
    (hnone : (constrainedValueIssues lookup (.obj members) path subject).value = []) :
    ∃ p id, Identifier.parse pattern = .ok p ∧ Identifier.parse value = .ok id ∧
      (p.isType = true → p.segments <+: id.segments) ∧
      (p.isType = false → ∃ front last next rest, p.segments = front ++ [last] ∧
        id.segments = front ++ next :: rest ∧ next.Continues last) := by
  obtain ⟨hlead, p, hp⟩ := Identifier.isValid_iff.1 hvalid
  obtain ⟨text, stands, htext, hstands, hvalue, hstart, -⟩ :=
    (constrainedValueIssues_eq_nil_iff lookup members path subject).1 hnone _ _ hreached
  obtain rfl := Json.str.inj htext
  rw [constraintPattern_of_lead hlead] at hstands
  obtain rfl := Except.ok.inj hstands
  obtain ⟨-, id, hid⟩ := Identifier.isValid_iff.1 hvalue
  exact ⟨p, id, hp, hid, segments_of_beginning hp hid (prefix_of_patternStart hp hid hlead hstart)⟩

/-- A gift, as an instance in the first version. -/
def firstGift : Identifier where
  text := "gts.acme.shop.cart.item.v1~acme.shop.cart.gift.v1"
  segments :=
    [⟨1, 4, "acme.shop.cart.item.v1~", true, .full ⟨"acme", "shop", "cart", "item", 1, none⟩⟩,
      ⟨2, 27, "acme.shop.cart.gift.v1", false, .full ⟨"acme", "shop", "cart", "gift", 1, none⟩⟩]

/-- A note on a gift in a version that begins with the same digit. -/
def giftNote : Identifier where
  text := "gts.acme.shop.cart.item.v1~acme.shop.cart.gift.v12.3~acme.shop.cart.note.v1"
  segments :=
    [⟨1, 4, "acme.shop.cart.item.v1~", true, .full ⟨"acme", "shop", "cart", "item", 1, none⟩⟩,
      ⟨2, 27, "acme.shop.cart.gift.v12.3~", true,
        .full ⟨"acme", "shop", "cart", "gift", 12, some 3⟩⟩,
      ⟨3, 53, "acme.shop.cart.note.v1", false, .full ⟨"acme", "shop", "cart", "note", 1, none⟩⟩]

/-- The note is accepted where the gift is wanted, and its version goes on from that of the gift. -/
theorem constrained_by_identifier_giftNote :
    Identifier.isValid firstGift.text = true ∧
    (constrainedValueIssues none (.obj (constrainedBy firstGift.text)) ""
      (.str giftNote.text)).value = [] ∧
    ∃ front last next rest, firstGift.segments = front ++ [last] ∧
      giftNote.segments = front ++ next :: rest ∧ next.Continues last := by
  have hvalid : Identifier.isValid firstGift.text = true := by decide
  have hgift : Identifier.parse firstGift.text = .ok firstGift := rfl
  have hnote : Identifier.parse giftNote.text = .ok giftNote := rfl
  have hnone : (constrainedValueIssues none (.obj (constrainedBy firstGift.text)) ""
      (.str giftNote.text)).value = [] := by
    rw [List.eq_nil_iff_length_eq_zero]
    decide +kernel
  obtain ⟨p, id, hp, hid, -, hcontinues⟩ := constrained_by_identifier none
    (constrainedBy firstGift.text) "" (.str giftNote.text) firstGift.text giftNote.text hvalid
    (.here rfl) hnone
  obtain rfl := Except.ok.inj (hgift.symm.trans hp)
  obtain rfl := Except.ok.inj (hnote.symm.trans hid)
  exact ⟨hvalid, hnone, hcontinues rfl⟩

/-- A gift, as an instance in the tenth version. -/
def tenthGift : Identifier where
  text := "gts.acme.shop.cart.item.v1~acme.shop.cart.gift.v10"
  segments :=
    [⟨1, 4, "acme.shop.cart.item.v1~", true, .full ⟨"acme", "shop", "cart", "item", 1, none⟩⟩,
      ⟨2, 27, "acme.shop.cart.gift.v10", false, .full ⟨"acme", "shop", "cart", "gift", 10, none⟩⟩]

/-- The tenth gift is accepted where the first one is wanted, although it is another instance. -/
theorem constrained_by_identifier_tenthGift :
    Identifier.isValid firstGift.text = true ∧
    (constrainedValueIssues none (.obj (constrainedBy firstGift.text)) ""
      (.str tenthGift.text)).value = [] ∧
    Identifier.parse firstGift.text = .ok firstGift ∧
    Identifier.parse tenthGift.text = .ok tenthGift ∧
    ¬ firstGift.segments.map Segment.written <+: tenthGift.segments.map Segment.written := by
  refine ⟨by decide, ?_, rfl, rfl, by decide⟩
  rw [List.eq_nil_iff_length_eq_zero]
  decide +kernel

end TypeRegistry
