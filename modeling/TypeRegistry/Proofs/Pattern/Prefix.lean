import TypeRegistry.Proofs.Identifier.Beginning
import TypeRegistry.Proofs.Pattern.Language
import TypeRegistry.Proofs.Pattern.Preorder
import TypeRegistry.Proofs.Schema.ConstraintReach
import TypeRegistry.Query.Results

/-!
# Patterns as beginnings

A pattern that ends in a star is used in two ways that know nothing of each other.  A query matches
its segments with those of an identifier.  A constraint on identifiers takes it as raw text: an
identifier has to begin with what stands in front of the star.  The star is a token of its own, so
the text is cut where a token ends, and an identifier that goes on there has the pieces and the
tokens in front of the cut in common with the pattern, and with them the fields.  So what begins like
a pattern is matched by it.  The one exception is the bare type in front of a star that stands for a
segment: it has a segment too few.

An entity without content is known under its identifier, but no query selects it.

Main results:

- Definition `CutAt`: where a pattern is cut short, and what is read up to there.
- Theorem `exists_cutAt`: a pattern that ends in a star is cut short where a token ends.
- Theorem `CutAt.matchesIdentifier_iff`: of the identifiers that begin with what stands in front of
  the star, it matches all but the bare type.
- Theorem `query_of_parse`: a pattern with a star is a query without filters.
- Theorem `matching_of_beginning`: identifiers that a constraint accepts are matched by the query.
- Theorem `query_passes_over_empty_schema`: a query passes over an accepted identifier of an entity
  without content.
-/

namespace TypeRegistry.Pattern

open Dictionary

/-! ## The cut of a pattern -/

/-- Where a pattern is cut short: in front of its star stand pieces that are closed and, behind
them, tokens that its last segment writes, each with a point. -/
structure CutAt (p : Pattern) (closed text : List Char) (tokens : List (List Char))
    (first : List Segment) (last : Segment) : Prop where
  start : (Text.dropLast p.text).toList = "gts.".toList ++ (closed ++ text)
  isClosed : closed = [] ∨ closed.getLast? = some '~'
  tilde_not_mem : '~' ∉ text
  splits : Text.splitOn '.' text = tokens ++ [[]]
  length_le : tokens.length ≤ 5
  segments_eq : p.segments = first ++ [last]
  reads : segmentsOf true 1 4 (Text.cutAfter '~' closed) = .ok first
  writes : SegmentBody.ofTokens (tokens ++ [['*']]) = .ok last.body
  isType : last.isType = false

/-- A pattern that ends in a star is its lead, a chain without a star, and the star. -/
theorem exists_chain_of_parse {given : String} {p : Pattern} (h : parse given = .ok p)
    (hstar : Text.endsWith "*" p.text = true) :
    ∃ start, p.text.toList = "gts.".toList ++ (start ++ ['*']) ∧ '*' ∉ start ∧
      segmentsOf true 1 4 (Text.cutAfter '~' (start ++ ['*'])) = .ok p.segments := by
  obtain ⟨-, -, -, id, hread, rfl⟩ := parse_eq_ok_iff.1 h
  obtain ⟨-, -, hinside⟩ := forall₂_of_parse h
  obtain ⟨htext, chain, hchain, hne, hsegments⟩ := exists_chain_of_read hread
  rw [Text.trim_trim] at htext
  rw [← htext, hchain] at hinside
  have hlast : chain.getLast? = some '*' := by
    rw [Text.endsWith, List.isSuffixOf_iff_suffix, ← htext, hchain] at hstar
    obtain ⟨before, hbefore⟩ := hstar
    rw [← List.getLast?_append_of_ne_nil "gts.".toList hne, ← hbefore]
    simp
  obtain ⟨start, rfl⟩ := List.getLast?_eq_some_iff.1 hlast
  exact ⟨start, by rw [← htext, hchain], by simpa using hinside, hsegments⟩

/-- In front of a star that ends an open piece stand whole tokens, each with a point. -/
theorem exists_tokens_of_star {text : List Char} {body : SegmentBody} (hstar : '*' ∉ text)
    (h : SegmentBody.ofPiece true (text ++ ['*']) = .ok body) :
    ∃ tokens, Text.splitOn '.' text = tokens ++ [[]] ∧ tokens.length ≤ 5 ∧
      SegmentBody.ofTokens (tokens ++ [['*']]) = .ok body := by
  obtain ⟨w, rfl, hcut⟩ := (ofPiece_star_iff hstar).1 h
  obtain ⟨tokens, last, htokens, hconcat⟩ :=
    Text.exists_splitOn_concat (by decide : '*' ≠ '.') text
  rw [hconcat] at hcut
  obtain ⟨rfl, hlength⟩ := hcut.of_concat
  have hplain : ['*'] ∉ tokens := by
    have hnone := star_not_mem_splitOn hstar
    rw [htokens] at hnone
    exact fun hmem => hnone (List.mem_append_left _ hmem)
  exact ⟨tokens, htokens, hlength, (ofTokens_star_iff hlength hplain).2 ⟨w, rfl, hcut⟩⟩

/-- A pattern that ends in a star is cut short there. -/
theorem exists_cutAt {given : String} {p : Pattern} (h : parse given = .ok p)
    (hstar : Text.endsWith "*" p.text = true) :
    ∃ closed text tokens first last, CutAt p closed text tokens first last := by
  obtain ⟨start, htext, hplain, hsegments⟩ := exists_chain_of_parse h hstar
  obtain ⟨closed, text, rfl, hclosed, htilde⟩ := Text.exists_open_end '~' start
  rw [List.append_assoc] at hsegments
  obtain ⟨first, second, hfirst, hreads, hsecond⟩ := exists_segmentsOf_append hclosed hsegments
  rw [Text.cutAfter_of_not_mem (by simpa using htilde) (by simp)] at hsecond
  obtain ⟨body, rest, hbody, hrest, rfl⟩ := segmentsOf_cons_eq_ok_iff.1 hsecond
  obtain rfl := Except.ok.inj hrest
  obtain ⟨tokens, htokens, hlength, hwrites⟩ :=
    exists_tokens_of_star (fun hmem => hplain (List.mem_append_right _ hmem)) hbody
  exact ⟨closed, text, tokens, first, _, {
    start := by
      rw [Text.dropLast, String.toList_ofList, htext, ← List.append_assoc, List.dropLast_concat]
    isClosed := hclosed
    tilde_not_mem := htilde
    splits := htokens
    length_le := hlength
    segments_eq := hfirst
    reads := hreads
    writes := hwrites
    isType := by simp }⟩

/-! ## Matching behind a common beginning -/

section Matching

variable {front wanted actual : List Segment}

/-- Full segments that a pattern and a candidate have in common do not decide a match. -/
theorem matchesSegments_append_left (hfull : IsFull front) :
    matchesSegments (front ++ wanted) (front ++ actual) = matchesSegments wanted actual := by
  have hagree : agreeFromFront (front ++ wanted) (front ++ actual) =
      agreeFromFront wanted actual := by
    induction front with
    | nil => rfl
    | cons segment front ih =>
      obtain ⟨hsegment, hfront⟩ := List.forall_mem_cons.1 hfull
      simp [agreeFromFront, hsegment, fullAgrees_refl, ih hfront]
  simp [matchesSegments, hagree]

/-- Where no star is allowed, no segment is cut short. -/
theorem isFull_of_segmentsOf {position offset : Nat} {pieces : List (List Char)}
    {segments : List Segment} (h : segmentsOf false position offset pieces = .ok segments) :
    IsFull segments := by
  have hread := forall₂_of_segmentsOf h
  intro segment hmem
  rw [Bool.eq_false_iff]
  intro hwildcard
  exact star_not_mem_of_forall₂ hread ((exists_isWildcard_iff hread).1 ⟨segment, hmem, hwildcard⟩)

/-- What writes the first fields of a full segment, and is no type, agrees with it. -/
theorem openAgrees_of_front {wanted actual : Segment} {d : Designation} {count : Nat}
    (hwanted : wanted.body = .wildcard (d.front count)) (htype : wanted.isType = false)
    (hactual : actual.body = .full d) : openAgrees wanted actual = true := by
  have hfield {α : Type} [DecidableEq α] (condition : Prop) [Decidable condition] (value : α) :
      fieldAgrees (if condition then some value else none) (some value) = true := by
    rw [fieldAgrees_iff]
    split <;> simp
  simp only [openAgrees, Segment.written, hwanted, hactual, SegmentBody.written, Designation.front,
    hfield, htype]
  simp [fieldAgrees]

end Matching

/-- No segment ends where a pattern is cut short: behind the closed pieces there is nothing, or the
text ends in a point, behind which a token is wanting. -/
theorem CutAt.eq_nil_of_segmentsOf {p : Pattern} {closed text : List Char}
    {tokens : List (List Char)} {first segments : List Segment} {last : Segment}
    (hcut : CutAt p closed text tokens first last) {position offset : Nat}
    (h : segmentsOf false position offset (Text.cutAfter '~' text) = .ok segments) :
    segments = [] := by
  by_cases hnil : text = []
  case pos =>
    subst hnil
    exact (Except.ok.inj h).symm
  case neg =>
    exfalso
    rw [Text.cutAfter_of_not_mem hcut.tilde_not_mem hnil] at h
    obtain ⟨body, rest, hbody, -, -⟩ := segmentsOf_cons_eq_ok_iff.1 h
    obtain ⟨d, -, hspells⟩ := ofPiece_eq_ok_iff.1 hbody
    have hopen : withoutTilde text = text :=
      if_neg fun hlast => hcut.tilde_not_mem (List.mem_of_getLast? hlast)
    rw [hopen, hcut.splits] at hspells
    exact hspells.nil_not_mem (by simp)

/-- A pattern that is cut short matches an identifier that begins with what stands in front of its
star, unless that is the whole identifier. -/
theorem CutAt.matchesIdentifier_iff {p : Pattern} {closed text : List Char}
    {tokens : List (List Char)} {first : List Segment} {last : Segment}
    (hcut : CutAt p closed text tokens first last) {given : String} {id : Identifier}
    (h : Identifier.parse given = .ok id)
    (hstart : (Text.dropLast p.text).toList <+: id.text.toList) :
    p.matchesIdentifier id = true ↔ id.text ≠ Text.dropLast p.text := by
  obtain ⟨-, chain, hchain, -, hsegments⟩ := exists_chain_of_read h
  rw [hcut.start, hchain, List.prefix_append_right_inj] at hstart
  obtain ⟨tail, rfl⟩ := hstart
  have htail : id.text ≠ Text.dropLast p.text ↔ tail ≠ [] := by
    rw [Ne, ← String.toList_inj, hchain, hcut.start]
    simp
  rw [List.append_assoc] at hsegments
  obtain ⟨front, behind, hfront, hreads, hbehind⟩ :=
    exists_segmentsOf_append hcut.isClosed hsegments
  have hfull := isFull_of_segmentsOf hreads
  obtain rfl := Except.ok.inj ((segmentsOf_relaxed hreads).symm.trans hcut.reads)
  rw [htail, matchesIdentifier, hcut.segments_eq, hfront, matchesSegments_append_left hfull]
  by_cases hnil : tail = []
  case pos =>
    subst hnil
    rw [List.append_nil] at hbehind
    obtain rfl := hcut.eq_nil_of_segmentsOf hbehind
    simp [matchesSegments]
  case neg =>
    obtain ⟨segment, rest, d, piece, others, rfl, -, -, -, hbody, hspells⟩ :=
      exists_segment_of_open_end hcut.tilde_not_mem hcut.splits hnil hbehind
    have hlast : last.body = .wildcard (d.front tokens.length) :=
      Except.ok.inj (hcut.writes.symm.trans (ofTokens_star hcut.length_le hspells))
    have hagrees := openAgrees_of_front hlast hcut.isType hbody
    simp [matchesSegments, agreeFromFront, Segment.isWildcard, hlast, SegmentBody.isWildcard,
      hagrees, hnil]

/-! ## Blanks around a pattern -/

/-- The pattern of a text is the pattern of that text without blanks around it. -/
theorem parse_trim {given : String} {p : Pattern} (h : parse given = .ok p) :
    parse (Text.trim given) = .ok p := by
  rw [parse_eq_ok_iff] at h ⊢
  rwa [Text.trim_trim]

/-- A pattern that ends in a star has it where blanks are dropped. -/
theorem star_mem_of_endsWith {given : String} {p : Pattern} (h : parse given = .ok p)
    (hstar : Text.endsWith "*" p.text = true) : '*' ∈ Text.trimBlanks given.toList := by
  obtain ⟨htext, -, -⟩ := forall₂_of_parse h
  rw [Text.endsWith, List.isSuffixOf_iff_suffix, htext, Text.toList_trim] at hstar
  exact hstar.subset (by simp)

/-- In front of the star of a pattern stands no blank. -/
theorem isBlank_of_getLast?_dropLast {raw : List Char} (h : IsPatternText raw)
    (hstar : '*' ∈ raw) {c : Char} (hc : raw.dropLast.getLast? = some c) :
    Text.isBlank c = false := by
  rcases h.star_cases with hnone | ⟨text, last, rfl, -, hlast⟩
  · exact absurd hstar hnone
  · have hdrop : (text ++ [last, '*']).dropLast = text ++ [last] := by
      rw [List.append_cons, List.dropLast_concat]
    rw [hdrop, List.getLast?_concat, Option.some.injEq] at hc
    subst hc
    rcases hlast with rfl | rfl <;> decide

/-- An identifier that begins as the text of a pattern wants begins with what stands in front of the
star. -/
theorem startsWith_of_patternStart {given value : String} {p : Pattern} {id : Identifier}
    (h : parse given = .ok p) (hstar : Text.endsWith "*" p.text = true)
    (hid : Identifier.parse value = .ok id)
    (hlead : Text.startsWith Identifier.lead value = true)
    (hstart : Text.startsWith (patternStart given) value = true) :
    Text.startsWith (Text.dropLast p.text) id.text = true := by
  have hlanguage := isPatternText_of_parse h
  obtain ⟨htext, -, -⟩ := forall₂_of_parse h
  obtain ⟨hidText, -⟩ := exists_chain_of_read hid
  have hmem := star_mem_of_endsWith h hstar
  rw [Text.startsWith, List.isPrefixOf_iff_prefix] at hlead hstart ⊢
  rw [htext, Text.dropLast, String.toList_ofList, hidText, Text.toList_trim, Text.toList_trim]
  refine Text.prefix_trimBlanks hlead ?_ fun c hc => isBlank_of_getLast?_dropLast hlanguage hmem hc
  -- There is no blank in front of the text of the pattern either.
  obtain ⟨behind, hgiven, hbehind⟩ := patternStart_append given
  have hplain : given.toList.dropWhile Text.isBlank = given.toList := by
    rw [hgiven]
    exact Text.dropWhile_isBlank_append hlead hstart (by rcases hbehind with rfl | rfl <;> rfl)
  have htrim := Text.isPrefix_trimBlanks hplain
  have hdrop : (Text.trimBlanks given.toList).dropLast <+: given.toList := by
    refine List.IsPrefix.trans ?_ htrim
    exact List.dropLast_prefix _
  refine (List.prefix_of_prefix_length_le hdrop (hgiven ▸ List.prefix_append _ behind) ?_).trans
    hstart
  have hlength := congrArg List.length hgiven
  have hshort := htrim.length_le
  rw [List.length_append] at hlength
  rw [List.length_dropLast]
  rcases hbehind with rfl | rfl <;> simp only [List.length_nil, List.length_singleton] at hlength <;>
    omega

/-! ## The query of a pattern -/

/-- A pattern with a star is a query without filters. -/
theorem query_of_parse {given : String} {p : Pattern} (h : parse given = .ok p)
    (hstar : Text.endsWith "*" p.text = true) (store : Store) (allow : Bool) (limit : Int) :
    (store.query allow given limit).outcome =
      .ok ((store.selection ⟨p.text, []⟩ p).take (QueryResults.limitFor limit)) := by
  have hlanguage := isPatternText_of_parse h
  obtain ⟨htext, -, -⟩ := forall₂_of_parse h
  have hmem := star_mem_of_endsWith h hstar
  have hbracket : Text.cutAt? '[' given.toList = none := by
    rw [Option.eq_none_iff_forall_ne_some]
    rintro ⟨before, after⟩ hcut
    obtain ⟨hgiven, -⟩ := Text.cutAt?_eq_some hcut
    have hin : '[' ∈ Text.trimBlanks given.toList :=
      Text.mem_trimBlanks (by decide) (by rw [hgiven]; simp)
    rcases hlanguage.chars '[' hin with hchar | hstar
    · revert hchar
      unfold IsIdentifierChar
      decide
    · cases hstar
  have hquery : Query.parse allow given = .ok ⟨p.text, []⟩ := by
    rw [Query.parse, hbracket, htext]
  have hpattern : Query.pattern p.text = .ok p := by
    rw [htext, Query.pattern, if_pos (by simpa using hmem), if_pos ?_, parse_trim h]
    exact hlanguage.endsInWildcard hmem
  simp only [Store.query, hquery, hpattern, Store.collect_entries]

/-- A query without filters selects the entities with content under the identifiers that its pattern
matches. -/
theorem mem_selection {p : Pattern} {id : Identifier} (hmatch : p.matchesIdentifier id = true)
    {store : Store} {entry : String × Entity} (hentry : entry ∈ store.entries)
    (hid : entry.2.id = some id) (hcontent : entry.2.content.isInhabited = true) :
    entry.2.content ∈ store.selection ⟨p.text, []⟩ p := by
  refine List.mem_map.2 ⟨entry, List.mem_filter.2 ⟨hentry, ?_⟩, rfl⟩
  simp [Query.selects, hid, hcontent, hmatch, filtersAccept]

/-! ## The main statement -/

/-- A pattern that ends in a star matches every identifier that begins with what stands in front of
the star, unless that is the whole identifier.  So what is a constraint on identifiers by their
beginnings goes with a query by segments: under an identifier that the check of an instance accepts
for the pattern, other than the bare type in front of the star, the query with the pattern selects
whatever entity with content is held. -/
theorem matching_of_beginning (given : String) (p : Pattern) (h : parse given = .ok p)
    (hstar : Text.endsWith "*" p.text = true) :
    (∀ candidate id, Identifier.parse candidate = .ok id →
      Text.startsWith (Text.dropLast p.text) id.text = true →
      (p.matchesIdentifier id = true ↔ id.text ≠ Text.dropLast p.text) ∧
        accepts given candidate = p.matchesIdentifier id) ∧
    ∀ (lookup : Option Lookup) (members : Json.Members) (path : String) (subject : Json)
      (ref value : String),
      Constrains members subject (.str ref) value →
      constraintPattern (.obj members) ref = .ok given →
      (constrainedValueIssues lookup (.obj members) path subject).value = [] →
      ∃ id, Identifier.parse value = .ok id ∧
        Text.startsWith (Text.dropLast p.text) id.text = true ∧
        (id.text ≠ Text.dropLast p.text →
          ∀ (store : Store) (allow : Bool) (limit : Int),
            (store.query allow given limit).outcome =
              .ok ((store.selection ⟨p.text, []⟩ p).take (QueryResults.limitFor limit)) ∧
            ∀ entry ∈ store.entries, entry.2.id = some id →
              entry.2.content.isInhabited = true →
                entry.2.content ∈ store.selection ⟨p.text, []⟩ p) := by
  obtain ⟨closed, text, tokens, first, last, hcut⟩ := exists_cutAt h hstar
  have hmatch : ∀ candidate id, Identifier.parse candidate = .ok id →
      Text.startsWith (Text.dropLast p.text) id.text = true →
      (p.matchesIdentifier id = true ↔ id.text ≠ Text.dropLast p.text) := by
    intro candidate id hid hstart
    rw [Text.startsWith, List.isPrefixOf_iff_prefix] at hstart
    exact hcut.matchesIdentifier_iff hid hstart
  constructor
  · intro candidate id hid hstart
    exact ⟨hmatch candidate id hid hstart, by rw [accepts, h, hid]⟩
  · intro lookup members path subject ref value hreached hpattern hnone
    obtain ⟨text, pattern, htext, hstands, hvalid, hstart, -⟩ :=
      (constrainedValueIssues_eq_nil_iff lookup members path subject).1 hnone _ _ hreached
    obtain rfl := Json.str.inj htext
    obtain rfl := Except.ok.inj (hpattern.symm.trans hstands)
    obtain ⟨hlead, id, hid⟩ := Identifier.isValid_iff.1 hvalid
    have hbegins := startsWith_of_patternStart h hstar hid hlead hstart
    refine ⟨id, hid, hbegins, fun hlonger store allow limit => ?_⟩
    refine ⟨query_of_parse h hstar store allow limit, fun entry hentry hentryId hcontent => ?_⟩
    exact mem_selection ((hmatch value id hid hbegins).2 hlonger) hentry hentryId hcontent

/-- The pattern of all that is in a namespace. -/
def cartPattern : Pattern where
  text := "gts.acme.shop.cart.*"
  segments := [⟨1, 4, "acme.shop.cart.*", false,
    .wildcard ⟨"acme", "shop", "cart", none, none, none⟩⟩]

/-- A type in this namespace. -/
def giftType : Identifier where
  text := "gts.acme.shop.cart.gift.v1~"
  segments :=
    [⟨1, 4, "acme.shop.cart.gift.v1~", true, .full ⟨"acme", "shop", "cart", "gift", 1, none⟩⟩]

/-- A schema for the type. -/
def giftSchema : Json :=
  .obj [("type", .str "object")]

/-- A store that holds nothing but the type, with a given schema. -/
def giftStore (schema : Json) : Store :=
  (Store.registerSchema {} giftType.text schema).2

/-- The pattern matches the type, which is accepted as an identifier in the namespace and selected by
the query. -/
theorem matching_of_beginning_giftType :
    parse cartPattern.text = .ok cartPattern ∧
    Text.endsWith "*" cartPattern.text = true ∧
    Identifier.parse giftType.text = .ok giftType ∧
    cartPattern.matchesIdentifier giftType = true ∧
    (constrainedValueIssues (some (giftStore giftSchema).lookup?)
      (.obj (constrainedBy cartPattern.text)) "" (.str giftType.text)).value = [] ∧
    giftSchema ∈ (giftStore giftSchema).selection ⟨cartPattern.text, []⟩ cartPattern := by
  have hpattern : parse cartPattern.text = .ok cartPattern := rfl
  have hgift : Identifier.parse giftType.text = .ok giftType := rfl
  have hreached : Constrains (constrainedBy cartPattern.text) (.str giftType.text)
      (.str cartPattern.text) giftType.text := .here rfl
  have hnone : (constrainedValueIssues (some (giftStore giftSchema).lookup?)
      (.obj (constrainedBy cartPattern.text)) "" (.str giftType.text)).value = [] := by
    rw [List.eq_nil_iff_length_eq_zero]
    decide +kernel
  obtain ⟨hmatch, haccepted⟩ := matching_of_beginning _ _ hpattern rfl
  obtain ⟨id, hid, -, hquery⟩ := haccepted _ _ _ _ _ _ hreached rfl hnone
  obtain rfl := Except.ok.inj (hgift.symm.trans hid)
  have hentry : (giftType.text, Store.schemaEntity giftType giftSchema) ∈
      (giftStore giftSchema).entries := List.mem_singleton_self _
  exact ⟨hpattern, rfl, hgift, (hmatch _ _ hgift rfl).1.2 (by decide), hnone,
    (hquery (by decide) (giftStore giftSchema) false 0).2 _ hentry rfl rfl⟩

/-- A type with an empty schema is accepted as well, as one that is held, but a query passes over an
entity without content. -/
theorem query_passes_over_empty_schema :
    parse cartPattern.text = .ok cartPattern ∧
    Text.endsWith "*" cartPattern.text = true ∧
    (constrainedValueIssues (some (giftStore (.obj [])).lookup?)
      (.obj (constrainedBy cartPattern.text)) "" (.str giftType.text)).value = [] ∧
    Identifier.parse giftType.text = .ok giftType ∧
    giftType.text ≠ Text.dropLast cartPattern.text ∧
    (giftStore (.obj [])).lookup? giftType.text = some (Store.schemaEntity giftType (.obj [])) ∧
    ((giftStore (.obj [])).query false cartPattern.text 0).outcome = .ok [] := by
  refine ⟨rfl, rfl, ?_, rfl, by decide, rfl, rfl⟩
  rw [List.eq_nil_iff_length_eq_zero]
  decide +kernel

end TypeRegistry.Pattern
