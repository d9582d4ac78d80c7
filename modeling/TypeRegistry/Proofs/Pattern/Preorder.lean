import TypeRegistry.Proofs.Pattern.Reading

/-!
# Matching as a preorder

Every pattern matches itself.  A pattern that matches a second one matches what the second one
matches, unless the second one has a star and the first has none: the first then says how many
segments there are and that the last is no type, which the second leaves open.

Main results:

- Theorem `matchesSegments_refl`: patterns match themselves.
- Theorem `matchesSegments_trans`: matching goes on through patterns that are as open.
- Theorem `matchesSegments_iff_of_open`: what a pattern without a star matches of what a pattern
  with a star matches that it matches itself.
- Theorem `matching_preorder`: the three together, for the texts of patterns and identifiers.
- Theorem `matching_not_transitive`: a pattern without a star that matches one with a star need not
  match what that one matches.
-/

namespace TypeRegistry.Pattern

/-! ## Fields -/

section Fields

variable {α : Type} [DecidableEq α] {wanted middle actual : Option α}

theorem fieldAgrees_iff : fieldAgrees wanted actual = true ↔ wanted = none ∨ wanted = actual := by
  simp [fieldAgrees]

@[simp]
theorem fieldAgrees_refl (field : Option α) : fieldAgrees field field = true :=
  fieldAgrees_iff.2 (.inr rfl)

theorem fieldAgrees_trans (h : fieldAgrees wanted middle = true)
    (h' : fieldAgrees middle actual = true) : fieldAgrees wanted actual = true := by
  rw [fieldAgrees_iff] at h h' ⊢
  rcases h with rfl | rfl
  · exact .inl rfl
  · exact h'

end Fields

/-! ## Segments -/

section Segments

variable {wanted middle actual : Segment}

theorem openAgrees_refl (segment : Segment) : openAgrees segment segment = true := by
  simp [openAgrees]

theorem fullAgrees_refl (segment : Segment) : fullAgrees segment segment = true := by
  simp [fullAgrees]

/-- What agrees in full agrees as far as fields are written. -/
theorem openAgrees_of_fullAgrees (h : fullAgrees wanted actual = true) :
    openAgrees wanted actual = true := by
  simp only [fullAgrees, Bool.and_eq_true, beq_iff_eq] at h
  obtain ⟨⟨⟨⟨⟨⟨hvendor, hpackage⟩, hspace⟩, htypeName⟩, hmajor⟩, hminor⟩, htype⟩ := h
  simp [openAgrees, hvendor, hpackage, hspace, htypeName, hmajor, hminor, htype]

theorem openAgrees_trans (h : openAgrees wanted middle = true)
    (h' : openAgrees middle actual = true) : openAgrees wanted actual = true := by
  simp only [openAgrees, Bool.and_eq_true, Bool.or_eq_true, Bool.not_eq_true'] at h h' ⊢
  obtain ⟨⟨⟨⟨⟨⟨hvendor, hpackage⟩, hspace⟩, htypeName⟩, hmajor⟩, hminor⟩, htype⟩ := h
  obtain ⟨⟨⟨⟨⟨⟨hvendor', hpackage'⟩, hspace'⟩, htypeName'⟩, hmajor'⟩, hminor'⟩, htype'⟩ := h'
  refine ⟨⟨⟨⟨⟨⟨fieldAgrees_trans hvendor hvendor', fieldAgrees_trans hpackage hpackage'⟩,
    fieldAgrees_trans hspace hspace'⟩, fieldAgrees_trans htypeName htypeName'⟩,
    fieldAgrees_trans hmajor hmajor'⟩, fieldAgrees_trans hminor hminor'⟩, ?_⟩
  rcases htype with htype | htype
  · exact .inl htype
  · rw [htype] at htype'
    exact .inr (htype'.resolve_left (by simp))

theorem fullAgrees_trans (h : fullAgrees wanted middle = true)
    (h' : fullAgrees middle actual = true) : fullAgrees wanted actual = true := by
  simp only [fullAgrees, Bool.and_eq_true, beq_iff_eq] at h h' ⊢
  obtain ⟨⟨⟨⟨⟨⟨hvendor, hpackage⟩, hspace⟩, htypeName⟩, hmajor⟩, hminor⟩, htype⟩ := h
  obtain ⟨⟨⟨⟨⟨⟨hvendor', hpackage'⟩, hspace'⟩, htypeName'⟩, hmajor'⟩, hminor'⟩, htype'⟩ := h'
  exact ⟨⟨⟨⟨⟨⟨hvendor.trans hvendor', hpackage.trans hpackage'⟩, hspace.trans hspace'⟩,
    htypeName.trans htypeName'⟩, hmajor.trans hmajor'⟩, fieldAgrees_trans hminor hminor'⟩,
    htype.trans htype'⟩

/-- A full segment that agrees with one cut short behind its major version agrees with what that one
agrees with, but for types. -/
theorem fullAgrees_iff_of_open (hfull : wanted.isWildcard = false)
    (hminor : middle.written.minor = none) (hclosed : middle.isType = false)
    (h : fullAgrees wanted middle = true) (h' : openAgrees middle actual = true) :
    fullAgrees wanted actual = true ↔ actual.isType = false := by
  obtain ⟨d, hbody⟩ : ∃ d, wanted.body = .full d := by
    cases hbody : wanted.body with
    | full d => exact ⟨d, rfl⟩
    | wildcard w => simp [Segment.isWildcard, hbody, SegmentBody.isWildcard] at hfull
  have hwritten : wanted.written = SegmentBody.written (.full d) := by rw [Segment.written, hbody]
  simp only [fullAgrees, hwritten, SegmentBody.written, Bool.and_eq_true, beq_iff_eq] at h ⊢
  simp only [openAgrees, Bool.and_eq_true] at h'
  obtain ⟨⟨⟨⟨⟨⟨hvendor, hpackage⟩, hspace⟩, htypeName⟩, hmajor⟩, hless⟩, htype⟩ := h
  obtain ⟨⟨⟨⟨⟨⟨hvendor', hpackage'⟩, hspace'⟩, htypeName'⟩, hmajor'⟩, -⟩, -⟩ := h'
  have hnone : d.minor = none := by
    rw [fieldAgrees_iff, hminor] at hless
    exact hless.elim id id
  rw [← hvendor, fieldAgrees_iff] at hvendor'
  rw [← hpackage, fieldAgrees_iff] at hpackage'
  rw [← hspace, fieldAgrees_iff] at hspace'
  rw [← htypeName, fieldAgrees_iff] at htypeName'
  rw [← hmajor, fieldAgrees_iff] at hmajor'
  simp only [reduceCtorEq, false_or] at hvendor' hpackage' hspace' htypeName' hmajor'
  rw [htype, hclosed, hnone]
  simp [← hvendor', ← hpackage', ← hspace', ← htypeName', ← hmajor', fieldAgrees,
    Bool.beq_eq_decide_eq]

end Segments

/-! ## Chains -/

section Chains

variable {wanted middle actual : List Segment}

/-- Whether no segment is cut short. -/
def IsFull (segments : List Segment) : Prop :=
  ∀ segment ∈ segments, segment.isWildcard = false

theorem agreeFromFront_refl (segments : List Segment) :
    agreeFromFront segments segments = true := by
  induction segments with
  | nil => rfl
  | cons segment rest ih =>
    simp only [agreeFromFront]
    split
    · exact openAgrees_refl segment
    · simp [fullAgrees_refl, ih]

/-- Patterns match themselves. -/
theorem matchesSegments_refl (segments : List Segment) :
    matchesSegments segments segments = true := by
  simp [matchesSegments, agreeFromFront_refl]

/-- Segments that are all full agree with a chain only if it has as many. -/
theorem length_eq_of_agreeFromFront (hfull : IsFull wanted)
    (h : agreeFromFront wanted actual = true) : wanted.length = actual.length := by
  induction wanted generalizing actual with
  | nil =>
    have hactual : actual = [] := by simpa [agreeFromFront] using h
    rw [hactual]
  | cons segment rest ih =>
    cases actual with
    | nil => simp [agreeFromFront] at h
    | cons other others =>
      simp only [agreeFromFront, hfull segment List.mem_cons_self, Bool.false_eq_true, if_false,
        Bool.and_eq_true] at h
      have hrest := ih (fun s hs => hfull s (List.mem_cons_of_mem _ hs)) h.2
      simp [hrest]

/-- Agreement goes on through a chain that is as open as the first: that is cut short too, or is
full. -/
theorem agreeFromFront_trans (hcut : IsCutAtEnd middle) (hlength : wanted.length ≤ middle.length)
    (hopen : ¬ IsFull wanted ∨ IsFull middle) (h : agreeFromFront wanted middle = true)
    (h' : agreeFromFront middle actual = true) : agreeFromFront wanted actual = true := by
  induction wanted generalizing middle actual with
  | nil =>
    have hmiddle : middle = [] := by simpa [agreeFromFront] using h
    rwa [hmiddle] at h'
  | cons first rest ih =>
    rcases middle with _ | ⟨second, seconds⟩
    · simp at hlength
    rcases actual with _ | ⟨third, thirds⟩
    · simp [agreeFromFront] at h'
    by_cases hfirst : first.isWildcard = true
    · -- The first chain ends here, and only the fields that it writes have to be handed on.
      simp only [agreeFromFront, hfirst, if_true] at h ⊢
      by_cases hsecond : second.isWildcard = true
      · simp only [agreeFromFront, hsecond, if_true] at h'
        exact openAgrees_trans h h'
      · simp only [agreeFromFront, hsecond, Bool.false_eq_true, if_false, Bool.and_eq_true] at h'
        exact openAgrees_trans h (openAgrees_of_fullAgrees h'.1)
    · have hfull : first.isWildcard = false := by simpa using hfirst
      simp only [agreeFromFront, hfull, Bool.false_eq_true, if_false, Bool.and_eq_true] at h ⊢
      -- The second chain cannot end before the first: it is cut short at its end only.
      have hsecond : second.isWildcard = false := by
        rcases hopen with hopen | hopen
        · have hrest : rest ≠ [] := by
            rintro rfl
            exact hopen (by simpa [IsFull] using hfull)
          have hseconds : seconds ≠ [] := by
            rintro rfl
            simp only [List.length_cons, List.length_nil] at hlength
            exact hrest (List.length_eq_zero_iff.1 (by omega))
          exact ((isCutAtEnd_cons hseconds).1 hcut).1
        · exact hopen second List.mem_cons_self
      simp only [agreeFromFront, hsecond, Bool.false_eq_true, if_false, Bool.and_eq_true] at h'
      refine ⟨fullAgrees_trans h.1 h'.1, ih ?_ (by simpa using hlength) ?_ h.2 h'.2⟩
      · rcases eq_or_ne seconds [] with rfl | hseconds
        · trivial
        · exact ((isCutAtEnd_cons hseconds).1 hcut).2
      · refine hopen.imp (fun hopen hrest => hopen ?_) fun hopen s hs =>
          hopen s (List.mem_cons_of_mem _ hs)
        exact List.forall_mem_cons.2 ⟨hfull, hrest⟩

/-- Matching goes on through a chain that is as open as the first. -/
theorem matchesSegments_trans (hcut : IsCutAtEnd middle) (hopen : ¬ IsFull wanted ∨ IsFull middle)
    (h : matchesSegments wanted middle = true) (h' : matchesSegments middle actual = true) :
    matchesSegments wanted actual = true := by
  simp only [matchesSegments, Bool.and_eq_true, decide_eq_true_eq] at h h' ⊢
  exact ⟨h.1.trans h'.1, agreeFromFront_trans hcut h.1 hopen h.2 h'.2⟩

/-- A full chain agrees with what one cut short agrees with, which it agrees with itself, exactly if
that has as many segments and does not end in a type. -/
theorem agreeFromFront_iff_of_open (hfull : IsFull wanted) (hcut : IsCutAtEnd middle)
    (hopen : ¬ IsFull middle) (h : agreeFromFront wanted middle = true)
    (h' : agreeFromFront middle actual = true) :
    agreeFromFront wanted actual = true ↔
      actual.length = wanted.length ∧ ∀ last ∈ actual.getLast?, last.isType = false := by
  induction wanted generalizing middle actual with
  | nil =>
    have hmiddle : middle = [] := by simpa [agreeFromFront] using h
    exact absurd (by simp [hmiddle, IsFull]) hopen
  | cons first rest ih =>
    obtain ⟨hfirst, hrest⟩ := List.forall_mem_cons.1 hfull
    rcases middle with _ | ⟨second, seconds⟩
    · simp [agreeFromFront] at h
    rcases actual with _ | ⟨third, thirds⟩
    · simp [agreeFromFront] at h'
    have hlength := length_eq_of_agreeFromFront hfull h
    simp only [agreeFromFront, hfirst, Bool.false_eq_true, if_false, Bool.and_eq_true] at h ⊢
    by_cases hseconds : seconds = []
    · -- Both chains end here, the second in the segment that is cut short.
      subst hseconds
      obtain rfl : rest = [] := by simpa using hlength
      have hsecond : second.isWildcard = true := by
        by_contra hnot
        exact hopen (by simpa [IsFull] using hnot)
      obtain ⟨hclosed, hminor⟩ := hcut hsecond
      simp only [agreeFromFront, hsecond, if_true] at h'
      rw [fullAgrees_iff_of_open hfirst hminor hclosed h.1 h']
      cases thirds with
      | nil => simp [agreeFromFront]
      | cons next nexts => simp [agreeFromFront]
    · obtain ⟨hsecond, hcut⟩ := (isCutAtEnd_cons hseconds).1 hcut
      have hopen : ¬ IsFull seconds := fun hall => hopen (List.forall_mem_cons.2 ⟨hsecond, hall⟩)
      simp only [agreeFromFront, hsecond, Bool.false_eq_true, if_false, Bool.and_eq_true] at h'
      rw [ih hrest hcut hopen h.2 h'.2, and_iff_right (fullAgrees_trans h.1 h'.1)]
      cases thirds with
      | nil =>
        have hrestLength : rest.length = seconds.length := by simpa using hlength
        have hpos := List.length_pos_iff.2 hseconds
        simp only [List.length_nil, List.length_cons]
        constructor
        · rintro ⟨hzero, -⟩
          omega
        · rintro ⟨hone, -⟩
          omega
      | cons next nexts => simp

/-- What a chain without a star matches of what a chain with a star matches that it matches
itself. -/
theorem matchesSegments_iff_of_open (hfull : IsFull wanted) (hcut : IsCutAtEnd middle)
    (hopen : ¬ IsFull middle) (h : matchesSegments wanted middle = true)
    (h' : matchesSegments middle actual = true) :
    matchesSegments wanted actual = true ↔
      actual.length = wanted.length ∧ ∀ last ∈ actual.getLast?, last.isType = false := by
  simp only [matchesSegments, Bool.and_eq_true, decide_eq_true_eq] at h h' ⊢
  rw [agreeFromFront_iff_of_open hfull hcut hopen h.2 h'.2,
    and_iff_right (h.1.trans h'.1)]

end Chains

/-- A pattern without a star has full segments only. -/
theorem isFull_iff_hasWildcard {given : String} {p : Pattern} (h : parse given = .ok p) :
    IsFull p.segments ↔ p.hasWildcard = false := by
  rw [← Bool.not_eq_true, parse_hasWildcard_iff h]
  simp [IsFull]

/-- Matching patterns with candidates, which are identifiers or again patterns, is a preorder where
a star does not meet a pattern without one.

- Every pattern matches itself, and every text of an identifier is the text of a pattern, with the
  same segments, that matches the identifier.
- Of two patterns of which the first matches the second, the first matches every candidate that the
  second matches, if the first has a star or the second has none.
- If the first has no star and the second has one, the first matches those candidates of the second
  that have as many segments as the first and do not end in a type. -/
theorem matching_preorder :
    (∀ given p, parse given = .ok p → p.matchesPattern p = true) ∧
    (∀ given id, Identifier.parse given = .ok id →
      parse given = .ok ⟨id.text, id.segments⟩ ∧
        matchesIdentifier ⟨id.text, id.segments⟩ id = true ∧ accepts given given = true) ∧
    (∀ first second p q, parse first = .ok p → parse second = .ok q →
      p.matchesPattern q = true →
      ∀ candidate : List Segment, matchesSegments q.segments candidate = true →
        (p.hasWildcard = true ∨ q.hasWildcard = false →
          matchesSegments p.segments candidate = true) ∧
        (p.hasWildcard = false → q.hasWildcard = true →
          (matchesSegments p.segments candidate = true ↔
            candidate.length = p.segments.length ∧
              ∀ last ∈ candidate.getLast?, last.isType = false))) := by
  refine ⟨fun _ p _ => matchesSegments_refl p.segments, ?_, ?_⟩
  · intro given id h
    have hpattern := parse_of_identifier h
    have hmatch : matchesIdentifier ⟨id.text, id.segments⟩ id = true :=
      matchesSegments_refl id.segments
    refine ⟨hpattern, hmatch, ?_⟩
    rw [accepts, hpattern, h]
    exact hmatch
  · intro first second p q hp hq hmatch candidate hcandidate
    have hcut := parse_isCutAtEnd hq
    constructor
    · intro hopen
      refine matchesSegments_trans hcut ?_ hmatch hcandidate
      rw [isFull_iff_hasWildcard hp, isFull_iff_hasWildcard hq]
      simpa using hopen
    · intro hfirst hsecond
      refine matchesSegments_iff_of_open ((isFull_iff_hasWildcard hp).2 hfirst) hcut ?_ hmatch
        hcandidate
      rw [isFull_iff_hasWildcard hq]
      simp [hsecond]

/-- A pattern without a star. -/
def itemPattern : Pattern where
  text := "gts.acme.shop.cart.item.v1"
  segments :=
    [⟨1, 4, "acme.shop.cart.item.v1", false, .full ⟨"acme", "shop", "cart", "item", 1, none⟩⟩]

/-- A pattern that is cut short behind the major version. -/
def openItemPattern : Pattern where
  text := "gts.acme.shop.cart.item.v1.*"
  segments := [⟨1, 4, "acme.shop.cart.item.v1.*", false,
    .wildcard ⟨"acme", "shop", "cart", "item", some 1, none⟩⟩]

/-- A type of this name and major version. -/
def itemType : Identifier where
  text := "gts.acme.shop.cart.item.v1~"
  segments :=
    [⟨1, 4, "acme.shop.cart.item.v1~", true, .full ⟨"acme", "shop", "cart", "item", 1, none⟩⟩]

/-- The pattern without a star matches the candidates of the one that is cut short which are one
segment and no type; the one that is cut short matches all that it matches itself. -/
theorem matching_preorder_items :
    (∀ candidate, matchesSegments openItemPattern.segments candidate = true →
      (matchesSegments itemPattern.segments candidate = true ↔
        candidate.length = 1 ∧ ∀ last ∈ candidate.getLast?, last.isType = false)) ∧
    ∀ candidate, matchesSegments itemPattern.segments candidate = true →
      matchesSegments openItemPattern.segments candidate = true := by
  have hitem : parse "gts.acme.shop.cart.item.v1" = .ok itemPattern := rfl
  have hopen : parse "gts.acme.shop.cart.item.v1.*" = .ok openItemPattern := rfl
  obtain ⟨-, -, htrans⟩ := matching_preorder
  constructor
  · intro candidate hcandidate
    exact (htrans _ _ _ _ hitem hopen rfl candidate hcandidate).2 rfl rfl
  · intro candidate hcandidate
    exact (htrans _ _ _ _ hopen hitem rfl candidate hcandidate).1 (.inl rfl)

/-- The pattern without a star matches the one that is cut short, which matches the type; the first
does not match the type. -/
theorem matching_not_transitive :
    parse "gts.acme.shop.cart.item.v1" = .ok itemPattern ∧
    parse "gts.acme.shop.cart.item.v1.*" = .ok openItemPattern ∧
    Identifier.parse "gts.acme.shop.cart.item.v1~" = .ok itemType ∧
    itemPattern.matchesPattern openItemPattern = true ∧
    openItemPattern.matchesIdentifier itemType = true ∧
    itemPattern.matchesIdentifier itemType = false :=
  ⟨rfl, rfl, rfl, rfl, rfl, rfl⟩

end TypeRegistry.Pattern
