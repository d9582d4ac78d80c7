import TypeRegistry.Proofs.Identifier.Beginning
import TypeRegistry.Proofs.Pattern.Language
import TypeRegistry.Proofs.Schema.Constraints

/-!
# The form of a constraint

In a schema a constraint has to be an identifier or a pattern.  The check reads identifiers like
every other part of the registry, but it does not read patterns: whatever begins with the lead and
ends in its only star passes for one.  So it passes over stars glued to a token, malformed tokens in
front of a star and texts that are too long, and it refuses a pattern with blanks behind it, which
are dropped everywhere else.

Main results:

- Definitions `EndsInOnlyStar`, `IsWildcard`: what passes for a pattern with a star, and what is one.
- Theorem `patternCause?_eq_none_iff`: the constraints that pass.
- Theorem `constraintIssues_form`: the check of a schema finds nothing wrong with exactly these, and
  where this differs from the identifiers and patterns.
- Theorem `constraintIssues_gluedStar`: it finds nothing wrong with a star behind half a token.
-/

namespace TypeRegistry

/-! ## Stars -/

/-- A text ends in a star and has no other. -/
def EndsInOnlyStar (ref : String) : Prop :=
  Text.endsWith "*" ref = true ∧ Text.count '*' ref = 1

/-- A text spells a pattern with a star. -/
def IsWildcard (ref : String) : Prop :=
  ∃ p, Pattern.parse ref = .ok p ∧ p.hasWildcard = true

/-- An identifier has no star. -/
theorem star_not_mem_of_isValid {ref : String} (h : Identifier.isValid ref = true) :
    '*' ∉ ref.toList := by
  obtain ⟨-, id, hid⟩ := Identifier.isValid_iff.1 h
  have hstar := star_not_mem_text hid
  rw [(exists_chain_of_read hid).1, Text.toList_trim] at hstar
  exact fun hmem => hstar (Text.mem_trimBlanks (by decide) hmem)

/-- A text that ends in its only star has a star. -/
theorem EndsInOnlyStar.star_mem {ref : String} (h : EndsInOnlyStar ref) : '*' ∈ ref.toList :=
  List.one_le_count_iff.1 h.2.ge

/-- An identifier spells a pattern, but none with a star. -/
theorem not_isWildcard_of_isValid {ref : String} (h : Identifier.isValid ref = true) :
    ¬ IsWildcard ref := by
  obtain ⟨-, id, hid⟩ := Identifier.isValid_iff.1 h
  rintro ⟨p, hp, hwildcard⟩
  obtain rfl := Except.ok.inj ((Pattern.parse_of_identifier hid).symm.trans hp)
  rw [Pattern.hasWildcard, List.contains_iff_mem] at hwildcard
  exact star_not_mem_text hid hwildcard

/-- A text that spells a pattern with a star has no other, and the star ends it once blanks are
dropped. -/
theorem IsWildcard.exists_trimBlanks {ref : String} (h : IsWildcard ref) :
    ∃ start, Text.trimBlanks ref.toList = start ++ ['*'] ∧ '*' ∉ start := by
  obtain ⟨p, hp, hwildcard⟩ := h
  obtain ⟨htext, -, -⟩ := Pattern.forall₂_of_parse hp
  rw [Pattern.hasWildcard, List.contains_iff_mem, htext, Text.toList_trim] at hwildcard
  rcases (Pattern.isPatternText_of_parse hp).star_cases with hnone | ⟨text, c, hraw, htext, -⟩
  · exact absurd hwildcard hnone
  · exact ⟨text ++ [c], by rw [hraw, List.append_cons], htext⟩

/-- A text that ends in its only star spells a pattern with a star if it spells one at all. -/
theorem EndsInOnlyStar.isWildcard {ref : String} {p : Pattern} (h : EndsInOnlyStar ref)
    (hp : Pattern.parse ref = .ok p) : IsWildcard ref := by
  obtain ⟨htext, -, -⟩ := Pattern.forall₂_of_parse hp
  refine ⟨p, hp, ?_⟩
  rw [Pattern.hasWildcard, List.contains_iff_mem, htext, Text.toList_trim]
  exact Text.mem_trimBlanks (by decide) h.star_mem

/-- A text that begins like an identifier and spells a pattern with a star ends in its only star
exactly if no blanks stand around it. -/
theorem IsWildcard.endsInOnlyStar_iff {ref : String} (h : IsWildcard ref)
    (hlead : Text.startsWith Identifier.lead ref = true) :
    EndsInOnlyStar ref ↔ Text.trim ref = ref := by
  obtain ⟨start, hstart, hplain⟩ := h.exists_trimBlanks
  rw [Text.startsWith, List.isPrefixOf_iff_prefix] at hlead
  have htrim := Text.trimBlanks_eq_rdropWhile (Text.dropWhile_isBlank_of_lead hlead)
  constructor
  · rintro ⟨hend, -⟩
    rw [Text.endsWith, List.isSuffixOf_iff_suffix] at hend
    obtain ⟨front, hfront⟩ := hend
    have hkept : ref.toList.rdropWhile Text.isBlank = ref.toList := by
      rw [← hfront]
      exact List.rdropWhile_concat_neg _ _ _ (by decide)
    rw [← String.toList_inj, Text.toList_trim, htrim, hkept]
  · intro hsame
    rw [← String.toList_inj, Text.toList_trim, hstart] at hsame
    refine ⟨?_, ?_⟩
    · rw [Text.endsWith, List.isSuffixOf_iff_suffix, ← hsame]
      exact List.suffix_append _ _
    · rw [Text.count, ← hsame, List.count_append, List.count_eq_zero.2 hplain]
      rfl

/-! ## Constraints that pass -/

/-- Nothing is wrong with a text that begins like an identifier, as a constraint, exactly if it is an
identifier or ends in its only star. -/
theorem patternCause?_eq_none_iff {ref : String} :
    patternCause? ref = none ↔ Identifier.isValid ref = true ∨ EndsInOnlyStar ref := by
  unfold patternCause?
  split
  next hall =>
    subst hall
    exact iff_of_true rfl (.inr ⟨rfl, rfl⟩)
  next =>
    split
    next hcount =>
      have hinvalid : ¬ Identifier.isValid ref = true := fun hvalid =>
        star_not_mem_of_isValid hvalid (List.count_pos_iff.1 hcount)
      rw [or_iff_right hinvalid]
      simp [EndsInOnlyStar]
    next hcount =>
      have hnone : ¬ EndsInOnlyStar ref := fun hends =>
        hcount (List.count_pos_iff.2 hends.star_mem)
      rw [or_iff_left hnone]
      simp

/-- The constraints in a schema are all of one text: there is no issue exactly if nothing is wrong
with it. -/
theorem constraintIssues_eq_nil_iff {root : Json} {path ref : String} {members : Json.Members}
    (hlead : Text.startsWith Identifier.lead ref = true)
    (hmember : (constraintKeyword, .str ref) ∈ members)
    (honly : ∀ entry ∈ occurrencesOf constraintKeyword path members, entry.2 = .str ref) :
    constraintIssues root path (.obj members) = [] ↔ patternCause? ref = none := by
  have hcause : constraintCause? root ref = patternCause? ref := by
    rw [constraintCause?, if_pos hlead]
  rw [constraintIssues, List.filterMap_eq_nil_iff, ← hcause]
  constructor
  · intro hnone
    obtain ⟨text, htext, hwrong⟩ :=
      constraintIssue?_eq_none_iff.1 (hnone _ (mem_occurrencesOf_of_keyword hmember))
    obtain rfl := Json.str.inj htext
    exact hwrong
  · intro hnone entry hentry
    exact constraintIssue?_eq_none_iff.2 ⟨ref, honly entry hentry, hnone⟩

/-! ## The main statement -/

/-- The check of a schema whose constraint is a text that begins like an identifier finds nothing
wrong exactly if the text is an identifier or ends in its only star.  It accepts the identifiers and
the patterns with a star, and nothing else, exactly if the text is neither one that ends in its only
star without being a pattern, nor a pattern with a star and blanks behind it. -/
theorem constraintIssues_form (root : Json) (path ref : String) (members : Json.Members)
    (hlead : Text.startsWith Identifier.lead ref = true)
    (hmember : (constraintKeyword, .str ref) ∈ members)
    (honly : ∀ entry ∈ occurrencesOf constraintKeyword path members, entry.2 = .str ref) :
    (constraintIssues root path (.obj members) = [] ↔
      Identifier.isValid ref = true ∨ EndsInOnlyStar ref) ∧
    ((constraintIssues root path (.obj members) = [] ↔
        Identifier.isValid ref = true ∨ IsWildcard ref) ↔
      ¬ (EndsInOnlyStar ref ∧ ∀ p, Pattern.parse ref ≠ .ok p) ∧
        ¬ (IsWildcard ref ∧ Text.trim ref ≠ ref)) := by
  have hissues : constraintIssues root path (.obj members) = [] ↔
      Identifier.isValid ref = true ∨ EndsInOnlyStar ref :=
    (constraintIssues_eq_nil_iff hlead hmember honly).trans patternCause?_eq_none_iff
  refine ⟨hissues, ?_⟩
  rw [hissues]
  by_cases hvalid : Identifier.isValid ref = true
  case pos =>
    have hends : ¬ EndsInOnlyStar ref := fun h => star_not_mem_of_isValid hvalid h.star_mem
    simp [hvalid, hends, not_isWildcard_of_isValid hvalid]
  case neg =>
    rw [or_iff_right hvalid, or_iff_right hvalid]
    by_cases hends : EndsInOnlyStar ref
    · have hnone : (∀ p, Pattern.parse ref ≠ .ok p) ↔ ¬ IsWildcard ref :=
        ⟨fun hno ⟨p, hp, _⟩ => hno p hp, fun hno p hp => hno (hends.isWildcard hp)⟩
      rw [hnone]
      by_cases hwildcard : IsWildcard ref
      · simp [hends, hwildcard, (hwildcard.endsInOnlyStar_iff hlead).1 hends]
      · simp [hends, hwildcard]
    · by_cases hwildcard : IsWildcard ref
      · have hblank : Text.trim ref ≠ ref := fun hsame =>
          hends ((hwildcard.endsInOnlyStar_iff hlead).2 hsame)
        simp [hends, hwildcard, hblank]
      · simp [hends, hwildcard]

/-- Nothing is wrong with a pattern with a star, which is what the check should accept. -/
theorem constraintIssues_form_cart :
    constraintIssues (.obj (constrainedBy "gts.acme.shop.cart.*")) ""
      (.obj (constrainedBy "gts.acme.shop.cart.*")) = [] ∧
    (constraintIssues (.obj (constrainedBy "gts.acme.shop.cart.*")) ""
        (.obj (constrainedBy "gts.acme.shop.cart.*")) = [] ↔
      Identifier.isValid "gts.acme.shop.cart.*" = true ∨ IsWildcard "gts.acme.shop.cart.*") := by
  have hwildcard : IsWildcard "gts.acme.shop.cart.*" := ⟨_, rfl, rfl⟩
  obtain ⟨hissues, hdiffers⟩ := constraintIssues_form
    (.obj (constrainedBy "gts.acme.shop.cart.*")) "" "gts.acme.shop.cart.*"
    (constrainedBy "gts.acme.shop.cart.*") rfl (by simp [constrainedBy])
    (by simp [constrainedBy, occurrencesOf, occurrencesInValue, constraintKeyword])
  refine ⟨hissues.2 (.inr ⟨rfl, rfl⟩), hdiffers.2 ⟨?_, ?_⟩⟩
  · rintro ⟨-, hnone⟩
    exact hnone _ rfl
  · rintro ⟨-, hblanks⟩
    exact hblanks rfl

/-- Nothing is found wrong with a star that is glued to a token, which makes no pattern; and a pattern
with a blank behind it, which is dropped where patterns are read, is refused. -/
theorem constraintIssues_gluedStar :
    constraintIssues (.obj (constrainedBy "gts.acme*")) "" (.obj (constrainedBy "gts.acme*")) = [] ∧
    Identifier.isValid "gts.acme*" = false ∧
    Pattern.parse "gts.acme*" = .error ⟨"gts.acme*", .misplacedWildcard⟩ ∧
    (constraintIssues (.obj (constrainedBy "gts.acme.* ")) ""
        (.obj (constrainedBy "gts.acme.* "))).map (·.cause) = [.invalidWildcard "gts.acme.* "] ∧
    IsWildcard "gts.acme.* " :=
  ⟨rfl, rfl, rfl, rfl, _, rfl, rfl⟩

end TypeRegistry
