import TypeRegistry.Identifier.Parser
import TypeRegistry.Proofs.Text.Cutting

/-!
# The grammar of segments

A segment is spelled by five or six tokens: four names, a major version behind a `v`, and perhaps a
minor version.  The grammar says which tokens these are without saying how they are read; reading a
piece of a chain as a segment succeeds on the pieces of the grammar and gives what they spell.

Main results:

- Theorems `isName_iff` and `versionNumber?_eq_some_iff`: the tests on tokens decide the grammar of
  names and of numbers.
- Theorem `ofTokens_eq_ok_iff`: tokens without a star are read as a segment exactly if they spell
  it.
- Theorem `ofPiece_eq_ok_iff`: the same for a piece of a chain, where no star is allowed.
-/

namespace TypeRegistry

/-! ## Tokens -/

/-- What may stand behind a name or a number: nothing, or one line break. -/
def IsOptionalBreak (cs : List Char) : Prop :=
  cs = [] ∨ cs = ['\n']

/-- A lower-case letter or an underscore, and then letters, digits and underscores. -/
def IsNameText (cs : List Char) : Prop :=
  ∃ first rest, cs = first :: rest ∧ (first = '_' ∨ 'a' ≤ first ∧ first ≤ 'z') ∧
    ∀ c ∈ rest, c = '_' ∨ 'a' ≤ c ∧ c ≤ 'z' ∨ '0' ≤ c ∧ c ≤ '9'

/-- Zero, or decimal digits of which the first is not zero. -/
def IsNumeral (cs : List Char) : Prop :=
  cs = ['0'] ∨ ∃ first rest, cs = first :: rest ∧ ('1' ≤ first ∧ first ≤ '9') ∧
    ∀ c ∈ rest, '0' ≤ c ∧ c ≤ '9'

/-- A token that is a name, perhaps with a line break behind it. -/
def IsNameToken (token : List Char) : Prop :=
  ∃ name lineBreak, token = name ++ lineBreak ∧ IsNameText name ∧ IsOptionalBreak lineBreak

/-- A token that spells a number, perhaps with a line break behind it. -/
def SpellsNumber (token : List Char) (n : Nat) : Prop :=
  ∃ digits lineBreak, token = digits ++ lineBreak ∧ IsNumeral digits ∧
    IsOptionalBreak lineBreak ∧ n = Nat.ofDigitChars 10 digits 0

/-- The tokens behind the major version spell the minor version, if there is one. -/
def SpellsMinor : List (List Char) → Option Nat → Prop
  | [], minor => minor = none
  | [token], minor => ∃ n, minor = some n ∧ SpellsNumber token n
  | _, _ => False

/-- The tokens of a full segment: the four names as they are written, the major version behind its
mark, and perhaps a minor version. -/
def SpellsDesignation : List (List Char) → Designation → Prop
  | vendor :: package :: space :: typeName :: version :: behind, d =>
    (IsNameToken vendor ∧ d.vendor = String.ofList vendor) ∧
    (IsNameToken package ∧ d.package = String.ofList package) ∧
    (IsNameToken space ∧ d.space = String.ofList space) ∧
    (IsNameToken typeName ∧ d.typeName = String.ofList typeName) ∧
    (∃ digits, version = 'v' :: digits ∧ SpellsNumber digits d.major) ∧
    SpellsMinor behind d.minor
  | _, _ => False

/-! ## The tests on tokens -/

theorem isNameStart_iff {c : Char} :
    isNameStart c = true ↔ c = '_' ∨ 'a' ≤ c ∧ c ≤ 'z' := by
  simp [isNameStart]

theorem isDigit_iff {c : Char} : c.isDigit = true ↔ '0' ≤ c ∧ c ≤ '9' := by
  simp [Char.isDigit, Char.le_def]

theorem isNamePart_iff {c : Char} :
    isNamePart c = true ↔ c = '_' ∨ 'a' ≤ c ∧ c ≤ 'z' ∨ '0' ≤ c ∧ c ≤ '9' := by
  rw [isNamePart, Bool.or_eq_true, isNameStart_iff, isDigit_iff, or_assoc]

/-- A text is a name exactly if it has the form of one. -/
theorem isPlainName_iff {cs : List Char} : isPlainName cs = true ↔ IsNameText cs := by
  cases cs with
  | nil => simp [isPlainName, IsNameText]
  | cons first rest =>
    simp only [isPlainName, IsNameText, Bool.and_eq_true, List.all_eq_true, isNameStart_iff,
      isNamePart_iff, List.cons.injEq]
    constructor
    · rintro ⟨hfirst, hrest⟩
      exact ⟨first, rest, ⟨rfl, rfl⟩, hfirst, hrest⟩
    · rintro ⟨_, _, ⟨rfl, rfl⟩, hfirst, hrest⟩
      exact ⟨hfirst, hrest⟩

/-- A digit other than zero is at least one. -/
theorem one_le_of_ne_zero {c : Char} (hzero : c ≠ '0') (hlow : '0' ≤ c) : '1' ≤ c := by
  have hne : c.toNat ≠ 48 := fun h => hzero (Char.toNat_inj.1 h)
  have hle : 48 ≤ c.toNat := hlow
  show 49 ≤ c.toNat
  omega

/-- A text is a numeral exactly if it has the form of one. -/
theorem isPlainNumber_iff {cs : List Char} : isPlainNumber cs = true ↔ IsNumeral cs := by
  cases cs with
  | nil => simp [isPlainNumber, IsNumeral]
  | cons first rest =>
    simp only [isPlainNumber, IsNumeral, List.cons.injEq]
    by_cases hzero : first = '0'
    · rw [if_pos hzero, List.isEmpty_iff]
      constructor
      · intro hrest
        exact .inl ⟨hzero, hrest⟩
      · rintro (⟨_, hrest⟩ | ⟨_, _, ⟨rfl, rfl⟩, ⟨hone, _⟩, _⟩)
        · exact hrest
        · rw [hzero] at hone
          exact absurd hone (by decide)
    · rw [if_neg hzero, Bool.and_eq_true, List.all_eq_true, isDigit_iff]
      simp only [isDigit_iff]
      constructor
      · rintro ⟨⟨hlow, hhigh⟩, hrest⟩
        exact .inr ⟨first, rest, ⟨rfl, rfl⟩, ⟨one_le_of_ne_zero hzero hlow, hhigh⟩, hrest⟩
      · rintro (⟨h, _⟩ | ⟨_, _, ⟨rfl, rfl⟩, ⟨hone, hnine⟩, hrest⟩)
        · exact absurd h hzero
        · exact ⟨⟨Char.le_trans (by decide) hone, hnine⟩, hrest⟩

/-- A name holds no line break. -/
theorem IsNameText.break_not_mem {cs : List Char} (h : IsNameText cs) : '\n' ∉ cs := by
  obtain ⟨first, rest, rfl, hfirst, hrest⟩ := h
  intro hmem
  rcases List.mem_cons.1 hmem with rfl | hmem
  · exact absurd hfirst (by decide)
  · exact absurd (hrest _ hmem) (by decide)

/-- A numeral holds no line break. -/
theorem IsNumeral.break_not_mem {cs : List Char} (h : IsNumeral cs) : '\n' ∉ cs := by
  rcases h with rfl | ⟨first, rest, rfl, hfirst, hrest⟩
  · decide
  · intro hmem
    rcases List.mem_cons.1 hmem with rfl | hmem
    · exact absurd hfirst (by decide)
    · exact absurd (hrest _ hmem) (by decide)

/-- A text is what it is without its final line break, and perhaps a line break. -/
theorem exists_eq_withoutFinalBreak_append (cs : List Char) :
    ∃ lineBreak, cs = withoutFinalBreak cs ++ lineBreak ∧ IsOptionalBreak lineBreak := by
  unfold withoutFinalBreak
  split
  next h =>
    obtain ⟨front, rfl⟩ := List.getLast?_eq_some_iff.1 h
    exact ⟨['\n'], by simp, .inr rfl⟩
  next => exact ⟨[], by simp, .inl rfl⟩

/-- A line break behind a text that holds none is its final line break. -/
theorem withoutFinalBreak_append {cs lineBreak : List Char} (hcs : '\n' ∉ cs)
    (hbreak : IsOptionalBreak lineBreak) : withoutFinalBreak (cs ++ lineBreak) = cs := by
  unfold withoutFinalBreak
  rcases hbreak with rfl | rfl
  · rw [List.append_nil, if_neg]
    intro hlast
    exact hcs (List.mem_of_getLast? hlast)
  · rw [if_pos (by simp), List.dropLast_concat]

/-- The test on names decides their grammar. -/
theorem isName_iff {token : List Char} : isName token = true ↔ IsNameToken token := by
  rw [isName, isPlainName_iff]
  constructor
  · intro hname
    obtain ⟨lineBreak, htoken, hbreak⟩ := exists_eq_withoutFinalBreak_append token
    exact ⟨withoutFinalBreak token, lineBreak, htoken, hname, hbreak⟩
  · rintro ⟨name, lineBreak, rfl, hname, hbreak⟩
    rwa [withoutFinalBreak_append hname.break_not_mem hbreak]

/-- A version is read exactly if it spells a number, and then as that number. -/
theorem versionNumber?_eq_some_iff {token : List Char} {n : Nat} :
    versionNumber? token = some n ↔ SpellsNumber token n := by
  simp only [versionNumber?, isPlainNumber_iff, Option.ite_none_right_eq_some, Option.some.injEq]
  constructor
  · rintro ⟨hdigits, rfl⟩
    obtain ⟨lineBreak, htoken, hbreak⟩ := exists_eq_withoutFinalBreak_append token
    exact ⟨withoutFinalBreak token, lineBreak, htoken, hdigits, hbreak, rfl⟩
  · rintro ⟨digits, lineBreak, rfl, hdigits, hbreak, rfl⟩
    rw [withoutFinalBreak_append hdigits.break_not_mem hbreak]
    exact ⟨hdigits, rfl⟩

/-! ## Tokens of a segment -/

/-- A star is no name. -/
theorem not_isNameToken_star : ¬ IsNameToken ['*'] := by
  rw [← isName_iff]
  decide

/-- A star spells no number. -/
theorem not_spellsNumber_star (n : Nat) : ¬ SpellsNumber ['*'] n := by
  have hstar : versionNumber? ['*'] = none := by decide
  rw [← versionNumber?_eq_some_iff, hstar]
  simp

/-- A name is taken from the front of tokens, unless a star ends the segment there. -/
theorem takeName_eq_ok_iff {written : OpenDesignation} {token : List Char}
    {rest : List (List Char)} {body : SegmentBody}
    {next : String → List (List Char) → Except SegmentFault SegmentBody} (hstar : token ≠ ['*']) :
    takeName written (token :: rest) next = .ok body ↔
      IsNameToken token ∧ next (String.ofList token) rest = .ok body := by
  simp only [takeName, if_neg hstar]
  by_cases hname : isName token = true
  · simp [hname, isName_iff.1 hname]
  · have htoken : ¬ IsNameToken token := fun h => hname (isName_iff.2 h)
    simp [hname, htoken]

/-- A major version is taken from the front of tokens, unless a star ends the segment there. -/
theorem takeMajor_eq_ok_iff {written : OpenDesignation} {token : List Char}
    {rest : List (List Char)} {body : SegmentBody}
    {next : Nat → List (List Char) → Except SegmentFault SegmentBody} (hstar : token ≠ ['*']) :
    takeMajor written (token :: rest) next = .ok body ↔
      ∃ digits major, token = 'v' :: digits ∧ SpellsNumber digits major ∧
        next major rest = .ok body := by
  simp only [takeMajor, if_neg hstar]
  split
  next digits =>
    cases hmajor : versionNumber? digits with
    | none =>
      simp only [reduceCtorEq, List.cons.injEq, true_and, false_iff, not_exists, not_and]
      rintro _ major rfl hspells
      rw [← versionNumber?_eq_some_iff, hmajor] at hspells
      exact absurd hspells (by simp)
    | some major =>
      constructor
      · intro hnext
        exact ⟨digits, major, rfl, versionNumber?_eq_some_iff.1 hmajor, hnext⟩
      · rintro ⟨_, other, hdigits, hspells, hnext⟩
        obtain rfl := (List.cons.inj hdigits).2
        rw [← versionNumber?_eq_some_iff, hmajor] at hspells
        obtain rfl := Option.some.inj hspells
        exact hnext
  next hmark =>
    simp only [reduceCtorEq, false_iff, not_exists, not_and]
    intro digits _ htoken
    exact absurd htoken (hmark digits)

/-- Five or six tokens without a star are read as a segment exactly if they spell one, and then as
the one that they spell. -/
theorem ofTokens_eq_ok_iff {vendor package space typeName version : List Char}
    {behind : List (List Char)} {body : SegmentBody}
    (hstar : ['*'] ∉ vendor :: package :: space :: typeName :: version :: behind)
    (hlength : behind.length ≤ 1) :
    SegmentBody.ofTokens (vendor :: package :: space :: typeName :: version :: behind) = .ok body ↔
      ∃ d, body = .full d ∧
        SpellsDesignation (vendor :: package :: space :: typeName :: version :: behind) d := by
  simp only [List.mem_cons, not_or] at hstar
  obtain ⟨hvendor, hpackage, hspace, htype, hversion, hbehind⟩ := hstar
  rw [SegmentBody.ofTokens, takeName_eq_ok_iff (Ne.symm hvendor),
    takeName_eq_ok_iff (Ne.symm hpackage), takeName_eq_ok_iff (Ne.symm hspace),
    takeName_eq_ok_iff (Ne.symm htype), takeMajor_eq_ok_iff (Ne.symm hversion)]
  constructor
  · rintro ⟨h1, h2, h3, h4, digits, major, rfl, hmajor, hminor⟩
    rcases behind with _ | ⟨token, _ | ⟨_, _⟩⟩
    · obtain rfl := Except.ok.inj hminor
      exact ⟨_, rfl, ⟨h1, rfl⟩, ⟨h2, rfl⟩, ⟨h3, rfl⟩, ⟨h4, rfl⟩, ⟨digits, rfl, hmajor⟩, rfl⟩
    · rw [List.mem_singleton] at hbehind
      simp only [if_neg (Ne.symm hbehind)] at hminor
      split at hminor
      next minor hspelled =>
        obtain rfl := Except.ok.inj hminor
        exact ⟨_, rfl, ⟨h1, rfl⟩, ⟨h2, rfl⟩, ⟨h3, rfl⟩, ⟨h4, rfl⟩, ⟨digits, rfl, hmajor⟩,
          minor, rfl, versionNumber?_eq_some_iff.1 hspelled⟩
      next => simp at hminor
    · simp at hlength
  · rintro ⟨d, rfl, ⟨h1, e1⟩, ⟨h2, e2⟩, ⟨h3, e3⟩, ⟨h4, e4⟩, ⟨digits, rfl, hmajor⟩, hminor⟩
    refine ⟨h1, h2, h3, h4, digits, d.major, rfl, hmajor, ?_⟩
    rcases behind with _ | ⟨token, _ | ⟨_, _⟩⟩
    · simp only [← e1, ← e2, ← e3, ← e4, Except.ok.injEq, SegmentBody.full.injEq]
      rw [← show d.minor = none from hminor]
    · obtain ⟨minor, hsome, hspelled⟩ := hminor
      rw [List.mem_singleton] at hbehind
      simp only [if_neg (Ne.symm hbehind), versionNumber?_eq_some_iff.2 hspelled, ← e1, ← e2, ← e3,
        ← e4]
      rw [← hsome]
    · simp at hlength

/-- Five tokens or more have a place for each field that a full segment needs. -/
theorem exists_eq_of_five_le {tokens : List (List Char)} (h : 5 ≤ tokens.length) :
    ∃ vendor package space typeName version behind,
      tokens = vendor :: package :: space :: typeName :: version :: behind := by
  rcases tokens with
    _ | ⟨vendor, _ | ⟨package, _ | ⟨space, _ | ⟨typeName, _ | ⟨version, behind⟩⟩⟩⟩⟩
  all_goals try simp at h
  exact ⟨vendor, package, space, typeName, version, behind, rfl⟩

/-- Tokens that spell a segment are five or six. -/
theorem SpellsDesignation.length {tokens : List (List Char)} {d : Designation}
    (h : SpellsDesignation tokens d) : tokens.length = 5 ∨ tokens.length = 6 := by
  rcases tokens with _ | ⟨_, _ | ⟨_, _ | ⟨_, _ | ⟨_, _ | ⟨_, _ | ⟨_, _ | ⟨_, _⟩⟩⟩⟩⟩⟩⟩ <;>
    simp_all [SpellsDesignation, SpellsMinor]

/-- No token of a segment is a star. -/
theorem SpellsDesignation.star_not_mem {tokens : List (List Char)} {d : Designation}
    (h : SpellsDesignation tokens d) : ['*'] ∉ tokens := by
  have hlength := h.length
  obtain ⟨vendor, package, space, typeName, version, behind, rfl⟩ :=
    exists_eq_of_five_le (by omega : 5 ≤ tokens.length)
  obtain ⟨⟨h1, _⟩, ⟨h2, _⟩, ⟨h3, _⟩, ⟨h4, _⟩, ⟨digits, rfl, _⟩, hminor⟩ := h
  have hne {token : List Char} (htoken : IsNameToken token) : ['*'] ≠ token := by
    rintro rfl
    exact not_isNameToken_star htoken
  have hbehind : ['*'] ∉ behind := by
    rcases behind with _ | ⟨token, _ | ⟨_, _⟩⟩
    · simp
    · obtain ⟨n, _, hspelled⟩ := hminor
      rw [List.mem_singleton]
      rintro rfl
      exact not_spellsNumber_star n hspelled
    · exact absurd hminor id
  simp [hne h1, hne h2, hne h3, hne h4, hbehind]

/-- A piece of a chain is read as a segment, no star being allowed, exactly if its tokens spell
one. -/
theorem ofPiece_eq_ok_iff {piece : List Char} {body : SegmentBody} :
    SegmentBody.ofPiece false piece = .ok body ↔
      ∃ d, body = .full d ∧ SpellsDesignation (Text.splitOn '.' (withoutTilde piece)) d := by
  simp only [SegmentBody.ofPiece, Bool.not_false, Bool.and_true, Bool.false_and,
    decide_eq_true_eq, Bool.true_and]
  generalize Text.splitOn '.' (withoutTilde piece) = tokens
  by_cases hlength : tokens.length = 5 ∨ tokens.length = 6
  · obtain ⟨vendor, package, space, typeName, version, behind, rfl⟩ :=
      exists_eq_of_five_le (by omega : 5 ≤ tokens.length)
    have hbehind : behind.length ≤ 1 := by
      simp only [List.length_cons] at hlength
      omega
    rw [if_neg (by omega)]
    by_cases hstar : ['*'] ∈ vendor :: package :: space :: typeName :: version :: behind
    · rw [if_pos (by simpa using hstar)]
      simp only [reduceCtorEq, false_iff, not_exists, not_and]
      intro d _ hspells
      exact hspells.star_not_mem hstar
    · rw [if_neg (by simpa using hstar), if_neg (by omega)]
      exact ofTokens_eq_ok_iff hstar hbehind
  · constructor
    · intro hread
      split at hread
      · simp at hread
      · split at hread
        · simp at hread
        · rw [if_pos (by omega)] at hread
          simp at hread
    · rintro ⟨d, _, hspells⟩
      exact absurd hspells.length hlength

end TypeRegistry
