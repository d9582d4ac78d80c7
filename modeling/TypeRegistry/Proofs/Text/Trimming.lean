import Mathlib.Algebra.Group.Nat.Defs
import TypeRegistry.Proofs.Identifier.Beginning
import TypeRegistry.Text.Digit

/-!
# Trimmed texts

What is trimmed off a text stands at its ends.  So a text between characters of a class that does
not begin or end in one itself is what is left once these are dropped, and the decimal digits of a
number have nothing around them that could be lost when the number is read again.

Main results:

- Theorem `trimWhere_append`: what stands around a text is dropped, and nothing else.
- Theorems `isBlank_of_head?_trimBlanks`, `isBlank_of_getLast?_trimBlanks`: no blank is left at
  either end.
- Theorem `wholeNumber?_ofNat`: a number is read back from its decimal digits.
-/

namespace TypeRegistry.Text

/-! ## What is dropped -/

/-- Of a text between characters of a class the text is left, unless it begins or ends in one of
them itself. -/
theorem trimWhere_append {drop : Char → Bool} {front text behind : List Char}
    (hfront : ∀ c ∈ front, drop c = true) (hbehind : ∀ c ∈ behind, drop c = true)
    (hhead : ∀ c ∈ text.head?, drop c = false) (hlast : ∀ c ∈ text.getLast?, drop c = false) :
    trimWhere drop (front ++ text ++ behind) = text := by
  rw [trimWhere, List.append_assoc, List.dropWhile_append_of_pos hfront]
  cases text with
  | nil =>
    rw [List.nil_append, List.dropWhile_eq_nil_iff.2 hbehind]
    rfl
  | cons c rest =>
    have hc : drop c = false := hhead c rfl
    have hreversed : ∀ d ∈ (c :: rest).reverse.head?, drop d = false := by
      rwa [List.head?_reverse]
    rw [List.cons_append, List.dropWhile_cons_of_neg (by simp [hc]), ← List.cons_append,
      List.reverse_append,
      List.dropWhile_append_of_pos fun d hd => hbehind d (List.mem_reverse.1 hd)]
    have hkept : (c :: rest).reverse.dropWhile drop = (c :: rest).reverse := by
      rw [List.dropWhile_eq_self_iff]
      intro hlength
      have hd := hreversed _ (List.head?_eq_getElem? ▸ List.getElem?_eq_getElem hlength)
      simpa using hd
    rw [hkept, List.reverse_reverse]

/-- A text that neither begins nor ends in a character of a class has none to lose. -/
theorem trimWhere_eq_self {drop : Char → Bool} {text : List Char}
    (hhead : ∀ c ∈ text.head?, drop c = false) (hlast : ∀ c ∈ text.getLast?, drop c = false) :
    trimWhere drop text = text := by
  have h := trimWhere_append (List.forall_mem_nil (drop · = true))
    (List.forall_mem_nil (drop · = true)) hhead hlast
  rwa [List.nil_append, List.append_nil] at h

/-- A character of the class before a text is dropped. -/
theorem trimWhere_cons {drop : Char → Bool} {c : Char} (h : drop c = true) (text : List Char) :
    trimWhere drop (c :: text) = trimWhere drop text := by
  rw [trimWhere, trimWhere, List.dropWhile_cons_of_pos h]

/-- No character is dropped that is not blank, and none comes in. -/
theorem mem_trimBlanks_iff {cs : List Char} {c : Char} (hc : isBlank c = false) :
    c ∈ trimBlanks cs ↔ c ∈ cs := by
  refine ⟨fun h => ?_, mem_trimBlanks hc⟩
  rw [trimBlanks, trimWhere, List.mem_reverse] at h
  exact (List.dropWhile_sublist _).subset
    (List.mem_reverse.1 ((List.dropWhile_sublist _).subset h))

/-- No blank stands at the beginning of a text whose blanks are dropped. -/
theorem isBlank_of_head?_trimBlanks {cs : List Char} {c : Char}
    (h : (trimBlanks cs).head? = some c) : isBlank c = false := by
  have hends : trimBlanks cs = (cs.dropWhile isBlank).rdropWhile isBlank := rfl
  have hkept := dropWhile_rdropWhile (List.dropWhile_idempotent isBlank cs)
  rw [← hends] at hkept
  obtain ⟨rest, hrest⟩ := List.head?_eq_some_iff.1 h
  rw [hrest, List.dropWhile_eq_self_iff] at hkept
  exact Bool.eq_false_iff.2 (hkept (by simp))

/-! ## Numbers between blanks -/

/-- A decimal digit is no white space. -/
theorem isWhiteSpace_of_isDigit {c : Char} (h : c.isDigit = true) : isWhiteSpace c = false := by
  have hcode : 48 ≤ c.toNat ∧ c.toNat ≤ 57 := by
    simpa [Char.isDigit, UInt32.le_iff_toNat_le] using h
  simp only [isWhiteSpace, Bool.or_eq_false_iff, Bool.and_eq_false_iff, decide_eq_false_iff_not,
    beq_eq_false_iff_ne]
  omega

/-- Digits are read onto the value so far. -/
theorem readDigits_of_isDigit {digits : List Char} (h : ∀ c ∈ digits, c.isDigit = true)
    (value : Nat) (afterDigit : Bool) (hsome : afterDigit = true ∨ digits ≠ []) :
    readDigits value afterDigit digits = some (Nat.ofDigitChars 10 digits value) := by
  induction digits generalizing value afterDigit with
  | nil =>
    obtain rfl : afterDigit = true := hsome.resolve_right (by simp)
    rfl
  | cons c rest ih =>
    obtain ⟨hc, hrest⟩ := List.forall_mem_cons.1 h
    have hcode : 48 ≤ c.toNat ∧ c.toNat ≤ 57 := by
      simpa [Char.isDigit, UInt32.le_iff_toNat_le] using hc
    have hscore : c ≠ '_' := by
      rintro rfl
      exact absurd hc (by decide)
    have hdigit : digitValue? c = some (c.toNat - '0'.toNat) := by
      rw [digitValue?, if_pos (by omega), if_pos hc]
      rfl
    rw [readDigits, if_neg hscore, hdigit, Nat.ofDigitChars_cons]
    exact ih hrest _ true (.inl rfl)

/-- A number that does not have too many digits is read back from them. -/
theorem wholeNumber?_ofNat {n : Nat} (h : n < 10 ^ digitLimit) :
    wholeNumber? (ofNat n) = some (n : Int) := by
  have hdigits : ∀ c ∈ Nat.toDigits 10 n, c.isDigit = true := by
    intro c hc
    exact Nat.isDigit_of_mem_toDigits (by decide) (by decide) hc
  have htrim : trimWhere isWhiteSpace (ofNat n).toList = Nat.toDigits 10 n := by
    rw [ofNat, String.toList_ofList]
    apply trimWhere_eq_self
    · exact fun c hc => isWhiteSpace_of_isDigit (hdigits c (List.mem_of_mem_head? hc))
    · exact fun c hc => isWhiteSpace_of_isDigit (hdigits c (List.mem_of_mem_getLast? hc))
  have hfew : ((Nat.toDigits 10 n).filter (· ≠ '_')).length ≤ digitLimit := by
    refine (List.length_filter_le _ _).trans ?_
    exact (Nat.length_toDigits_le_iff (by decide) (by decide)).2 h
  have hread : readDigits 0 false (Nat.toDigits 10 n) = some n := by
    rw [readDigits_of_isDigit hdigits 0 false (.inr Nat.toDigits_ne_nil),
      Nat.ofDigitChars_ten_toDigits]
  have hsign (sign : Char) (hsign : sign.isDigit = false) (rest : List Char) :
      Nat.toDigits 10 n ≠ sign :: rest := by
    intro heq
    rw [hdigits sign (heq ▸ List.mem_cons_self)] at hsign
    cases hsign
  have hhead : (Nat.toDigits 10 n).head? ≠ some '-' := by
    intro hhead
    obtain ⟨rest, hrest⟩ := List.head?_eq_some_iff.1 hhead
    exact hsign '-' (by decide) rest hrest
  rw [wholeNumber?, htrim]
  split
  next rest heq => exact absurd heq (hsign '+' (by decide) rest)
  next rest heq => exact absurd heq (hsign '-' (by decide) rest)
  next =>
    rw [if_pos hfew, hread]
    exact congrArg some (if_neg hhead)

end TypeRegistry.Text
