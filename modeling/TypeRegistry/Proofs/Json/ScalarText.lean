import TypeRegistry.Json.Equality
import TypeRegistry.Proofs.Number.Spelling

/-!
# The texts of scalars

A truth value, `null`, a number that is infinite or undefined: each of these is written as a word,
and a word has a letter that stands in no number.  Integers are written with digits only, and all
other doubles with a point or an exponent.  So the text of a scalar tells which scalar it is, as
long as its doubles are canonical.

Main results:

- Definition `IsScalar`: documents that are neither strings nor have parts.
- Theorem `IsScalar.write_injective`: scalars with one text are the same.
- Theorem `IsScalar.isPlain`: no scalar has a delimiter in its text.
-/

namespace TypeRegistry.Json

/-! ## Characters of numbers -/

/-- Characters that stand in the texts of numbers. -/
def isNumberChar (c : Char) : Bool :=
  c.isDigit || c == '-' || c == '+' || c == '.' || c == 'e'

/-- Characters that stand in the texts of scalars. -/
def isPlain (c : Char) : Bool :=
  isNumberChar c || c.isAlpha

theorem isNumberChar_of_isDigit {c : Char} (h : c.isDigit = true) : isNumberChar c = true := by
  simp [isNumberChar, h]

/-- The text of an integer: its digits, with a sign in front if it is negative. -/
theorem toList_ofInt (n : Int) : (Text.ofInt n).toList =
    (if n < 0 then ['-'] else []) ++ Nat.toDigits 10 n.natAbs := by
  cases n with
  | ofNat n => simp [Text.ofInt, Text.ofNat]
  | negSucc n =>
    simp only [Text.ofInt, Text.ofNat, String.toList_append, if_pos (Int.negSucc_lt_zero n),
      String.toList_ofList]
    rfl

/-- The text of an integer has digits and perhaps a sign. -/
theorem isDigit_of_mem_ofInt {n : Int} {c : Char} (h : c ∈ (Text.ofInt n).toList) :
    c.isDigit = true ∨ c = '-' := by
  rw [toList_ofInt] at h
  rcases List.mem_append.1 h with h | h
  · right
    split at h
    · exact List.mem_singleton.1 h
    · cases h
  · exact .inl (Nat.isDigit_of_mem_toDigits (by decide) (by decide) h)

/-- Integers with one text are the same. -/
theorem ofInt_injective {m n : Int} (h : Text.ofInt m = Text.ofInt n) : m = n := by
  have hlist := congrArg String.toList h
  have hdigit (n : Nat) : (Nat.toDigits 10 n).head? ≠ some '-' := by
    intro hhead
    obtain ⟨rest, hrest⟩ := List.head?_eq_some_iff.1 hhead
    have hminus := Nat.isDigit_of_mem_toDigits (b := 10) (n := n) (c := '-') (by decide) (by decide)
      (by rw [hrest]; exact List.mem_cons_self)
    exact absurd hminus (by decide)
  have habs {m n : Nat} (hdigits : Nat.toDigits 10 m = Nat.toDigits 10 n) : m = n :=
    Text.ofNat_injective (congrArg String.ofList hdigits)
  rw [toList_ofInt, toList_ofInt] at hlist
  by_cases hm : m < 0 <;> by_cases hn : n < 0 <;>
    simp only [hm, hn, if_true, if_false, List.nil_append, List.cons_append] at hlist
  · have := habs (List.cons.inj hlist).2
    omega
  · exact absurd (by rw [← hlist]; rfl) (hdigit n.natAbs)
  · exact absurd (by rw [hlist]; rfl) (hdigit m.natAbs)
  · have := habs hlist
    omega

/-- The text of an exponent has characters of numbers. -/
theorem isNumberChar_of_mem_exponentText {exponent : Int} {c : Char}
    (h : c ∈ (Double.exponentText exponent).toList) : isNumberChar c = true := by
  rw [Double.exponentText, String.toList_append, String.toList_ofList] at h
  rcases List.mem_append.1 h with h | h
  · split at h
    · exact List.all_eq_true.1 (rfl : ['e', '-'].all isNumberChar = true) c h
    · exact List.all_eq_true.1 (rfl : ['e', '+'].all isNumberChar = true) c h
  · exact isNumberChar_of_isDigit (isDigit_of_mem_zeros_append _ _ c h)

namespace IsDecimalText

variable {text : List Char} {q : ℚ}

/-- A decimal text begins with a digit. -/
theorem exists_isDigit (h : IsDecimalText text q) :
    ∃ c rest, text = c :: rest ∧ c.isDigit = true := by
  cases h with
  | intro hwhole _ _ _ =>
    rcases hwhole with rfl | ⟨c, rest, rfl, -, hdigits⟩
    · exact ⟨'0', _, rfl, rfl⟩
    · exact ⟨c, _, rfl, hdigits c List.mem_cons_self⟩

/-- A decimal text has characters of numbers. -/
theorem isNumberChar (h : IsDecimalText text q) : ∀ c ∈ text, isNumberChar c = true := by
  cases h with
  | @intro whole fraction tail hwhole hfraction htail _ =>
    intro c hc
    rcases List.mem_append.1 hc with hc | hc
    · exact isNumberChar_of_isDigit (hwhole.isDigit c hc)
    rcases List.mem_append.1 hc with hc | hc
    · rw [pointed] at hc
      split at hc
      · cases hc
      · rcases List.mem_cons.1 hc with rfl | hc
        · rfl
        · exact isNumberChar_of_isDigit (hfraction c hc)
    · cases htail with
      | none => cases hc
      | exponent exponent => exact isNumberChar_of_mem_exponentText hc

/-- A decimal text has a point or the mark of an exponent. -/
theorem point_or_mark_mem (h : IsDecimalText text q) : '.' ∈ text ∨ 'e' ∈ text := by
  cases h with
  | @intro whole fraction tail _ _ htail hsome =>
    rcases hsome with hfraction | htail'
    · left
      apply List.mem_append_right
      apply List.mem_append_left
      rw [pointed, if_neg (by simpa using hfraction)]
      exact List.mem_cons_self
    · right
      apply List.mem_append_right
      apply List.mem_append_right
      cases htail with
      | none => exact absurd rfl htail'
      | exponent exponent =>
        obtain ⟨rest, hrest⟩ := exists_exponentText_eq exponent
        rw [hrest]
        exact List.mem_cons_self

end IsDecimalText

/-- The text of a canonical finite double is a decimal text, perhaps with a sign in front. -/
theorem exists_isDecimalText_of_finite {negative : Bool} {mantissa : Nat} {exponent : Int}
    (h : (Double.finite negative mantissa exponent).IsCanonical) :
    ∃ q, IsDecimalText (magnitudeText mantissa exponent).toList q := by
  rcases Nat.eq_zero_or_pos mantissa with rfl | hpos
  · exact ⟨0, isDecimalText_zero exponent⟩
  · obtain ⟨q, hq, -⟩ := exists_isDecimalText h hpos
    exact ⟨q, hq⟩

/-- The text of a finite double, character by character. -/
theorem toList_text_finite (negative : Bool) (mantissa : Nat) (exponent : Int) :
    (writeDouble (.finite negative mantissa exponent)).toList =
      (if negative then ['-'] else []) ++ (magnitudeText mantissa exponent).toList := by
  rw [writeDouble, text_finite, String.toList_append]
  · cases negative <;> rfl
  · rintro _ ⟨⟩
  · rintro ⟨⟩

/-! ## Numbers -/

/-- A number that is written with digits: an integer or a finite double. -/
def IsFiniteNumber : Json → Prop
  | .int _ => True
  | .float (.finite _ _ _) => True
  | _ => False

/-- The doubles of a scalar are canonical. -/
def IsCanonicalScalar (value : Json) : Prop :=
  ∀ x, value = .float x → x.IsCanonical

/-- The text of a number that is written with digits has characters of numbers only. -/
theorem IsFiniteNumber.isNumberChar {value : Json} (h : IsFiniteNumber value)
    (hcanonical : IsCanonicalScalar value) (layout : Layout) :
    ∀ c ∈ (value.write layout).toList, isNumberChar c = true := by
  intro c hc
  match value, h with
  | .int n, _ =>
    rw [write] at hc
    rcases isDigit_of_mem_ofInt hc with hc | rfl
    · exact isNumberChar_of_isDigit hc
    · rfl
  | .float (.finite negative mantissa exponent), _ =>
    rw [write, toList_text_finite] at hc
    obtain ⟨q, hq⟩ := exists_isDecimalText_of_finite (hcanonical _ rfl)
    rcases List.mem_append.1 hc with hc | hc
    · split at hc
      · rw [List.mem_singleton.1 hc]
        rfl
      · cases hc
    · exact hq.isNumberChar c hc

/-- Numbers that are written with digits are the same if their texts are. -/
theorem IsFiniteNumber.write_injective {a b : Json} (ha : IsFiniteNumber a) (hb : IsFiniteNumber b)
    (hcanonical : IsCanonicalScalar a) (hcanonical' : IsCanonicalScalar b) {layout : Layout}
    (h : a.write layout = b.write layout) : a = b := by
  -- An integer has neither a point nor an exponent.
  have hmixed {n : Int} {s : Bool} {m : Nat} {e : Int}
      (hx : (Double.finite s m e).IsCanonical) :
      Text.ofInt n ≠ writeDouble (.finite s m e) := by
    intro heq
    obtain ⟨q, hq⟩ := exists_isDecimalText_of_finite hx
    have hlist := congrArg String.toList heq
    rw [toList_text_finite] at hlist
    rcases hq.point_or_mark_mem with hmem | hmem
    all_goals
      have hmem := List.mem_append_right (if s then ['-'] else []) hmem
      rw [← hlist] at hmem
      exact absurd (isDigit_of_mem_ofInt hmem) (by decide)
  match a, b, ha, hb with
  | .int m, .int n, _, _ => rw [ofInt_injective h]
  | .int n, .float (.finite s m e), _, _ => exact absurd h (hmixed (hcanonical' _ rfl))
  | .float (.finite s m e), .int n, _, _ => exact absurd h.symm (hmixed (hcanonical _ rfl))
  | .float (.finite s m d), .float (.finite t n e), _, _ =>
    have hx := hcanonical _ rfl
    have hy := hcanonical' _ rfl
    obtain ⟨q, hq⟩ := exists_isDecimalText_of_finite hx
    obtain ⟨r, hr⟩ := exists_isDecimalText_of_finite hy
    obtain ⟨c, cs, hc, hdigit⟩ := hq.exists_isDigit
    obtain ⟨c', cs', hc', hdigit'⟩ := hr.exists_isDigit
    have hlist := congrArg String.toList h
    rw [write, write, toList_text_finite, toList_text_finite] at hlist
    -- A magnitude begins with a digit, so the signs are the same.
    have hsign : s = t := by
      rw [hc, hc'] at hlist
      cases s <;> cases t
      · rfl
      · obtain rfl := (List.cons.inj hlist).1
        cases hdigit
      · obtain rfl := (List.cons.inj hlist).1
        cases hdigit'
      · rfl
    subst hsign
    have hmagnitude := String.toList_inj.1 (List.append_cancel_left hlist)
    obtain ⟨rfl, rfl⟩ := magnitudeText_injective hx hy hmagnitude
    rfl

/-! ## Words -/

/-- A scalar that is written as a word. -/
inductive IsWord : Json → Prop
  | null : IsWord .null
  | bool (value : Bool) : IsWord (.bool value)
  | infinity (negative : Bool) : IsWord (.float (.infinity negative))
  | nan : IsWord (.float .nan)

/-- The scalar that is written as a word. -/
def scalarOfWord? (word : String) : Option Json :=
  if word = "null" then some .null
  else if word = "true" then some (.bool true)
  else if word = "false" then some (.bool false)
  else if word = "Infinity" then some (.float (.infinity false))
  else if word = "-Infinity" then some (.float (.infinity true))
  else if word = "NaN" then some (.float .nan)
  else none

/-- The word that a scalar is written as stands for it. -/
theorem IsWord.scalarOfWord?_write {value : Json} (h : IsWord value) (layout : Layout) :
    scalarOfWord? (value.write layout) = some value := by
  cases h with
  | null => rfl
  | bool value => cases value <;> rfl
  | infinity negative => cases negative <;> rfl
  | nan => rfl

/-- Words with one text are the same. -/
theorem IsWord.write_injective {a b : Json} (ha : IsWord a) (hb : IsWord b) {layout : Layout}
    (h : a.write layout = b.write layout) : a = b := by
  have hword := ha.scalarOfWord?_write layout
  rw [h, hb.scalarOfWord?_write layout] at hword
  exact (Option.some.inj hword).symm

/-- A word has no delimiter, and a letter that stands in no number. -/
theorem IsWord.isPlain {value : Json} (h : IsWord value) (layout : Layout) :
    (∀ c ∈ (value.write layout).toList, isPlain c = true) ∧
      ∃ c ∈ (value.write layout).toList, isNumberChar c = false := by
  have hwords : ∀ word ∈ ["null", "true", "false", "Infinity", "-Infinity", "NaN"],
      word.toList.all Json.isPlain = true ∧ word.toList.any (!isNumberChar ·) = true := by
    decide
  simp only [List.all_eq_true, List.any_eq_true, Bool.not_eq_true'] at hwords
  apply hwords
  cases h with
  | null => exact List.mem_cons_self
  | bool value => cases value <;> simp [write]
  | infinity negative => cases negative <;> simp [write, writeDouble]
  | nan => simp [write, writeDouble]

/-! ## Scalars -/

/-- A document that is neither a string nor has parts. -/
def IsScalar (value : Json) : Prop :=
  IsFiniteNumber value ∨ IsWord value

/-- No scalar has a delimiter in its text. -/
theorem IsScalar.isPlain {value : Json} (h : IsScalar value)
    (hcanonical : IsCanonicalScalar value) (layout : Layout) :
    ∀ c ∈ (value.write layout).toList, isPlain c = true := by
  intro c hc
  rcases h with h | h
  · rw [Json.isPlain, h.isNumberChar hcanonical layout c hc, Bool.true_or]
  · exact (h.isPlain layout).1 c hc

/-- Scalars with one text are the same. -/
theorem IsScalar.write_injective {a b : Json} (ha : IsScalar a) (hb : IsScalar b)
    (hcanonical : IsCanonicalScalar a) (hcanonical' : IsCanonicalScalar b) {layout : Layout}
    (h : a.write layout = b.write layout) : a = b := by
  have hmixed {a b : Json} (ha : IsFiniteNumber a) (hb : IsWord b)
      (hcanonical : IsCanonicalScalar a) : a.write layout ≠ b.write layout := by
    intro heq
    obtain ⟨c, hc, hnot⟩ := (hb.isPlain layout).2
    rw [← heq] at hc
    rw [ha.isNumberChar hcanonical layout c hc] at hnot
    cases hnot
  rcases ha with ha | ha <;> rcases hb with hb | hb
  · exact ha.write_injective hb hcanonical hcanonical' h
  · exact absurd h (hmixed ha hb hcanonical)
  · exact absurd h.symm (hmixed hb ha hcanonical')
  · exact ha.write_injective hb h

/-- The text of a scalar has a character. -/
theorem IsScalar.toList_ne_nil {value : Json} (h : IsScalar value)
    (hcanonical : IsCanonicalScalar value) (layout : Layout) :
    (value.write layout).toList ≠ [] := by
  rcases h with h | h
  · match value, h with
    | .int n, _ => simp [write, toList_ofInt, Nat.toDigits_ne_nil]
    | .float (.finite negative mantissa exponent), _ =>
      obtain ⟨q, hq⟩ := exists_isDecimalText_of_finite (hcanonical _ rfl)
      obtain ⟨c, rest, hc, -⟩ := hq.exists_isDigit
      rw [write, toList_text_finite, hc]
      simp
  · obtain ⟨c, hc, -⟩ := (h.isPlain layout).2
    exact List.ne_nil_of_mem hc

end TypeRegistry.Json
