import Mathlib.Data.List.TakeWhile
import TypeRegistry.Json.Reader
import TypeRegistry.Json.Writer
import TypeRegistry.Proofs.Number.Interval

/-!
# What the text of a double spells

The text of a number is taken apart as it is read: the digits in front of the point, those behind
it, and the exponent.  Whatever the layout, the text of a double spells the decimal that was found
for it, and so a decimal that rounds to the double.  Two doubles with one text are therefore the
same double; only the sign keeps the two zeros apart.

Main results:

- Definition `spelledDecimal`: the decimal that the text of a number spells.
- Theorem `IsDecimalText.unique`: a text of digits with a point or an exponent spells one decimal.
- Theorem `isDecimalText_layOut`: every layout of digits spells the same decimal.
- Theorem `exists_isDecimalText`: what a double is written with rounds to it.
- Theorem `magnitudeText_injective`: canonical doubles with one text are the same but for the sign.
-/

namespace TypeRegistry

namespace Text

/-- Decimal digits spell the number that they are the digits of. -/
theorem digitsValue_ten {digits : List Char} (h : ∀ c ∈ digits, c.isDigit = true) :
    digitsValue 10 digits = Nat.ofDigitChars 10 digits 0 := by
  have hfold (start : Nat) : digits.foldl (fun value c => 10 * value + (hexDigit? c).getD 0) start =
      Nat.ofDigitChars 10 digits start := by
    induction digits generalizing start with
    | nil => rfl
    | cons c rest ih =>
      obtain ⟨hc, hrest⟩ := List.forall_mem_cons.1 h
      rw [List.foldl_cons, ih hrest, hexDigit?, if_pos hc, Nat.ofDigitChars_cons]
      rfl
  exact hfold 0

end Text

namespace Json

/-! ## Parts of a number -/

/-- Digits in front of a number: a zero, or digits that begin with another one. -/
def IsWholeText (whole : List Char) : Prop :=
  whole = ['0'] ∨ ∃ c rest, whole = c :: rest ∧ c ≠ '0' ∧ ∀ d ∈ whole, d.isDigit = true

/-- A text goes on with no digit. -/
def EndsDigits (rest : List Char) : Prop :=
  ∀ c ∈ rest.head?, c.isDigit = false

/-- Digits reach as far as the text goes on with digits. -/
theorem spanDigits_append {digits rest : List Char} (h : ∀ c ∈ digits, c.isDigit = true)
    (hrest : EndsDigits rest) : spanDigits (digits ++ rest) = (digits, rest) := by
  rw [spanDigits, List.takeWhile_append_of_pos h, List.dropWhile_append_of_pos h]
  cases rest with
  | nil => simp
  | cons c rest =>
    have hc : c.isDigit = false := hrest c rfl
    simp [hc]

theorem wholePart_append {whole rest : List Char} (h : IsWholeText whole)
    (hrest : EndsDigits rest) : wholePart (whole ++ rest) = (whole, rest) := by
  rcases h with rfl | ⟨c, others, rfl, hc, hdigits⟩
  · rfl
  · rw [← spanDigits_append hdigits hrest, List.cons_append, wholePart]
    rintro - ⟨rfl, -⟩
    exact hc rfl

theorem fractionPart_point {fraction rest : List Char} (h : ∀ c ∈ fraction, c.isDigit = true)
    (hne : fraction ≠ []) (hrest : EndsDigits rest) :
    fractionPart ('.' :: (fraction ++ rest)) = (fraction, rest) := by
  simp only [fractionPart, spanDigits_append h hrest, List.isEmpty_iff, if_neg hne]

/-- Zeros in front of digits do not count. -/
theorem ofDigitChars_zeros (zeros : Nat) (digits : List Char) :
    Nat.ofDigitChars 10 (List.replicate zeros '0' ++ digits) 0 =
      Nat.ofDigitChars 10 digits 0 := by
  rw [Nat.ofDigitChars_append, Nat.ofDigitChars_replicate_zero, Nat.mul_zero]

/-- Zeros and decimal digits are digits. -/
theorem isDigit_of_mem_zeros_append (zeros n : Nat) :
    ∀ c ∈ List.replicate zeros '0' ++ Nat.toDigits 10 n, c.isDigit = true := by
  intro c h
  rcases List.mem_append.1 h with h | h
  · rw [List.eq_of_mem_replicate h]
    rfl
  · exact Nat.isDigit_of_mem_toDigits (by decide) (by decide) h

/-- The text of an exponent is read as the exponent. -/
theorem exponentPart_exponentText (exponent : Int) :
    exponentPart (Double.exponentText exponent).toList = (some exponent, []) := by
  have hdigits (zeros n : Nat) :
      spanDigits (List.replicate zeros '0' ++ Nat.toDigits 10 n) =
        (List.replicate zeros '0' ++ Nat.toDigits 10 n, []) := by
    have hend : EndsDigits [] := fun c hc => nomatch hc
    have hspan := spanDigits_append (isDigit_of_mem_zeros_append zeros n) hend
    rwa [List.append_nil] at hspan
  have hvalue (zeros n : Nat) :
      Text.digitsValue 10 (List.replicate zeros '0' ++ Nat.toDigits 10 n) = n := by
    rw [Text.digitsValue_ten (isDigit_of_mem_zeros_append zeros n), ofDigitChars_zeros,
      Nat.ofDigitChars_ten_toDigits]
  have hsome (zeros n : Nat) : (List.replicate zeros '0' ++ Nat.toDigits 10 n).isEmpty = false := by
    simp [Nat.toDigits_ne_nil]
  rw [Double.exponentText]
  by_cases hneg : exponent < 0
  · have hminus : "e-".toList = ['e', '-'] := rfl
    simp only [if_pos hneg, String.toList_append, String.toList_ofList, hminus, List.cons_append,
      List.nil_append, exponentPart, exponentSign, hdigits, hsome, hvalue]
    simp [abs_of_neg hneg]
  · have hplus : "e+".toList = ['e', '+'] := rfl
    simp only [if_neg hneg, String.toList_append, String.toList_ofList, hplus, List.cons_append,
      List.nil_append, exponentPart, exponentSign, hdigits, hsome, hvalue]
    simp [abs_of_nonneg (not_lt.1 hneg)]

/-! ## Decimals -/

/-- The decimal that the text of a number without a sign spells. -/
def spelledDecimal (cs : List Char) : ℚ :=
  let (whole, afterWhole) := wholePart cs
  let (fraction, afterFraction) := fractionPart afterWhole
  Double.decimal (Text.digitsValue 10 (whole ++ fraction))
    ((exponentPart afterFraction).1.getD 0 - fraction.length)

/-- A fraction with its point, if there is one. -/
def pointed (fraction : List Char) : List Char :=
  if fraction.isEmpty then [] else '.' :: fraction

/-- What stands behind the digits of a number: nothing or an exponent. -/
inductive IsTail : List Char → Prop
  | none : IsTail []
  | exponent (exponent : Int) : IsTail (Double.exponentText exponent).toList

/-- An exponent begins with its mark. -/
theorem exists_exponentText_eq (exponent : Int) :
    ∃ rest, (Double.exponentText exponent).toList = 'e' :: rest := by
  rw [Double.exponentText]
  split <;> exact ⟨_, by simp; rfl⟩

/-- Behind a tail the digits of a number do not go on. -/
theorem IsTail.endsDigits {tail : List Char} (h : IsTail tail) : EndsDigits tail := by
  cases h with
  | none => exact fun c hc => nomatch hc
  | exponent exponent =>
    obtain ⟨rest, hrest⟩ := exists_exponentText_eq exponent
    intro c hc
    rw [hrest] at hc
    obtain rfl := Option.some.inj hc
    rfl

/-- A fraction is read to its end. -/
theorem fractionPart_pointed {fraction tail : List Char} (h : ∀ c ∈ fraction, c.isDigit = true)
    (htail : IsTail tail) : fractionPart (pointed fraction ++ tail) = (fraction, tail) := by
  cases fraction with
  | nil =>
    cases htail with
    | none => rfl
    | exponent exponent =>
      obtain ⟨rest, hrest⟩ := exists_exponentText_eq exponent
      rw [hrest]
      rfl
  | cons c rest => exact fractionPart_point h (List.cons_ne_nil c rest) htail.endsDigits

/-- A text of digits with a point or an exponent or both, and the decimal that its digits are in
units of the last one. -/
inductive IsDecimalText : List Char → ℚ → Prop
  | intro {whole fraction tail : List Char} (hwhole : IsWholeText whole)
      (hfraction : ∀ c ∈ fraction, c.isDigit = true) (htail : IsTail tail)
      (hsome : fraction ≠ [] ∨ tail ≠ []) :
      IsDecimalText (whole ++ (pointed fraction ++ tail))
        (Double.decimal (Nat.ofDigitChars 10 (whole ++ fraction) 0)
          ((exponentPart tail).1.getD 0 - fraction.length))

/-- The whole part of a number has digits only. -/
theorem IsWholeText.isDigit {whole : List Char} (h : IsWholeText whole) :
    ∀ c ∈ whole, c.isDigit = true := by
  rcases h with rfl | ⟨-, -, -, -, hdigits⟩
  · exact List.all_eq_true.1 rfl
  · exact hdigits

/-- The decimal of a text is the one that is read from it. -/
theorem IsDecimalText.spelledDecimal_eq {text : List Char} {q : ℚ} (h : IsDecimalText text q) :
    spelledDecimal text = q := by
  obtain @⟨whole, fraction, tail, hwhole, hfraction, htail, -⟩ := h
  have hpoint : EndsDigits (pointed fraction ++ tail) := by
    rw [pointed]
    split
    · exact htail.endsDigits
    · intro c hc
      obtain rfl := Option.some.inj hc
      rfl
  have hdigits : ∀ c ∈ whole ++ fraction, c.isDigit = true := by
    intro c hc
    exact (List.mem_append.1 hc).elim (hwhole.isDigit c) (hfraction c)
  simp only [spelledDecimal, wholePart_append hwhole hpoint, fractionPart_pointed hfraction htail,
    Text.digitsValue_ten hdigits]

/-- A text spells one decimal. -/
theorem IsDecimalText.unique {text : List Char} {q r : ℚ} (hq : IsDecimalText text q)
    (hr : IsDecimalText text r) : q = r :=
  hq.spelledDecimal_eq.symm.trans hr.spelledDecimal_eq

/-! ## Layouts -/

/-- Digits that begin with another one than zero. -/
structure IsNumeralText (digits : List Char) : Prop where
  head : ∃ c rest, digits = c :: rest ∧ c ≠ '0'
  isDigit : ∀ c ∈ digits, c.isDigit = true

/-- A beginning of digits that begin with another one than zero is a whole part, also with zeros
behind it. -/
theorem IsNumeralText.whole {digits : List Char} (h : IsNumeralText digits) {count : Nat}
    (hcount : 0 < count) (zeros : Nat) :
    IsWholeText (digits.take count ++ List.replicate zeros '0') := by
  obtain ⟨⟨c, rest, rfl, hc⟩, hdigits⟩ := h
  obtain ⟨count, rfl⟩ := Nat.exists_eq_succ_of_ne_zero hcount.ne'
  refine .inr ⟨c, rest.take count ++ List.replicate zeros '0', rfl, hc, fun d hd => ?_⟩
  rcases List.mem_append.1 hd with hd | hd
  · exact hdigits d (List.mem_of_mem_take hd)
  · rw [List.eq_of_mem_replicate hd]
    rfl

/-- In decimals a power of ten may stand with the digits or with the place. -/
theorem decimal_mul_pow (digits count : Nat) (place : Int) :
    Double.decimal (10 ^ count * digits) place = Double.decimal digits (place + count) := by
  rw [Double.decimal, Double.decimal, zpow_add₀ (by norm_num), zpow_natCast]
  push_cast
  ring

/-- A point in front of the digits, with zeros between. -/
theorem isDecimalText_layOut_small {digits : List Char} (h : IsNumeralText digits) {zeros : Nat}
    (hzeros : zeros < 4) : IsDecimalText (Double.layOut digits (-zeros)).toList
      (Double.decimal (Nat.ofDigitChars 10 digits 0) (-zeros - digits.length)) := by
  have hfraction : ∀ c ∈ List.replicate zeros '0' ++ digits, c.isDigit = true := by
    intro c hc
    rcases List.mem_append.1 hc with hc | hc
    · rw [List.eq_of_mem_replicate hc]
      rfl
    · exact h.isDigit c hc
  have hsome : (List.replicate zeros '0' ++ digits).isEmpty = false := by
    obtain ⟨c, rest, rfl, -⟩ := h.head
    simp
  have hlist : (Double.layOut digits (-zeros)).toList =
      ['0'] ++ (pointed (List.replicate zeros '0' ++ digits) ++ []) := by
    rw [Double.layOut, if_pos (by omega), if_pos (by omega), pointed, hsome]
    simp [neg_neg]
  have hvalue : Nat.ofDigitChars 10 (['0'] ++ (List.replicate zeros '0' ++ digits)) 0 =
      Nat.ofDigitChars 10 digits 0 :=
    ofDigitChars_zeros (zeros + 1) digits
  have hplace : (exponentPart []).1.getD 0 - ((List.replicate zeros '0' ++ digits).length : Int) =
      -zeros - digits.length := by
    simp [exponentPart]
    omega
  rw [hlist, ← hvalue, ← hplace]
  exact .intro (.inl rfl) hfraction .none (.inl (by simpa using hsome))

/-- A point behind some of the digits, or behind them all with zeros between. -/
theorem isDecimalText_layOut_medium {digits : List Char} (h : IsNumeralText digits) {count : Nat}
    (hpos : 0 < count) (hcount : count ≤ 16) :
    IsDecimalText (Double.layOut digits count).toList
      (Double.decimal (Nat.ofDigitChars 10 digits 0) (count - digits.length)) := by
  have hwhole := h.whole hpos (count - digits.length)
  by_cases hlength : digits.length ≤ count
  · have hlist : (Double.layOut digits count).toList =
        digits.take count ++ List.replicate (count - digits.length) '0' ++
          (pointed ['0'] ++ []) := by
      rw [Double.layOut, if_pos (by omega), if_neg (by omega)]
      simp [pointed, List.drop_eq_nil_of_le hlength]
    have hvalue : Double.decimal (Nat.ofDigitChars 10 (digits.take count ++
        List.replicate (count - digits.length) '0' ++ ['0']) 0)
        ((exponentPart []).1.getD 0 - ((['0'].length : Nat) : Int)) =
          Double.decimal (Nat.ofDigitChars 10 digits 0) (count - digits.length) := by
      rw [List.take_of_length_le hlength, List.append_assoc, ← List.replicate_succ',
        Nat.ofDigitChars_append, Nat.ofDigitChars_replicate_zero, decimal_mul_pow]
      congr 1
      simp [exponentPart]
      omega
    rw [hlist, ← hvalue]
    exact .intro hwhole (List.all_eq_true.1 rfl) .none (.inl (by simp))
  · have hsome : digits.drop count ≠ [] := by
      rwa [ne_eq, List.drop_eq_nil_iff]
    have hlist : (Double.layOut digits count).toList =
        digits.take count ++ List.replicate (count - digits.length) '0' ++
          (pointed (digits.drop count) ++ []) := by
      rw [Double.layOut, if_pos (by omega), if_neg (by omega)]
      simp [pointed, List.isEmpty_eq_false_iff.2 hsome]
    have hdigits : digits.take count ++ List.replicate (count - digits.length) '0' ++
        digits.drop count = digits := by
      rw [Nat.sub_eq_zero_of_le (by omega), List.replicate_zero, List.append_nil,
        List.take_append_drop]
    have hplace : (exponentPart []).1.getD 0 - ((digits.drop count).length : Int) =
        count - digits.length := by
      simp [exponentPart]
      omega
    have htext := IsDecimalText.intro hwhole
      (fun c hc => h.isDigit c (List.mem_of_mem_drop hc)) .none (.inl hsome)
    rwa [hdigits, hplace, ← hlist] at htext

/-- A point behind the first digit, and an exponent. -/
theorem isDecimalText_layOut_scientific {digits : List Char} (h : IsNumeralText digits)
    {point : Int} (hpoint : ¬ (-4 < point ∧ point ≤ 16)) :
    IsDecimalText (Double.layOut digits point).toList
      (Double.decimal (Nat.ofDigitChars 10 digits 0) (point - digits.length)) := by
  have hwhole := h.whole Nat.one_pos 0
  rw [List.replicate_zero, List.append_nil] at hwhole
  have hlist : (Double.layOut digits point).toList =
      digits.take 1 ++ (pointed (digits.drop 1) ++
        (Double.exponentText (point - 1)).toList) := by
    rw [Double.layOut, if_neg hpoint]
    generalize digits.drop 1 = fraction
    cases fraction <;> simp [pointed]
  have hplace : (exponentPart (Double.exponentText (point - 1)).toList).1.getD 0 -
      ((digits.drop 1).length : Int) = point - digits.length := by
    obtain ⟨c, rest, rfl, -⟩ := h.head
    rw [exponentPart_exponentText, Option.getD_some, List.length_drop]
    simp
    omega
  have hsome : (Double.exponentText (point - 1)).toList ≠ [] := by
    obtain ⟨rest, hrest⟩ := exists_exponentText_eq (point - 1)
    rw [hrest]
    exact List.cons_ne_nil _ _
  have hfraction : ∀ c ∈ digits.drop 1, c.isDigit = true :=
    fun c hc => h.isDigit c (List.mem_of_mem_drop hc)
  have htext := IsDecimalText.intro hwhole hfraction (.exponent (point - 1)) (.inr hsome)
  rwa [List.take_append_drop, hplace, ← hlist] at htext

/-- Every layout of digits spells them in units of the last one. -/
theorem isDecimalText_layOut {digits : List Char} (h : IsNumeralText digits) (point : Int) :
    IsDecimalText (Double.layOut digits point).toList
      (Double.decimal (Nat.ofDigitChars 10 digits 0) (point - digits.length)) := by
  by_cases hrange : -4 < point ∧ point ≤ 16
  · rcases le_or_gt point 0 with hsmall | hlarge
    · obtain ⟨zeros, rfl⟩ : ∃ zeros : Nat, point = -zeros := ⟨(-point).toNat, by omega⟩
      exact isDecimalText_layOut_small h (by omega)
    · obtain ⟨count, rfl⟩ : ∃ count : Nat, point = count := ⟨point.toNat, by omega⟩
      exact isDecimalText_layOut_medium h (by omega) (by omega)
  · exact isDecimalText_layOut_scientific h hrange

/-! ## The text of a double -/

/-- The digits of a positive number begin with another one than zero. -/
theorem isNumeralText_toDigits {n : Nat} (hpos : 0 < n) : IsNumeralText (Nat.toDigits 10 n) where
  head := by
    induction n using Nat.strongRecOn with
    | ind n ih =>
      rw [Nat.toDigits_eq_if (by decide)]
      split
      next => exact ⟨_, [], rfl, by simpa using hpos.ne'⟩
      next hlarge =>
        obtain ⟨c, rest, hrest, hc⟩ := ih (n / 10) (by omega) (by omega)
        exact ⟨c, _, by rw [hrest, List.cons_append], hc⟩
  isDigit := fun _ => Nat.isDigit_of_mem_toDigits (by decide) (by decide)

/-- Digits are those without the zeros at their end, and these zeros. -/
theorem exists_dropTrailingZeros_append (digits : List Char) :
    ∃ zeros, digits = Double.dropTrailingZeros digits ++ List.replicate zeros '0' := by
  refine ⟨(digits.reverse.takeWhile (· == '0')).length, ?_⟩
  have hzeros : digits.reverse.takeWhile (· == '0') =
      List.replicate (digits.reverse.takeWhile (· == '0')).length '0' := by
    rw [List.eq_replicate_iff]
    refine ⟨rfl, fun c hc => ?_⟩
    simpa using List.mem_takeWhile_imp hc
  rw [Double.dropTrailingZeros, ← List.reverse_replicate, ← hzeros, ← List.reverse_append,
    List.takeWhile_append_dropWhile, List.reverse_reverse]

/-- Without the zeros at their end digits still begin with another one than zero. -/
theorem IsNumeralText.dropTrailingZeros {digits : List Char} (h : IsNumeralText digits) :
    IsNumeralText (Double.dropTrailingZeros digits) := by
  obtain ⟨zeros, hzeros⟩ := exists_dropTrailingZeros_append digits
  obtain ⟨⟨c, rest, hdigits, hc⟩, hall⟩ := h
  refine ⟨?_, fun d hd => hall d (hzeros ▸ List.mem_append_left _ hd)⟩
  cases hkept : Double.dropTrailingZeros digits with
  | nil =>
    have hfirst : c ∈ List.replicate zeros '0' := by
      rw [hkept, List.nil_append, hdigits] at hzeros
      exact hzeros ▸ List.mem_cons_self
    exact absurd (List.eq_of_mem_replicate hfirst) hc
  | cons d kept =>
    rw [hkept, hdigits, List.cons_append] at hzeros
    exact ⟨d, kept, rfl, (List.cons.inj hzeros).1 ▸ hc⟩

/-- The text of a finite double without its sign. -/
def magnitudeText (mantissa : Nat) (exponent : Int) : String :=
  (Double.finite false mantissa exponent).text

/-- The sign of a double stands in front of its magnitude. -/
theorem text_finite (negative : Bool) (mantissa : Nat) (exponent : Int) :
    (Double.finite negative mantissa exponent).text =
      (if negative then "-" else "") ++ magnitudeText mantissa exponent := by
  simp only [magnitudeText, Double.text]
  split
  next => cases negative <;> rfl
  next => simp

/-- Zero spells zero. -/
theorem isDecimalText_zero (exponent : Int) :
    IsDecimalText (magnitudeText 0 exponent).toList 0 := by
  have hzero : IsWholeText ['0'] := .inl rfl
  have htext := IsDecimalText.intro hzero hzero.isDigit .none (.inl (by simp))
  have hvalue : Double.decimal (Nat.ofDigitChars 10 (['0'] ++ ['0']) 0)
      ((exponentPart []).1.getD 0 - ((['0'].length : Nat) : Int)) = 0 := by
    simp [Double.decimal, Nat.ofDigitChars]
  rw [hvalue] at htext
  rwa [magnitudeText, Double.text_zero]

/-- A double other than zero spells a decimal that rounds to it. -/
theorem exists_isDecimalText {negative : Bool} {mantissa : Nat} {exponent : Int}
    (h : (Double.finite negative mantissa exponent).IsCanonical) (hpos : 0 < mantissa) :
    ∃ q, IsDecimalText (magnitudeText mantissa exponent).toList q ∧
      Double.InInterval mantissa exponent q := by
  have hinterval := Double.shortestDigits_inInterval h hpos
  rw [magnitudeText, Double.text, if_neg hpos.ne']
  generalize Double.shortestDigits mantissa exponent = found at hinterval
  obtain ⟨n, place⟩ := found
  have hn : 0 < n := by
    rcases Nat.eq_zero_or_pos n with rfl | hn
    · have hzero := hinterval.pos hpos
      simp [Double.decimal] at hzero
    · exact hn
  refine ⟨_, ?_, hinterval⟩
  obtain ⟨zeros, hzeros⟩ := exists_dropTrailingZeros_append (Nat.toDigits 10 n)
  have hlength := congrArg List.length hzeros
  have hvalue := Nat.ofDigitChars_ten_toDigits (n := n)
  rw [List.length_append, List.length_replicate] at hlength
  rw [hzeros, Nat.ofDigitChars_append, Nat.ofDigitChars_replicate_zero] at hvalue
  have htext := isDecimalText_layOut (isNumeralText_toDigits hn).dropTrailingZeros
    ((Nat.toDigits 10 n).length + place)
  -- The zeros that were dropped are in the place of the last digit that was kept.
  have hplace : ((Nat.toDigits 10 n).length : Int) + place -
      (Double.dropTrailingZeros (Nat.toDigits 10 n)).length = place + zeros := by
    omega
  rw [hplace, ← decimal_mul_pow, hvalue] at htext
  simpa only [Bool.false_eq_true, if_false, String.empty_append] using htext

/-- Finite doubles with one magnitude are the same but for the sign. -/
theorem magnitudeText_injective {s t : Bool} {m n : Nat} {d e : Int}
    (hm : (Double.finite s m d).IsCanonical) (hn : (Double.finite t n e).IsCanonical)
    (h : magnitudeText m d = magnitudeText n e) : m = n ∧ d = e := by
  rcases Nat.eq_zero_or_pos m with rfl | hmpos
  · rcases Nat.eq_zero_or_pos n with rfl | hnpos
    · have hleast := hm.2.2.2.resolve_left (by decide)
      exact ⟨rfl, hleast.trans (hn.2.2.2.resolve_left (by decide)).symm⟩
    · obtain ⟨r, htext, hr⟩ := exists_isDecimalText hn hnpos
      exact absurd ((isDecimalText_zero d).unique (h ▸ htext)) (hr.pos hnpos).ne
  · obtain ⟨q, htext, hq⟩ := exists_isDecimalText hm hmpos
    rcases Nat.eq_zero_or_pos n with rfl | hnpos
    · exact absurd ((h ▸ htext).unique (isDecimalText_zero e)) (hq.pos hmpos).ne'
    · obtain ⟨r, htext', hr⟩ := exists_isDecimalText hn hnpos
      rw [h] at htext
      rw [← htext.unique htext'] at hr
      exact hq.unique hm hn hr

end Json

end TypeRegistry
