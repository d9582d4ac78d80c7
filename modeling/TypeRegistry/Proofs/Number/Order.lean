import TypeRegistry.Proofs.Number.Canonical
import TypeRegistry.Proofs.Number.Exactness

/-!
# The order of integers and of their doubles

Rounding keeps order: of two fractions the greater one has the greater exponent, or the same
exponent and the greater mantissa, and no exponent reaches down to what a smaller one rounds to.  So
the double of a greater integer is never less.  It need not be greater: above 53 bits neighbours
share a double, and then nothing of the order of the two integers is left in it.

The doubles end before `2 ^ 1024`.  An integer that is rounded to that or beyond has no double; the
least one lies half a step of the greatest exponent below.

Main results:

- Theorem `roundHalfEven_mono`, `exponentFor_mono`, `nearest_mono`: rounding keeps the order of
  fractions.
- Theorem `ofInt?_eq_none_iff`: the integers that have no double.
- Theorem `IsCanonical.eq_of_magnitude_eq`: a canonical double is determined by its magnitude and
  its sign.
- Theorem `lt_of_ofInt?`: doubles of integers are in the order of the integers, unless they are the
  same.
- Theorem `ofInt?_ne`: integers of at most 53 bits have doubles of their own.
-/

namespace TypeRegistry.Double

/-! ## Rounding keeps order -/

/-- A fraction is rounded to at most a whole number unless it is more than half a step above it; at
half a step the even one of the two neighbours counts. -/
theorem roundHalfEven_le_iff (num : Nat) {den : Nat} (hden : 0 < den) (k : Nat) :
    roundHalfEven num den ≤ k ↔
      if k % 2 = 0 then (num : ℚ) / den ≤ k + 1 / 2 else (num : ℚ) / den < k + 1 / 2 := by
  have hdenQ : (0 : ℚ) < den := by exact_mod_cast hden
  have hhalf : ((k : ℚ) + 1 / 2) = (2 * k + 1 : Nat) / 2 := by
    push_cast
    ring
  have hle : (num : ℚ) / den ≤ k + 1 / 2 ↔ 2 * num ≤ (2 * k + 1) * den := by
    rw [hhalf, div_le_div_iff₀ hdenQ two_pos, mul_comm]
    exact_mod_cast Iff.rfl
  have hlt : (num : ℚ) / den < k + 1 / 2 ↔ 2 * num < (2 * k + 1) * den := by
    rw [hhalf, div_lt_div_iff₀ hdenQ two_pos, mul_comm]
    exact_mod_cast Iff.rfl
  rw [hle, hlt]
  have hdiv := Nat.div_add_mod num den
  have hmod := Nat.mod_lt num hden
  simp only [roundHalfEven]
  generalize num / den = quotient at *
  generalize num % den = rest at *
  subst hdiv
  have hsum : 2 * (den * quotient + rest) = 2 * quotient * den + 2 * rest := by ring
  -- The quotient is below `k`, at `k` or above it; only at `k` does the rest matter.
  rcases lt_trichotomy quotient k with hless | rfl | hgreater
  · have hbelow : (2 * quotient + 2) * den ≤ 2 * k * den := Nat.mul_le_mul_right den (by omega)
    have hstep : (2 * quotient + 2) * den = 2 * quotient * den + 2 * den := by ring
    have hnext : (2 * k + 1) * den = 2 * k * den + den := by ring
    refine iff_of_true ?_ ?_
    · split_ifs <;> omega
    · split_ifs <;> omega
  · have hnext : (2 * quotient + 1) * den = 2 * quotient * den + den := by ring
    split_ifs <;> omega
  · have habove : (2 * k + 2) * den ≤ 2 * quotient * den := Nat.mul_le_mul_right den (by omega)
    have hstep : (2 * k + 2) * den = (2 * k + 1) * den + den := by ring
    refine iff_of_false ?_ ?_
    · split_ifs <;> omega
    · split_ifs <;> omega

/-- Rounding to whole numbers keeps the order of fractions. -/
theorem roundHalfEven_mono {a b c d : Nat} (hb : 0 < b) (hd : 0 < d) (h : (a : ℚ) / b ≤ c / d) :
    roundHalfEven a b ≤ roundHalfEven c d := by
  have hself := (roundHalfEven_le_iff c hd (roundHalfEven c d)).1 le_rfl
  rw [roundHalfEven_le_iff a hb]
  split_ifs at hself ⊢
  · exact h.trans hself
  · exact h.trans_lt hself

/-- What is less than a whole number is rounded to at most that number. -/
theorem roundHalfEven_le_of_lt {num den k : Nat} (hden : 0 < den) (h : (num : ℚ) / den < k) :
    roundHalfEven num den ≤ k := by
  have hone : roundHalfEven k 1 = k := roundHalfEven_one k
  rw [← hone]
  apply roundHalfEven_mono hden Nat.one_pos
  simpa using h.le

/-- What is at least a whole number is rounded to at least that number. -/
theorem le_roundHalfEven_of_le {num den k : Nat} (hden : 0 < den) (h : (k : ℚ) ≤ num / den) :
    k ≤ roundHalfEven num den := by
  have hone : roundHalfEven k 1 = k := roundHalfEven_one k
  rw [← hone]
  apply roundHalfEven_mono Nat.one_pos hden
  simpa using h

/-- A greater fraction has a greater exponent. -/
theorem exponentFor_mono {a b c d : Nat} (ha : 0 < a) (hb : 0 < b) (hc : 0 < c) (hd : 0 < d)
    (h : (a : ℚ) / b ≤ c / d) : exponentFor a b ≤ exponentFor c d := by
  obtain ⟨-, -, hfull⟩ := exponentFor_spec ha hb
  obtain ⟨hleast, hbits, -⟩ := exponentFor_spec hc hd
  by_contra! hless
  have hfull := hfull.resolve_right (by omega)
  rw [le_div_iff₀ (zpow_pos two_pos _)] at hfull
  rw [div_lt_iff₀ (zpow_pos two_pos _)] at hbits
  have hstep : (2 : ℚ) ^ 53 * 2 ^ exponentFor c d ≤ 2 ^ 52 * 2 ^ exponentFor a b :=
    calc (2 : ℚ) ^ 53 * 2 ^ exponentFor c d = 2 ^ 52 * 2 ^ (exponentFor c d + 1) := by
          rw [zpow_add_one₀ two_ne_zero]
          ring
      _ ≤ 2 ^ 52 * 2 ^ exponentFor a b := by
          gcongr
          · exact one_le_two
          · omega
  linarith

/-- The mantissa that a fraction is rounded to, before a carry. -/
def roundedMantissa (num den : Nat) : Nat :=
  roundHalfEven (scaleDown num den (exponentFor num den)).1
    (scaleDown num den (exponentFor num den)).2

/-- What a fraction is rounded to if there is no greatest exponent. -/
def nearest (num den : Nat) : ℚ :=
  roundedMantissa num den * (2 : ℚ) ^ exponentFor num den

/-- The mantissa before a carry has at most 53 bits or is the first number of 54, and it has 53
unless the exponent is the least one. -/
theorem roundedMantissa_spec {num den : Nat} (hnum : 0 < num) (hden : 0 < den) :
    roundedMantissa num den ≤ 2 ^ 53 ∧
      (2 ^ 52 ≤ roundedMantissa num den ∨ exponentFor num den = leastExponent) := by
  obtain ⟨-, hbits, hfull⟩ := exponentFor_spec hnum hden
  obtain ⟨hpos, hvalue⟩ := scaleDown_spec num hden (exponentFor num den)
  rw [← hvalue] at hbits hfull
  constructor
  · exact roundHalfEven_le_of_lt hpos (by exact_mod_cast hbits)
  · refine hfull.imp_left fun hfull => ?_
    exact le_roundHalfEven_of_le hpos (by exact_mod_cast hfull)

/-- Rounding keeps the order of fractions. -/
theorem nearest_mono {a b c d : Nat} (ha : 0 < a) (hb : 0 < b) (hc : 0 < c) (hd : 0 < d)
    (h : (a : ℚ) / b ≤ c / d) : nearest a b ≤ nearest c d := by
  rcases (exponentFor_mono ha hb hc hd h).eq_or_lt with hsame | hless
  · obtain ⟨hpos, hvalue⟩ := scaleDown_spec a hb (exponentFor a b)
    obtain ⟨hpos', hvalue'⟩ := scaleDown_spec c hd (exponentFor c d)
    have hmantissa : roundedMantissa a b ≤ roundedMantissa c d := by
      apply roundHalfEven_mono hpos hpos'
      rw [hvalue, hvalue', hsame]
      exact div_le_div_of_nonneg_right h (zpow_pos two_pos _).le
    rw [nearest, nearest, hsame]
    gcongr
  · -- The greater exponent starts where the smaller one ends.
    obtain ⟨hbits, -⟩ := roundedMantissa_spec ha hb
    obtain ⟨-, hfull⟩ := roundedMantissa_spec hc hd
    have hleast := (exponentFor_spec ha hb).1
    have hfull := hfull.resolve_right (by omega)
    calc nearest a b ≤ (2 ^ 53 : Nat) * (2 : ℚ) ^ exponentFor a b := by
          rw [nearest]
          gcongr
      _ = (2 ^ 52 : Nat) * (2 : ℚ) ^ (exponentFor a b + 1) := by
          rw [zpow_add_one₀ two_ne_zero]
          push_cast
          ring
      _ ≤ roundedMantissa c d * (2 : ℚ) ^ exponentFor c d := by
          gcongr
          · exact one_le_two
          · omega
      _ = nearest c d := rfl

/-! ## The double of a fraction -/

/-- A finite double is less than `2 ^ 1024`. -/
theorem IsCanonical.lt_two_pow {negative : Bool} {mantissa : Nat} {exponent : Int}
    (h : IsCanonical (finite negative mantissa exponent)) :
    (mantissa : ℚ) * (2 : ℚ) ^ exponent < 2 ^ (1024 : Int) := by
  obtain ⟨hbits, -, hgreatest, -⟩ := h
  have hbitsQ : (mantissa : ℚ) < 2 ^ (53 : Int) := by exact_mod_cast hbits
  calc (mantissa : ℚ) * (2 : ℚ) ^ exponent < 2 ^ (53 : Int) * (2 : ℚ) ^ exponent :=
        mul_lt_mul_of_pos_right hbitsQ (zpow_pos two_pos _)
    _ = 2 ^ (53 + exponent) := (zpow_add₀ two_ne_zero _ _).symm
    _ ≤ 2 ^ (1024 : Int) := by
        apply zpow_le_zpow_right₀ one_le_two
        rw [greatestExponent] at hgreatest
        omega

/-- The double of a fraction is what the fraction is rounded to, or infinite if that is `2 ^ 1024`
or beyond. -/
theorem ofRatio_cases (negative : Bool) {num den : Nat} (hnum : 0 < num) (hden : 0 < den) :
    (∃ mantissa exponent, ofRatio negative num den = finite negative mantissa exponent ∧
        mantissa * (2 : ℚ) ^ exponent = nearest num den) ∨
      ofRatio negative num den = infinity negative ∧ 2 ^ (1024 : Int) ≤ nearest num den := by
  obtain ⟨hbits, hfull⟩ := roundedMantissa_spec hnum hden
  have hnormal {mantissa : Nat} {exponent : Int}
      (hvalue : mantissa * (2 : ℚ) ^ exponent = nearest num den)
      (hfull : 2 ^ 52 ≤ mantissa ∨ exponent = leastExponent) :
      (∃ m e, (if greatestExponent < exponent then infinity negative
          else finite negative mantissa exponent) = finite negative m e ∧
          m * (2 : ℚ) ^ e = nearest num den) ∨
        (if greatestExponent < exponent then infinity negative
          else finite negative mantissa exponent) = infinity negative ∧
          2 ^ (1024 : Int) ≤ nearest num den := by
    split_ifs with hlarge
    · refine .inr ⟨rfl, ?_⟩
      rw [greatestExponent] at hlarge
      have hfull := hfull.resolve_right (by rw [leastExponent]; omega)
      have hfullQ : (2 : ℚ) ^ (52 : Int) ≤ mantissa := by exact_mod_cast hfull
      calc (2 : ℚ) ^ (1024 : Int) = 2 ^ (52 : Int) * 2 ^ (972 : Int) := by
            rw [← zpow_add₀ two_ne_zero]
            rfl
        _ ≤ mantissa * (2 : ℚ) ^ exponent := by
            gcongr
            · exact one_le_two
            · omega
        _ = nearest num den := hvalue
    · exact .inl ⟨mantissa, exponent, rfl, hvalue⟩
  have hratio : ofRatio negative num den =
      let normal := if roundedMantissa num den = 2 ^ 53 then (2 ^ 52, exponentFor num den + 1)
        else (roundedMantissa num den, exponentFor num den)
      if greatestExponent < normal.2 then infinity negative
      else finite negative normal.1 normal.2 := by
    rw [ofRatio, if_neg hnum.ne']
    rfl
  rw [hratio]
  by_cases hcarry : roundedMantissa num den = 2 ^ 53
  · simp only [if_pos hcarry]
    refine hnormal ?_ (.inl le_rfl)
    rw [nearest, hcarry, zpow_add_one₀ two_ne_zero]
    push_cast
    ring
  · simp only [if_neg hcarry]
    exact hnormal rfl hfull

/-- A positive value lies in the interval of its own double. -/
theorem inInterval_self {mantissa : Nat} (hpos : 0 < mantissa) (exponent : Int) :
    InInterval mantissa exponent (mantissa * (2 : ℚ) ^ exponent) := by
  have hpow : (0 : ℚ) < (2 : ℚ) ^ (exponent - 2) := zpow_pos two_pos _
  have hvalue : (mantissa : ℚ) * (2 : ℚ) ^ exponent =
      (4 * mantissa : Nat) * (2 : ℚ) ^ (exponent - 2) := by
    rw [show exponent = exponent - 2 + 2 by omega, zpow_add₀ two_ne_zero, add_sub_cancel_right]
    push_cast
    ring
  obtain ⟨hgap, -⟩ := gapBelow_le mantissa exponent
  rw [hvalue]
  apply inInterval_of_between
  · rw [lowEnd]
    apply mul_lt_mul_of_pos_right _ hpow
    exact_mod_cast (by omega : 4 * mantissa - gapBelow mantissa exponent < 4 * mantissa)
  · rw [highEnd]
    apply mul_lt_mul_of_pos_right _ hpow
    exact_mod_cast (by omega : 4 * mantissa < 4 * mantissa + 2)

/-- Canonical doubles of one magnitude have the same mantissa and the same exponent. -/
theorem IsCanonical.eq_of_magnitude_eq {s t : Bool} {m n : Nat} {d e : Int}
    (hm : IsCanonical (finite s m d)) (hn : IsCanonical (finite t n e))
    (h : (m : ℚ) * (2 : ℚ) ^ d = n * (2 : ℚ) ^ e) : m = n ∧ d = e := by
  rcases Nat.eq_zero_or_pos m with rfl | hpos
  · have hzero : n = 0 := by
      rw [Nat.cast_zero, zero_mul, eq_comm, mul_eq_zero] at h
      exact_mod_cast h.resolve_right (zpow_pos two_pos _).ne'
    subst hzero
    refine ⟨rfl, ?_⟩
    rw [hm.2.2.2.resolve_left (by decide), hn.2.2.2.resolve_left (by decide)]
  · have hpos' : 0 < n := by
      have hvalue : (0 : ℚ) < n * (2 : ℚ) ^ e := by
        rw [← h]
        exact mul_pos (by exact_mod_cast hpos) (zpow_pos two_pos _)
      exact_mod_cast pos_of_mul_pos_left hvalue (zpow_pos two_pos _).le
    exact InInterval.unique hm hn (inInterval_self hpos d) (h ▸ inInterval_self hpos' e)

/-! ## Doubles of integers -/

/-- What an integer is rounded to if there is no greatest exponent. -/
def nearestInt (n : Int) : ℚ :=
  if n < 0 then -nearest n.natAbs 1 else nearest n.natAbs 1

/-- Zero is rounded to zero. -/
theorem nearest_zero : nearest 0 1 = 0 := by
  have hmantissa : roundedMantissa 0 1 = 0 := by decide +kernel
  rw [nearest, hmantissa, Nat.cast_zero, zero_mul]

/-- A positive whole number is rounded to at least one. -/
theorem one_le_nearest {n : Nat} (hpos : 0 < n) : 1 ≤ nearest n 1 := by
  have hone : nearest 1 1 = 1 := by
    have hmantissa : roundedMantissa 1 1 = 2 ^ 52 ∧ exponentFor 1 1 = -52 := by decide +kernel
    rw [nearest, hmantissa.1, hmantissa.2]
    norm_num
  rw [← hone]
  apply nearest_mono Nat.one_pos Nat.one_pos hpos Nat.one_pos
  have hcast : (1 : ℚ) ≤ n := by exact_mod_cast hpos
  simpa using hcast

/-- Rounding keeps the order of whole numbers. -/
theorem nearest_le_nearest {m n : Nat} (h : m ≤ n) : nearest m 1 ≤ nearest n 1 := by
  rcases Nat.eq_zero_or_pos m with rfl | hpos
  · rw [nearest_zero]
    rcases Nat.eq_zero_or_pos n with rfl | hpos'
    · exact nearest_zero.ge
    · exact zero_le_one.trans (one_le_nearest hpos')
  · apply nearest_mono hpos Nat.one_pos (hpos.trans_le h) Nat.one_pos
    have hcast : (m : ℚ) ≤ n := by exact_mod_cast h
    simpa using hcast

/-- A whole number is not rounded to less than zero. -/
theorem nearest_nonneg (n : Nat) : 0 ≤ nearest n 1 := by
  rw [← nearest_zero]
  exact nearest_le_nearest (Nat.zero_le n)

/-- Rounding keeps the order of integers. -/
theorem nearestInt_mono {m n : Int} (h : m ≤ n) : nearestInt m ≤ nearestInt n := by
  rw [nearestInt, nearestInt]
  split_ifs with hm hn
  · rw [neg_le_neg_iff]
    apply nearest_le_nearest
    omega
  · exact (neg_nonpos.2 (nearest_nonneg _)).trans (nearest_nonneg _)
  · omega
  · apply nearest_le_nearest
    omega

/-- Rounding keeps the sign of an integer. -/
theorem nearestInt_neg_iff (n : Int) : nearestInt n < 0 ↔ n < 0 := by
  rw [nearestInt]
  split_ifs with hneg
  · have hone := one_le_nearest (n := n.natAbs) (by omega)
    exact iff_of_true (by linarith) hneg
  · exact iff_of_false (nearest_nonneg _).not_gt hneg

/-- The double of an integer is what the integer is rounded to. -/
theorem exists_of_ofInt? {n : Int} {x : Double} (h : ofInt? n = some x) :
    ∃ mantissa exponent, x = finite (decide (n < 0)) mantissa exponent ∧ x.IsCanonical ∧
      mantissa * (2 : ℚ) ^ exponent = nearest n.natAbs 1 := by
  have hcanonical := ofRatio_isCanonical (decide (n < 0)) n.natAbs Nat.one_pos
  rw [ofInt?] at h
  rcases Nat.eq_zero_or_pos n.natAbs with hzero | hpos
  · obtain rfl := Int.natAbs_eq_zero.1 hzero
    cases h
    refine ⟨0, leastExponent, rfl, hcanonical, ?_⟩
    rw [Int.natAbs_zero, nearest_zero, Nat.cast_zero, zero_mul]
  · rcases ofRatio_cases (decide (n < 0)) hpos Nat.one_pos with
      ⟨mantissa, exponent, hfinite, hvalue⟩ | ⟨hinfinite, -⟩
    · rw [hfinite] at h hcanonical
      cases h
      exact ⟨mantissa, exponent, rfl, hcanonical, hvalue⟩
    · rw [hinfinite] at h
      cases h

/-- What an integer with a double is rounded to is less than `2 ^ 1024`. -/
theorem nearest_lt_of_ofInt? {n : Int} {x : Double} (h : ofInt? n = some x) :
    nearest n.natAbs 1 < 2 ^ (1024 : Int) := by
  obtain ⟨mantissa, exponent, rfl, hcanonical, hvalue⟩ := exists_of_ofInt? h
  rw [← hvalue]
  exact hcanonical.lt_two_pow

/-- What an integer without a double is rounded to is at least `2 ^ 1024`. -/
theorem le_nearest_of_ofInt?_eq_none {n : Int} (h : ofInt? n = none) :
    2 ^ (1024 : Int) ≤ nearest n.natAbs 1 := by
  rw [ofInt?] at h
  rcases Nat.eq_zero_or_pos n.natAbs with hzero | hpos
  · obtain rfl := Int.natAbs_eq_zero.1 hzero
    cases h
  · rcases ofRatio_cases (decide (n < 0)) hpos Nat.one_pos with
      ⟨mantissa, exponent, hfinite, -⟩ | ⟨-, hlarge⟩
    · rw [hfinite] at h
      cases h
    · exact hlarge

/-- The least whole number without a double: half a step of the greatest exponent below
`2 ^ 1024`. -/
def beyondDoubles : Nat := 2 ^ 1024 - 2 ^ 970

/-- An integer has no double exactly if it is as far from zero as the first that has none. -/
theorem ofInt?_eq_none_iff (n : Int) : ofInt? n = none ↔ beyondDoubles ≤ n.natAbs := by
  constructor
  · intro h
    by_contra! hless
    obtain ⟨x, hx⟩ : ∃ x, ofInt? ((beyondDoubles - 1 : Nat) : Int) = some x :=
      Option.isSome_iff_exists.1 (by decide +kernel)
    have hle : n.natAbs ≤ (((beyondDoubles - 1 : Nat) : Int)).natAbs := by omega
    have hlast := nearest_lt_of_ofInt? hx
    have hlarge := le_nearest_of_ofInt?_eq_none h
    exact (hlarge.trans (nearest_le_nearest hle)).not_gt hlast
  · intro h
    have hfirst : ofInt? ((beyondDoubles : Nat) : Int) = none := by decide +kernel
    have hlarge := le_nearest_of_ofInt?_eq_none hfirst
    rw [Int.natAbs_natCast] at hlarge
    cases hdouble : ofInt? n with
    | none => rfl
    | some x =>
      exact absurd (nearest_lt_of_ofInt? hdouble) (hlarge.trans (nearest_le_nearest h)).not_gt

/-- The value of the double of an integer is what the integer is rounded to. -/
theorem value?_of_ofInt? {n : Int} {x : Double} (h : ofInt? n = some x) :
    x.value? = some (nearestInt n) := by
  obtain ⟨mantissa, exponent, rfl, -, hvalue⟩ := exists_of_ofInt? h
  rw [value?, Exact.rational, nearestInt, ← hvalue]
  by_cases hneg : n < 0 <;> simp [hneg]

/-- Integers that are rounded to one value have the same double. -/
theorem eq_of_nearestInt_eq {m n : Int} {x y : Double} (hx : ofInt? m = some x)
    (hy : ofInt? n = some y) (h : nearestInt m = nearestInt n) : x = y := by
  have hsign : m < 0 ↔ n < 0 := by rw [← nearestInt_neg_iff m, h, nearestInt_neg_iff]
  have hmagnitude : nearest m.natAbs 1 = nearest n.natAbs 1 := by
    by_cases hneg : m < 0
    · rw [nearestInt, nearestInt, if_pos hneg, if_pos (hsign.1 hneg)] at h
      exact neg_inj.1 h
    · rwa [nearestInt, nearestInt, if_neg hneg, if_neg (mt hsign.2 hneg)] at h
  obtain ⟨a, d, rfl, hcanonical, hvalue⟩ := exists_of_ofInt? hx
  obtain ⟨b, e, rfl, hcanonical', hvalue'⟩ := exists_of_ofInt? hy
  rw [← hvalue, ← hvalue'] at hmagnitude
  obtain ⟨rfl, rfl⟩ := hcanonical.eq_of_magnitude_eq hcanonical' hmagnitude
  rw [decide_eq_decide.2 hsign]

/-- The double of one integer is less than that of another exactly if the integer is, unless both
have the same double. -/
theorem lt_of_ofInt? {m n : Int} {x y : Double} (hx : ofInt? m = some x) (hy : ofInt? n = some y) :
    (Exact.ofDouble x).lt (Exact.ofDouble y) = true ↔ m < n ∧ x ≠ y := by
  rw [lt_ofDouble (value?_of_ofInt? hx) (value?_of_ofInt? hy), decide_eq_true_eq]
  constructor
  · intro hless
    constructor
    · by_contra! hle
      exact (nearestInt_mono hle).not_gt hless
    · rintro rfl
      have hsame := (value?_of_ofInt? hx).symm.trans (value?_of_ofInt? hy)
      exact hless.ne (Option.some.inj hsame)
  · rintro ⟨hless, hne⟩
    apply lt_of_le_of_ne (nearestInt_mono hless.le)
    exact fun hsame => hne (eq_of_nearestInt_eq hx hy hsame)

/-- Different integers of at most 53 bits have different doubles. -/
theorem ofInt?_ne {m n : Int} (hm : m.natAbs ≤ 2 ^ 53) (hn : n.natAbs ≤ 2 ^ 53) (h : m ≠ n) :
    ofInt? m ≠ ofInt? n := by
  obtain ⟨x, hx, hvalue⟩ := exists_ofInt? hm
  obtain ⟨y, hy, hvalue'⟩ := exists_ofInt? hn
  intro hsame
  obtain rfl := Option.some.inj (hx.symm.trans (hsame.trans hy))
  apply h
  exact_mod_cast Option.some.inj (hvalue.symm.trans hvalue')

end TypeRegistry.Double
