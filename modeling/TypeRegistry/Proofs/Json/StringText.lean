import TypeRegistry.Json.Reader
import TypeRegistry.Json.Writer

/-!
# What the text of a string spells

A string is written in two steps: its characters become UTF-16 units, and every unit is escaped
unless it is a plain character.  Both steps can be undone from the front: the text tells where the
first unit ends, and the units tell whether the first character takes one or two of them.  No escape
begins with a quote, so the text of a string also tells where the string ends.

Main results:

- Definitions `utf16`, `escapeUnit`: the two steps.
- Theorems `firstChar?_utf16`, `firstUnit?_escapeUnit`: the steps undone.
- Theorem `writeString_cancel`: texts of strings, whatever stands behind them, are the same only if
  the strings are.
-/

namespace TypeRegistry.Json

/-! ## Units -/

/-- The UTF-16 units of a character: itself, or a pair of surrogates. -/
def utf16 (c : Char) : List Nat :=
  if c.toNat < 0x10000 then [c.toNat]
  else [0xD800 + (c.toNat - 0x10000) / 0x400, 0xDC00 + (c.toNat - 0x10000) % 0x400]

/-- How one unit is written inside a JSON string. -/
def escapeUnit (unit : Nat) : List Char :=
  if unit = 34 then ['\\', '"']
  else if unit = 92 then ['\\', '\\']
  else if unit = 10 then ['\\', 'n']
  else if unit = 13 then ['\\', 'r']
  else if unit = 9 then ['\\', 't']
  else if unit = 8 then ['\\', 'b']
  else if unit = 12 then ['\\', 'f']
  else if 32 ≤ unit ∧ unit ≤ 126 then [Char.ofNat unit]
  else hexUnit unit

/-- A character is written unit by unit. -/
theorem escapeChar_eq (c : Char) : escapeChar c = (utf16 c).flatMap escapeUnit := by
  have hquote : c = '"' ↔ c.toNat = 34 := Char.toNat_inj.symm
  have hslash : c = '\\' ↔ c.toNat = 92 := Char.toNat_inj.symm
  have hline : c = '\n' ↔ c.toNat = 10 := Char.toNat_inj.symm
  have hreturn : c = '\r' ↔ c.toNat = 13 := Char.toNat_inj.symm
  have htab : c = '\t' ↔ c.toNat = 9 := Char.toNat_inj.symm
  have hself : Char.ofNat c.toNat = c := Char.ofNat_toNat c
  rw [escapeChar, utf16]
  simp only [hquote, hslash, hline, hreturn, htab]
  by_cases hsmall : c.toNat < 0x10000
  · simp only [if_pos hsmall, List.flatMap_cons, List.flatMap_nil, List.append_nil, escapeUnit,
      hself]
  · have hhigh (rest : Nat) : escapeUnit (0xD800 + rest) = hexUnit (0xD800 + rest) := by
      unfold escapeUnit
      repeat rw [if_neg (by omega)]
    have hlow (rest : Nat) : escapeUnit (0xDC00 + rest) = hexUnit (0xDC00 + rest) := by
      unfold escapeUnit
      repeat rw [if_neg (by omega)]
    simp only [if_neg hsmall, List.flatMap_cons, List.flatMap_nil, List.append_nil, hhigh, hlow]
    repeat rw [if_neg (by omega)]

/-- The first character that units stand for, and the units behind it. -/
def firstChar? : List Nat → Option (Char × List Nat)
  | [] => none
  | [unit] => some (Char.ofNat unit, [])
  | high :: low :: rest =>
    if 0xD800 ≤ high ∧ high < 0xDC00 then
      some (Char.ofNat (0x10000 + (high - 0xD800) * 0x400 + (low - 0xDC00)), rest)
    else some (Char.ofNat high, low :: rest)

/-- The number of a character is less than `0x110000`. -/
theorem toNat_lt (c : Char) : c.toNat < 0x110000 := by
  rcases c.valid with h | h
  · have hlow : c.toNat < 0xD800 := h
    omega
  · exact h.2

/-- The units of a character stand for it, whatever comes behind. -/
theorem firstChar?_utf16 (c : Char) (rest : List Nat) :
    firstChar? (utf16 c ++ rest) = some (c, rest) := by
  have hself : Char.ofNat c.toNat = c := Char.ofNat_toNat c
  rw [utf16]
  split
  next hsmall =>
    -- A character is no surrogate.
    have hvalid : c.toNat < 0xD800 ∨ 0xDFFF < c.toNat := by
      rcases c.valid with h | h
      · exact .inl h
      · exact .inr h.1
    cases rest with
    | nil => simp [firstChar?, hself]
    | cons next rest =>
      rw [List.singleton_append, firstChar?, if_neg (by omega), hself]
  next hlarge =>
    have hvalid : c.toNat < 0x110000 := toNat_lt c
    have hvalue : 0x10000 + (0xD800 + (c.toNat - 0x10000) / 0x400 - 0xD800) * 0x400 +
        (0xDC00 + (c.toNat - 0x10000) % 0x400 - 0xDC00) = c.toNat := by
      omega
    simp only [List.cons_append, List.nil_append, firstChar?]
    rw [if_pos (by omega), hvalue, hself]

/-- The units of strings are the same only if the strings are. -/
theorem eq_of_utf16 {s t : List Char} (h : s.flatMap utf16 = t.flatMap utf16) : s = t := by
  induction s generalizing t with
  | nil =>
    cases t with
    | nil => rfl
    | cons d t =>
      have hfirst := firstChar?_utf16 d (t.flatMap utf16)
      rw [← List.flatMap_cons, ← h] at hfirst
      cases hfirst
  | cons c s ih =>
    have hfirst := firstChar?_utf16 c (s.flatMap utf16)
    rw [← List.flatMap_cons, h] at hfirst
    cases t with
    | nil => cases hfirst
    | cons d t =>
      rw [List.flatMap_cons, firstChar?_utf16] at hfirst
      obtain ⟨rfl, hrest⟩ := Prod.mk.inj (Option.some.inj hfirst)
      rw [ih hrest.symm]

/-! ## Escapes -/

/-- Hexadecimal digits with zeros in front of them. -/
def paddedHex (count n : Nat) : List Char :=
  List.replicate (count - (Nat.toDigits 16 n).length) '0' ++ Nat.toDigits 16 n

/-- The last of several padded digits stands apart. -/
theorem paddedHex_succ {count : Nat} (hcount : 0 < count) (n : Nat) :
    paddedHex (count + 1) n = paddedHex count (n / 16) ++ [Nat.digitChar (n % 16)] := by
  rw [paddedHex, paddedHex]
  rcases Nat.lt_or_ge n 16 with hsmall | hlarge
  · obtain ⟨count, rfl⟩ := Nat.exists_eq_succ_of_ne_zero (Nat.pos_iff_ne_zero.1 hcount)
    rw [Nat.toDigits_of_lt_base hsmall, Nat.div_eq_of_lt hsmall, Nat.toDigits_zero,
      Nat.mod_eq_of_lt hsmall]
    simp [List.replicate_succ', List.append_assoc]
  · rw [Nat.toDigits_of_base_le (by decide) hlarge, List.length_append, List.length_singleton,
      Nat.add_sub_add_right, List.append_assoc]

/-- A unit in four hexadecimal digits. -/
theorem hexUnit_eq {unit : Nat} (h : unit < 0x10000) :
    hexUnit unit = ['\\', 'u', Nat.digitChar (unit / 4096), Nat.digitChar (unit / 256 % 16),
      Nat.digitChar (unit / 16 % 16), Nat.digitChar (unit % 16)] := by
  have hfirst : paddedHex 1 (unit / 4096) = [Nat.digitChar (unit / 4096)] := by
    rw [paddedHex, Nat.toDigits_of_lt_base (by omega)]
    rfl
  have hhigh : unit / 16 / 16 = unit / 256 := by omega
  have hpadded : paddedHex 4 unit = [Nat.digitChar (unit / 4096), Nat.digitChar (unit / 256 % 16),
      Nat.digitChar (unit / 16 % 16), Nat.digitChar (unit % 16)] := by
    rw [paddedHex_succ (by decide), paddedHex_succ (by decide), paddedHex_succ (by decide),
      hhigh, show unit / 256 / 16 = unit / 4096 by omega, hfirst]
    rfl
  exact congrArg (fun digits => '\\' :: 'u' :: digits) hpadded

/-- The value of a hexadecimal digit is read from it. -/
theorem hexDigit?_digitChar {n : Nat} (h : n < 16) :
    Text.hexDigit? (Nat.digitChar n) = some n := by
  have hall : ∀ n : Fin 16, Text.hexDigit? (Nat.digitChar n) = some n.val := by decide
  exact hall ⟨n, h⟩

/-- A plain unit is the number of its character. -/
theorem toNat_ofNat_of_plain {unit : Nat} (h : 32 ≤ unit ∧ unit ≤ 126) :
    (Char.ofNat unit).toNat = unit := by
  have hvalid : unit.isValidChar := .inl (by omega)
  rw [Char.ofNat, dif_pos hvalid]
  rfl

/-- The first unit that the text of a string spells, and the text behind it. -/
def firstUnit? : List Char → Option (Nat × List Char)
  | [] => none
  | '\\' :: 'u' :: a :: b :: c :: d :: rest => (hexUnitValue? a b c d).map fun unit => (unit, rest)
  | '\\' :: c :: rest => (simpleEscape? c).map fun c => (c.toNat, rest)
  | c :: rest => some (c.toNat, rest)

/-- The units with an escape of their own. -/
def shortUnits : List Nat :=
  [34, 92, 10, 13, 9, 8, 12]

/-- Every other unit is written as it is if it is plain, and by its number if not. -/
theorem escapeUnit_of_not_mem {unit : Nat} (h : unit ∉ shortUnits) :
    escapeUnit unit =
      if 32 ≤ unit ∧ unit ≤ 126 then [Char.ofNat unit] else hexUnit unit := by
  simp only [shortUnits, List.mem_cons, List.not_mem_nil, or_false, not_or] at h
  obtain ⟨hquote, hslash, hline, hreturn, htab, hback, hfeed⟩ := h
  rw [escapeUnit, if_neg hquote, if_neg hslash, if_neg hline, if_neg hreturn, if_neg htab,
    if_neg hback, if_neg hfeed]

/-- The text of a unit spells it, whatever comes behind. -/
theorem firstUnit?_escapeUnit {unit : Nat} (h : unit < 0x10000) (rest : List Char) :
    firstUnit? (escapeUnit unit ++ rest) = some (unit, rest) := by
  by_cases hshort : unit ∈ shortUnits
  · simp only [shortUnits, List.mem_cons, List.not_mem_nil, or_false] at hshort
    rcases hshort with rfl | rfl | rfl | rfl | rfl | rfl | rfl <;> rfl
  rw [escapeUnit_of_not_mem hshort]
  split
  next hplain =>
    have hvalid := toNat_ofNat_of_plain hplain
    have hne : Char.ofNat unit ≠ '\\' := by
      intro heq
      rw [heq] at hvalid
      exact hshort (hvalid ▸ by decide)
    rw [List.singleton_append, firstUnit?, hvalid]
    · rintro _ _ _ _ _ heq -
      exact hne heq
    · rintro _ _ heq -
      exact hne heq
  next =>
    have hvalue : unit / 4096 * 16 + unit / 256 % 16 = unit / 256 := by omega
    have hvalue' : unit / 256 * 16 + unit / 16 % 16 = unit / 16 := by omega
    have hvalue'' : unit / 16 * 16 + unit % 16 = unit := by omega
    rw [hexUnit_eq h]
    simp only [List.cons_append, List.nil_append, firstUnit?, hexUnitValue?,
      hexDigit?_digitChar (show unit / 4096 < 16 by omega),
      hexDigit?_digitChar (Nat.mod_lt _ (by decide : 0 < 16)), Option.bind_eq_bind,
      Option.bind_some, Option.pure_def, Option.map_some, hvalue, hvalue', hvalue'']

/-- No escape begins with a quote. -/
theorem exists_escapeUnit_eq (unit : Nat) :
    ∃ c rest, escapeUnit unit = c :: rest ∧ c ≠ '"' := by
  by_cases hshort : unit ∈ shortUnits
  · simp only [shortUnits, List.mem_cons, List.not_mem_nil, or_false] at hshort
    rcases hshort with rfl | rfl | rfl | rfl | rfl | rfl | rfl <;> exact ⟨'\\', _, rfl, by decide⟩
  rw [escapeUnit_of_not_mem hshort]
  split
  next hplain =>
    refine ⟨Char.ofNat unit, [], rfl, fun heq => hshort ?_⟩
    rw [← toNat_ofNat_of_plain hplain, heq]
    decide
  next => exact ⟨'\\', _, rfl, by decide⟩

/-- Units are less than `0x10000`. -/
theorem lt_of_mem_utf16 {c : Char} {unit : Nat} (h : unit ∈ utf16 c) : unit < 0x10000 := by
  have hvalid : c.toNat < 0x110000 := toNat_lt c
  rw [utf16] at h
  split at h
  · simp only [List.mem_singleton] at h
    omega
  · simp only [List.mem_cons, List.not_mem_nil, or_false] at h
    omega

/-! ## Strings -/

/-- Escaped units up to the quote, whatever stands behind it, are the same only if the units are. -/
theorem escapeUnits_cancel {units others : List Nat} {rest behind : List Char}
    (hunits : ∀ unit ∈ units, unit < 0x10000) (hothers : ∀ unit ∈ others, unit < 0x10000)
    (h : units.flatMap escapeUnit ++ '"' :: rest = others.flatMap escapeUnit ++ '"' :: behind) :
    units = others ∧ rest = behind := by
  induction units generalizing others with
  | nil =>
    cases others with
    | nil => exact ⟨rfl, (List.cons.inj h).2⟩
    | cons other others =>
      obtain ⟨c, text, htext, hc⟩ := exists_escapeUnit_eq other
      rw [List.flatMap_cons, htext] at h
      exact absurd (List.cons.inj h).1.symm hc
  | cons unit units ih =>
    obtain ⟨hunit, hbelow⟩ := List.forall_mem_cons.1 hunits
    cases others with
    | nil =>
      obtain ⟨c, text, htext, hc⟩ := exists_escapeUnit_eq unit
      rw [List.flatMap_cons, htext] at h
      exact absurd (List.cons.inj h).1 hc
    | cons other others =>
      obtain ⟨hother, hbelow'⟩ := List.forall_mem_cons.1 hothers
      rw [List.flatMap_cons, List.flatMap_cons, List.append_assoc, List.append_assoc] at h
      have hfirst := congrArg firstUnit? h
      rw [firstUnit?_escapeUnit hunit, firstUnit?_escapeUnit hother] at hfirst
      obtain ⟨rfl, hbehind⟩ := Prod.mk.inj (Option.some.inj hfirst)
      obtain ⟨rfl, hrest⟩ := ih hbelow hbelow' hbehind
      exact ⟨rfl, hrest⟩

/-- Texts of strings, whatever stands behind them, are the same only if the strings are. -/
theorem writeString_cancel {s t : String} {rest behind : List Char}
    (h : (writeString s).toList ++ rest = (writeString t).toList ++ behind) :
    s = t ∧ rest = behind := by
  have hchars (s : String) (rest : List Char) : (writeString s).toList ++ rest =
      '"' :: ((s.toList.flatMap utf16).flatMap escapeUnit ++ '"' :: rest) := by
    have hescape : escapeChar = fun c => (utf16 c).flatMap escapeUnit := funext escapeChar_eq
    rw [writeString, String.toList_ofList, List.flatMap_assoc, ← hescape]
    simp only [List.cons_append, List.append_assoc, List.nil_append]
  have hunits (s : String) : ∀ unit ∈ s.toList.flatMap utf16, unit < 0x10000 := by
    intro unit hunit
    obtain ⟨c, -, hc⟩ := List.mem_flatMap.1 hunit
    exact lt_of_mem_utf16 hc
  rw [hchars, hchars] at h
  obtain ⟨heq, hrest⟩ := escapeUnits_cancel (hunits s) (hunits t) (List.cons.inj h).2
  exact ⟨String.toList_inj.1 (eq_of_utf16 heq), hrest⟩

end TypeRegistry.Json
