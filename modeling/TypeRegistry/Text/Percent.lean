import TypeRegistry.Text.Digit

/-!
# Bytes in text

A byte can be written in a text as a percent sign and two hexadecimal digits.  The bytes of a run of
ASCII characters are read as UTF-8; where they are no UTF-8, every longest start of a character that
breaks off, and every byte that starts none, counts as one replacement character.  Characters beyond
ASCII stand for themselves and end a run.

Main definitions:

- `percentBytes`: the bytes that a text writes.
- `utf8Chars`: the characters that bytes spell, whatever the bytes are.
- `percentDecoded`: a text with its written bytes read.
-/

namespace TypeRegistry.Text

/-! ## Written bytes -/

/-- The bytes of a text in which bytes may be written with a percent sign.  A percent sign without
two hexadecimal digits behind it stands for itself. -/
def percentBytes : List Char → List UInt8
  | '%' :: a :: b :: rest =>
    match hexDigit? a, hexDigit? b with
    | some high, some low => UInt8.ofNat (16 * high + low) :: percentBytes rest
    | _, _ => String.utf8EncodeChar '%' ++ percentBytes (a :: b :: rest)
  | c :: rest => String.utf8EncodeChar c ++ percentBytes rest
  | [] => []

/-! ## Reading UTF-8 -/

/-- What stands in for bytes that spell no character. -/
def replacement : Char := '\ufffd'

/-- What a first byte announces: the bits that it carries itself, the least and the greatest second
byte, and the number of bytes behind the second. -/
def announced? (byte : Nat) : Option (Nat × Nat × Nat × Nat) :=
  if 0xC2 ≤ byte && byte ≤ 0xDF then some (byte - 0xC0, 0x80, 0xBF, 0)
  else if byte = 0xE0 then some (0, 0xA0, 0xBF, 1)
  else if byte = 0xED then some (13, 0x80, 0x9F, 1)
  else if 0xE1 ≤ byte && byte ≤ 0xEF then some (byte - 0xE0, 0x80, 0xBF, 1)
  else if byte = 0xF0 then some (0, 0x90, 0xBF, 2)
  else if 0xF1 ≤ byte && byte ≤ 0xF3 then some (byte - 0xF0, 0x80, 0xBF, 2)
  else if byte = 0xF4 then some (4, 0x80, 0x8F, 2)
  else none

/-- Read on in the middle of a character: the value so far, the range of the next byte, and the
number of bytes behind that.  The character, and the bytes left over. -/
def continued (value least greatest : Nat) : (further : Nat) → List UInt8 → Char × List UInt8
  | _, [] => (replacement, [])
  | 0, byte :: rest =>
    if least ≤ byte.toNat && byte.toNat ≤ greatest then
      (Char.ofNat (64 * value + (byte.toNat - 0x80)), rest)
    else (replacement, byte :: rest)
  | further + 1, byte :: rest =>
    if least ≤ byte.toNat && byte.toNat ≤ greatest then
      continued (64 * value + (byte.toNat - 0x80)) 0x80 0xBF further rest
    else (replacement, byte :: rest)

/-- Reading on leaves no more bytes than there were. -/
theorem length_continued (value least greatest further : Nat) (bytes : List UInt8) :
    (continued value least greatest further bytes).2.length ≤ bytes.length := by
  induction bytes generalizing value least greatest further with
  | nil => cases further <;> simp [continued]
  | cons byte rest ih =>
    cases further with
    | zero => simp only [continued]; split <;> simp
    | succ further =>
      simp only [continued]
      split
      · exact Nat.le_trans (ih ..) (by simp)
      · simp

/-- The characters that bytes spell. -/
def utf8Chars : List UInt8 → List Char
  | [] => []
  | byte :: rest =>
    if byte.toNat < 0x80 then Char.ofNat byte.toNat :: utf8Chars rest
    else
      match announced? byte.toNat with
      | none => replacement :: utf8Chars rest
      | some (value, least, greatest, further) =>
        let read := continued value least greatest further rest
        read.1 :: utf8Chars read.2
termination_by bytes => bytes.length
decreasing_by
  · simp
  · simp
  · exact Nat.lt_succ_of_le (length_continued ..)

/-! ## Texts -/

/-- A text cut into runs of ASCII characters and runs of others. -/
def asciiRuns : List Char → List (Bool × List Char)
  | [] => []
  | c :: rest =>
    match asciiRuns rest with
    | (isAscii, run) :: runs =>
      if isAscii == decide (c.toNat < 128) then (isAscii, c :: run) :: runs
      else (decide (c.toNat < 128), [c]) :: (isAscii, run) :: runs
    | [] => [(decide (c.toNat < 128), [c])]

/-- A text with its written bytes read. -/
def percentDecoded (cs : List Char) : List Char :=
  (asciiRuns cs).flatMap fun run => if run.1 then utf8Chars (percentBytes run.2) else run.2

end TypeRegistry.Text
