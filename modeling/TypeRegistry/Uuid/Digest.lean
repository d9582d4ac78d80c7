/-!
# SHA-1

The digest behind name-based UUIDs, on lists of bytes: the message is padded to whole blocks of 64
bytes, and every block is mixed into a state of five 32-bit words.

Main definitions:

- `padded`: the message with its padding.
- `digest`: the twenty bytes of the digest.
-/

namespace TypeRegistry.Uuid

/-- Rotate a word to the left. -/
def rotate (w : UInt32) (count : UInt32) : UInt32 :=
  (w <<< count) ||| (w >>> (32 - count))

/-- The bytes of a number, most significant first. -/
def bigEndian (width n : Nat) : List UInt8 :=
  (List.range width).map fun i => UInt8.ofNat (n / Nat.pow 256 (width - 1 - i))

/-- The message followed by a one bit, zeros, and its length in bits over eight bytes. -/
def padded (message : List UInt8) : List UInt8 :=
  let zeros := (119 - message.length % 64) % 64
  message ++ 0x80 :: List.replicate zeros 0 ++ bigEndian 8 (8 * message.length)

/-- The word of four bytes, most significant first. -/
def word (a b c d : UInt8) : UInt32 :=
  (a.toUInt32 <<< 24) ||| (b.toUInt32 <<< 16) ||| (c.toUInt32 <<< 8) ||| d.toUInt32

/-- The words of a list of bytes; bytes short of a word are left out. -/
def words : List UInt8 → List UInt32
  | a :: b :: c :: d :: rest => word a b c d :: words rest
  | _ => []

/-- The state: five words. -/
structure State where
  a : UInt32
  b : UInt32
  c : UInt32
  d : UInt32
  e : UInt32

/-- The state before the first block. -/
def State.start : State :=
  ⟨0x67452301, 0xEFCDAB89, 0x98BADCFE, 0x10325476, 0xC3D2E1F0⟩

/-- Extend a schedule, kept latest word first, by the words of the later rounds. -/
def extendSchedule : (rounds : Nat) → (schedule : List UInt32) → List UInt32
  | 0, schedule => schedule
  | rounds + 1, schedule =>
    let back (i : Nat) : UInt32 := schedule.getD i 0
    extendSchedule rounds (rotate (back 2 ^^^ back 7 ^^^ back 13 ^^^ back 15) 1 :: schedule)

/-- The mixing function and the constant of a round. -/
def roundFunction (round : Nat) (b c d : UInt32) : UInt32 × UInt32 :=
  if round < 20 then ((b &&& c) ||| ((b ^^^ 0xFFFFFFFF) &&& d), 0x5A827999)
  else if round < 40 then (b ^^^ c ^^^ d, 0x6ED9EBA1)
  else if round < 60 then ((b &&& c) ||| (b &&& d) ||| (c &&& d), 0x8F1BBCDC)
  else (b ^^^ c ^^^ d, 0xCA62C1D6)

/-- Run the rounds from a given one on over the remaining words of the schedule. -/
def runRounds : (round : Nat) → State → List UInt32 → State
  | _, s, [] => s
  | round, s, w :: rest =>
    let (f, k) := roundFunction round s.b s.c s.d
    runRounds (round + 1) ⟨rotate s.a 5 + f + s.e + k + w, s.a, rotate s.b 30, s.c, s.d⟩ rest

/-- Mix a block of sixteen words into a state. -/
def mixBlock (s : State) (block : List UInt32) : State :=
  let t := runRounds 0 s (extendSchedule 64 block.reverse).reverse
  ⟨s.a + t.a, s.b + t.b, s.c + t.c, s.d + t.d, s.e + t.e⟩

/-- Mix a number of blocks into a state. -/
def mixBlocks : (blocks : Nat) → State → List UInt32 → State
  | 0, s, _ => s
  | blocks + 1, s, ws => mixBlocks blocks (mixBlock s (ws.take 16)) (ws.drop 16)

/-- The twenty bytes of the digest of a message. -/
def digest (message : List UInt8) : List UInt8 :=
  let ws := words (padded message)
  let s := mixBlocks (ws.length / 16) State.start ws
  [s.a, s.b, s.c, s.d, s.e].flatMap fun w => bigEndian 4 w.toNat

/-- A digest has twenty bytes. -/
theorem length_digest (message : List UInt8) : (digest message).length = 20 := by
  simp [digest, bigEndian]

end TypeRegistry.Uuid
