import TypeRegistry.Text.Digit
import TypeRegistry.Text.Split

/-!
# Authorities

The authority of an address names a host, behind a user and in front of a port if they are given.
It is malformed if it has only one kind of square bracket, if it has both and its host is no numeric
one of version six or later in brackets, or if it holds a character that stands for others among
which there is a mark of addresses.

Main definitions:

- `isHostNumber`: whether a text is the numeric name of a host, of version six.
- `isFutureHost`: whether a text is the numeric name of a host, of a version to come.
- `isAuthority`: whether a text can be an authority.
-/

namespace TypeRegistry.Address

/-! ## Numeric hosts -/

/-- Whether a text is a number below 256 without leading zeros. -/
def isOctet (cs : List Char) : Bool :=
  !cs.isEmpty && cs.length ≤ 3 && cs.all Char.isDigit && Text.digitsValue 10 cs ≤ 255 &&
    (cs.length = 1 || cs.head? ≠ some '0')

/-- Whether a text is the numeric name of a host of version four: four octets. -/
def isShortHostNumber (cs : List Char) : Bool :=
  let octets := Text.splitOn '.' cs
  octets.length = 4 && octets.all isOctet

/-- Whether a text is a group of hexadecimal digits in the numeric name of a host. -/
def isHexGroup (cs : List Char) : Bool :=
  !cs.isEmpty && cs.length ≤ 4 && cs.all (Text.isDigitOf 16)

/-- The groups of a numeric name of version six; its last part may be a name of version four, which
counts as two groups. -/
def hostGroups? (cs : List Char) : Option (List (List Char)) :=
  let parts := Text.splitOn ':' cs
  match parts.getLast? with
  | some last =>
    if last.contains '.' then
      if isShortHostNumber last then some (parts.dropLast ++ [['0'], ['0']]) else none
    else some parts
  | none => none

/-- Whether groups at one side of a gap are well formed, given whether the gap is at the end there.
-/
def areGroups (groups : List (List Char)) (gapAtEnd : Bool) : Bool :=
  if gapAtEnd then groups = [[]] else groups.all isHexGroup

/-- Whether groups make up a numeric name: eight of them, or fewer and one gap between them or at an
end. -/
def areHostGroups (groups : List (List Char)) : Bool :=
  let inner := (groups.drop 1).dropLast
  match inner.findIdx? List.isEmpty with
  | none => groups.length = 8 && groups.all isHexGroup
  | some index =>
    let before := groups.take (index + 1)
    let behind := groups.drop (index + 2)
    let written := ((before ++ behind).filter (!·.isEmpty)).length
    areGroups before (before.head? = some []) && areGroups behind (behind.getLast? = some []) &&
      written < 8

/-- Whether a text is the numeric name of a host, of version six; a zone may stand behind it. -/
def isHostNumber (cs : List Char) : Bool :=
  let (number, zone) := match Text.cutAt? '%' cs with
    | some (number, zone) => (number, some zone)
    | none => (cs, none)
  let isZone := zone.all fun zone => !zone.isEmpty && !zone.contains '%'
  isZone && 3 ≤ (Text.splitOn ':' number).length && (hostGroups? number).any areHostGroups

/-- Whether a text is the numeric name of a host, of a version to come. -/
def isFutureHost (cs : List Char) : Bool :=
  match cs with
  | 'v' :: rest =>
    let version := rest.takeWhile (Text.isDigitOf 16)
    !version.isEmpty && (rest.drop version.length).head? = some '.' &&
      version.length + 1 < rest.length
  | _ => false

/-! ## Authorities -/

/-- The characters above ASCII that stand for several others, with a mark of addresses among them.
-/
def markedCharacters : List Nat :=
  [0x2047, 0x2048, 0x2049, 0x2100, 0x2101, 0x2105, 0x2106, 0x2A74, 0xFE13, 0xFE16, 0xFE55, 0xFE56,
   0xFE5F, 0xFE6B, 0xFF03, 0xFF0F, 0xFF1A, 0xFF1F, 0xFF20]

/-- Whether a text is the numeric name of a host. -/
def isNumericHost (cs : List Char) : Bool :=
  isHostNumber cs || isFutureHost cs

/-- The host and port of an authority, which stand behind the last mark of a user. -/
def hostAndPort (cs : List Char) : List Char :=
  (cs.reverse.takeWhile (· ≠ '@')).reverse

/-- Whether the host of an authority with brackets is numeric.  It stands in brackets, with nothing
in front of them and at most a port behind them, unless the brackets belong to the user. -/
def hasNumericHost (cs : List Char) : Bool :=
  match Text.cutAt? '[' (hostAndPort cs) with
  | some (lead, rest) =>
    let (host, port) := (Text.cutAt? ']' rest).getD (rest, [])
    lead.isEmpty && (port.isEmpty || port.head? = some ':') && isNumericHost host
  | none => isNumericHost ((hostAndPort cs).takeWhile (· ≠ ':'))

/-- Whether a text can be an authority. -/
def isAuthority (cs : List Char) : Bool :=
  cs.contains '[' == cs.contains ']' && (!cs.contains '[' || hasNumericHost cs) &&
    cs.all fun c => !markedCharacters.contains c.toNat

/-- An authority of plain characters is well formed. -/
theorem isAuthority_of_plain {cs : List Char}
    (h : ∀ c ∈ cs, c ≠ '[' ∧ c ≠ ']' ∧ c.toNat < 128) : isAuthority cs = true := by
  have first : cs.contains '[' = false := by simpa using fun hc => (h _ hc).1 rfl
  have last : cs.contains ']' = false := by simpa using fun hc => (h _ hc).2.1 rfl
  simp only [isAuthority, first, last]
  simp only [beq_self_eq_true, Bool.not_false, Bool.true_or, Bool.true_and, List.all_eq_true]
  intro c hc
  have := (h c hc).2.2
  simp [markedCharacters]
  omega

end TypeRegistry.Address
