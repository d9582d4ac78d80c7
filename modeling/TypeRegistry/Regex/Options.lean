import TypeRegistry.Regex.Sign

/-!
# Options of a pattern

A pattern, or a group in it, may be read in other ways than the usual: letters in front of it say
how.

Main definitions:

- `Options`: how a part of a pattern is read.
- `groupOptions?`: the options that a group adds and takes back.
- `leadingLetters?`: the options in front of a whole pattern.
-/

namespace TypeRegistry.Regex

/-- How a part of a pattern is read: whether capitals and small letters are the same, kinds are held
to ASCII, anchors are at every line, the dot accepts line feeds, blanks and remarks are skipped, and
nothing may be repeated. -/
structure Options where
  ignoresCase : Bool := false
  isAscii : Bool := false
  isByLine : Bool := false
  dotAcceptsAll : Bool := false
  isSpaced : Bool := false
  forbidsTurns : Bool := false
deriving DecidableEq, Repr

namespace Options

/-- Which letters count as the same. -/
def casing (options : Options) : Casing :=
  if options.ignoresCase then (if options.isAscii then .ascii else .full) else .exact

/-- Options with one of them set, by its letter. -/
def set (value : Bool) (options : Options) (letter : Char) : Options :=
  match letter with
  | 'i' => { options with ignoresCase := value }
  | 'a' => { options with isAscii := value }
  | 'u' => { options with isAscii := !value }
  | 'm' => { options with isByLine := value }
  | 's' => { options with dotAcceptsAll := value }
  | 'x' => { options with isSpaced := value }
  | 't' => { options with forbidsTurns := value }
  | _ => options

/-- Options with some set and some taken back, by their letters. -/
def change (options : Options) (added removed : List Char) : Options :=
  removed.foldl (set false) (added.foldl (set true) options)

end Options

/-- The letters of the options of a group. -/
def groupLetters : List Char := "aimsux".toList

/-- The letters of the options of a whole pattern. -/
def patternLetters : List Char := 't' :: groupLetters

/-- Those of some letters that stand at the front, and the signs behind them. -/
def lettersAhead (letters : List Char) (signs : List Sign) : List Char × List Sign :=
  let found := signs.takeWhile (·.isPlain letters.contains)
  (found.flatMap Sign.text, signs.drop found.length)

/-- Whether options may be added together: the letters for ASCII and for all characters exclude each
other. -/
def agree (added : List Char) : Bool :=
  !(added.contains 'a' && added.contains 'u')

/-- The options added and taken back at the front of a group, and the signs behind their colon. -/
def groupOptions? (signs : List Sign) : Option (List Char × List Char × List Sign) :=
  let (added, rest) := lettersAhead groupLetters signs
  match rest with
  | .plain ':' :: past => if agree added then some (added, [], past) else none
  | .plain '-' :: past =>
    match lettersAhead groupLetters past with
    | ([], _) => none
    | (removed, .plain ':' :: past) =>
      if agree added && !removed.any (fun c => c = 'a' || c = 'u' || added.contains c) then
        some (added, removed, past)
      else none
    | _ => none
  | _ => none

/-- The letters of the options for the whole pattern, behind those found so far, and the signs behind
the place where they are given: in front of the pattern. -/
def leadingLetters? : (fuel : Nat) → (found : List Char) → List Sign →
    Option (List Char × List Sign)
  | 0, found, signs => some (found, signs)
  | fuel + 1, found, signs =>
    match behindRemarks? (found.contains 'x') signs.length signs with
    | none => none
    | some (.plain '(' :: .plain '?' :: rest) =>
      match lettersAhead patternLetters rest with
      | ([], _) => some (found, signs)
      | (added, .plain ')' :: past) =>
        if agree added then leadingLetters? fuel (found ++ added) past else none
      | _ => some (found, signs)
    | some _ => some (found, signs)

end TypeRegistry.Regex
