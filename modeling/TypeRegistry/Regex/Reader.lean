import TypeRegistry.Regex.Escape
import TypeRegistry.Regex.Search

/-!
# Reading regular expressions

A pattern consists of alternatives, an alternative of parts in sequence, and behind a part that is
no place there may stand how often it is repeated.  Parentheses that give a part neither a number
nor options of its own hold it together for a repetition only: without one, what they hold joins the
sequence around them.  What all alternatives begin with stands in front of them, and alternatives of
one character each are a class.

Main definitions:

- `readTurns?`: how often something is repeated.
- `joinAlternatives`: a pattern out of alternatives.
- `readAlternatives`, `readSequence`, `readAtom`: the parts of a pattern.
- `SearchPattern.parse`: the pattern that a text spells.
- `patternOccurs`: whether the pattern that a text spells occurs in another text.
-/

namespace TypeRegistry

namespace Regex

/-! ## Repetition -/

/-- How often something is repeated, as it is written; the least number of turns, and the most if it
is another. -/
structure Turns where
  least : List Char
  most : List Char

/-- The digits at the front, and the signs behind them. -/
def leadingDigits (signs : List Sign) : List Char × List Sign :=
  let digits := signs.takeWhile (·.isPlain Char.isDigit)
  (digits.flatMap Sign.text, signs.drop digits.length)

/-- The least and the most turns in braces, whose opening one is passed, and the signs behind. -/
def bracedTurns? (signs : List Sign) : Option (Turns × List Sign) :=
  let (least, rest) := leadingDigits signs
  match rest with
  | .plain '\x7d' :: past => if least.isEmpty then none else some (⟨least, least⟩, past)
  | .plain ',' :: rest =>
    match leadingDigits rest with
    | (most, .plain '\x7d' :: past) => some (⟨least, most⟩, past)
    | _ => none
  | _ => none

/-- How often what stands in front of some signs is repeated, if they begin with that, and the signs
behind.  Braces that hold no numbers of turns are characters like others. -/
def turns? : List Sign → Option (Turns × List Sign)
  | .plain '*' :: rest => some (⟨[], []⟩, rest)
  | .plain '+' :: rest => some (⟨['1'], []⟩, rest)
  | .plain '?' :: rest => some (⟨[], ['1']⟩, rest)
  | .plain '\x7b' :: rest => bracedTurns? rest
  | _ => none

/-- The number of turns that digits spell; it has to be one that can be counted. -/
def turnCount (digits : List Char) : Except RegexFault Nat :=
  let count := Text.digitsValue 10 digits
  if Text.digitLimit < digits.length then .error .numeralTooLong
  else if countLimit ≤ count then .error .tooManyTurns
  else .ok count

/-- The least and the most turns at the front, which are passed, if the signs begin with that. -/
def readTurns? : Reading (Option (Nat × Option Nat)) := do
  match turns? (← get).signs with
  | none => return none
  | some (turns, rest) =>
    goTo rest
    let least ← turnCount turns.least
    if turns.most.isEmpty then return some (least, none)
    let most ← turnCount turns.most
    if most < least then malformed else return some (least, some most)

/-- Whether a sign is a place by itself. -/
def isPlaceSign : Sign → Bool
  | .plain c => c = '^' || c = '$'
  | .escaped c => "AZbB".toList.contains c
  | .dangling => false

/-- How a repetition goes about its turns, by the mark at the front, which is passed. -/
def readEagerness : Reading Eagerness := do
  if ← accept '?' then return .lazy
  else if ← accept '+' then return .possessive
  else return .greedy

/-- Some parts with the repetition behind them, if there is one. -/
def readRepeated (options : Options) (parts : List Regex) : Reading (List Regex) := do
  match ← readTurns? with
  | none => return parts
  | some (least, most) =>
    if options.forbidsTurns then noteUnfit
    return [many (ofParts parts) least most (← readEagerness)]

/-! ## Alternatives -/

/-- Whether a part is a single character, a place or what a group has matched: two such parts may be
the same one. -/
def isLeaf : Regex → Bool
  | letter _ _ _ => true
  | any _ => true
  | chars _ _ => true
  | .place _ => true
  | again _ _ => true
  | _ => false

/-- The leaves that a sequence and all others begin with, and what each of them has behind. -/
def commonFront : List Regex → (others : List (List Regex)) → List Regex × List (List Regex)
  | [], others => ([], [] :: others)
  | leaf :: rest, others =>
    if leaf.isLeaf && others.all (·.head? = some leaf) then
      let (front, remains) := commonFront rest (others.map List.tail)
      (leaf :: front, remains)
    else ([], (leaf :: rest) :: others)

/-- The entries of the class that a sequence is, if it is one. -/
def classTests? : List Regex → Option (List CharTest)
  | [letter code _ false] => some [.code code]
  | [chars ⟨false, _, tests⟩ _] => some tests
  | _ => none

/-- The parts of the pattern that has some alternatives. -/
def joinAlternatives (casing : Casing) : List (List Regex) → List Regex
  | [] => []
  | [only] => only
  | first :: others =>
    let (front, remains) := commonFront first others
    match remains.mapM classTests? with
    | some tests => front ++ [ofClass ⟨false, casing, tests.flatten.eraseDups⟩]
    | none => front ++ [ofAlternatives (remains.map ofParts)]

/-! ## Patterns -/

mutual

/-- The parts of the alternatives at the front. -/
def readAlternatives : (fuel : Nat) → Options → (sofar : List (List Regex)) → Reading (List Regex)
  | 0, _, _ => malformed
  | fuel + 1, options, sofar => do
    let sequence ← readSequence fuel options []
    if ← accept '|' then readAlternatives fuel options (sofar ++ [sequence])
    else return joinAlternatives options.casing (sofar ++ [sequence])

/-- The parts of the sequence at the front, behind those read so far. -/
def readSequence : (fuel : Nat) → Options → (sofar : List Regex) → Reading (List Regex)
  | 0, _, _ => malformed
  | fuel + 1, options, sofar => do
    passRemarks options.isSpaced
    match ← peek? with
    | none => return sofar
    | some (.plain '|') => return sofar
    | some (.plain ')') => return sofar
    | some sign =>
      if (← readTurns?).isSome then malformed
      let parts ← readAtom fuel options
      if isPlaceSign sign then readSequence fuel options (sofar ++ parts)
      else
        passRemarks options.isSpaced
        readSequence fuel options (sofar ++ (← readRepeated options parts))

/-- The parts of the atom at the front. -/
def readAtom : (fuel : Nat) → Options → Reading (List Regex)
  | 0, _ => malformed
  | fuel + 1, options => do
    match ← next with
    | .escaped c => List.singleton <$> readEscaped options c
    | .plain '^' => return [.place (if options.isByLine then .lineStart else .textStart)]
    | .plain '$' => return [.place (if options.isByLine then .lineEnd else .lastLineEnd)]
    | .plain '.' => return [any options.dotAcceptsAll]
    | .plain '[' => List.singleton <$> readClass options
    | .plain '(' =>
      if ← accept '?' then readExtension fuel options
      else List.singleton <$> readGroup fuel options none
    | .plain c => return [oneCode options c.toNat]
    | .dangling => malformed

/-- The numbered group behind an opening parenthesis, perhaps with a name. -/
def readGroup : (fuel : Nat) → Options → (name? : Option String) → Reading Regex
  | 0, _, _ => malformed
  | fuel + 1, options, name? => do
    let number ← openGroup name?
    let inner ← readInner fuel options
    closeGroup number (ofParts inner)
    return group number (ofParts inner)

/-- What stands in parentheses that begin with a question mark, behind that. -/
def readExtension : (fuel : Nat) → Options → Reading (List Regex)
  | 0, _ => malformed
  | fuel + 1, options => do
    match (← get).signs with
    | .plain 'P' :: .plain '<' :: rest =>
      goTo rest
      return [← readGroup fuel options (some (← groupName '>'))]
    | .plain 'P' :: .plain '=' :: rest =>
      goTo rest
      return [← readAgain options (← groupNamed (← groupName ')'))]
    | .plain '=' :: rest => goTo rest; return [ahead (ofParts (← readInner fuel options)) false]
    | .plain '!' :: rest => goTo rest; return [ahead (ofParts (← readInner fuel options)) true]
    | .plain '<' :: .plain '=' :: rest => goTo rest; return [← readBehind fuel options false]
    | .plain '<' :: .plain '!' :: rest => goTo rest; return [← readBehind fuel options true]
    | .plain '>' :: rest => goTo rest; return [atomic (ofParts (← readInner fuel options))]
    | .plain '(' :: rest =>
      goTo rest
      let number ← readCondition
      let present ← readSequence fuel options []
      let absent ← if ← accept '|' then readSequence fuel options [] else pure []
      expect ')'
      return [ifGroup number (ofParts present) (ofParts absent)]
    | signs =>
      match groupOptions? signs with
      | some ([], [], rest) => goTo rest; readInner fuel options
      | some (added, removed, rest) =>
        goTo rest
        return [part (ofParts (← readInner fuel (options.change added removed)))]
      | none => malformed

/-- The parts of the alternatives in front of a closing parenthesis. -/
def readInner : (fuel : Nat) → Options → Reading (List Regex)
  | 0, _ => malformed
  | fuel + 1, options => do
    let inner ← readAlternatives fuel options []
    expect ')'
    return inner

/-- A look behind, whose pattern has to match texts of one length only. -/
def readBehind : (fuel : Nat) → Options → (negated : Bool) → Reading Regex
  | 0, _, _ => malformed
  | fuel + 1, options, negated => do
    let outer := (← get).horizon
    modify fun progress =>
      { progress with horizon := outer.or (some progress.groups.length) }
    let inner := ofParts (← readInner fuel options)
    modify fun progress => { progress with horizon := outer }
    match ((← get).extent inner).fixed? with
    | some width => return behind width inner negated
    | none => noteUnfit; return ahead inner negated

end

/-- The parts of the pattern at the front of some signs, and how far that takes the reading. -/
def readAll (options : Options) (signs : List Sign) :
    Except RegexFault (List Regex × Progress) :=
  let reading : Reading (List Regex) := do
    goTo signs
    readAlternatives (6 * signs.length + 6) options []
  reading.run { signs := [] }

end Regex

namespace SearchPattern

/-- The pattern that a text spells. -/
def parse (s : String) : Except RegexFault SearchPattern := do
  let signs := Sign.ofText s.toList
  match Regex.leadingLetters? signs.length [] signs with
  | none => throw .malformed
  | some (letters, rest) =>
    let options := ({} : Regex.Options).change letters []
    let (parts, progress) ← Regex.readAll options rest
    if !Regex.agree letters then throw .conflictingOptions
    if !progress.signs.isEmpty || progress.isUnfit ||
        progress.conditions.any (progress.groups.length < ·) then
      throw .malformed
    let regex := Regex.ofParts parts
    return ⟨regex, (progress.extent regex).least, options.isAscii⟩

end SearchPattern

/-- Whether the pattern that a text spells occurs in another text. -/
def patternOccurs (pattern s : String) : Except RegexFault Bool := do
  match (← SearchPattern.parse pattern).occurrence s with
  | .absent => return false
  | .present => return true
  | .crossed => throw .crossedGroup

end TypeRegistry
