import TypeRegistry.Regex.Basic

/-!
# Searching a text for a pattern

A match begins at a place of a text and ends at another.  Patterns try their ways to match one after
another, and a way counts only if what follows the pattern can go on from where it ends; so the
first way on which everything goes on is found.

A search keeps a trail: where it last took its stand, and where groups began and ended.  It takes
its stand at every place from which it may have to try another way.  When a way fails, the trail is
taken back as far as groups are concerned: to what it was where groups may come up more than once,
elsewhere to as many bounds as there were.  The stand is not taken back.  So a repetition that gives
up no turns goes on from where the turn that failed has left the stand.

Main definitions:

- `Trail`: what a search keeps.
- `Way`, `Onward`: going on from a trail, and what follows a pattern.
- `Regex.search`: the search from a place, for a pattern and what follows it.
- `SearchPattern.occurrence`: whether a pattern occurs somewhere in a text.
-/

namespace TypeRegistry

/-! ## Trails -/

/-- What a search keeps: where it last took its stand, and where groups began and ended, the bounds
of one group side by side. -/
structure Trail where
  stand : Nat
  bounds : List (Option Nat)
deriving DecidableEq, Repr

namespace Trail

/-- The trail of a search that takes its stand at a place. -/
def standing (trail : Trail) (place : Nat) : Trail :=
  { trail with stand := place }

/-- The trail with a bound set to a place; bounds before it that are not known stay so. -/
def bounded (trail : Trail) (index place : Nat) : Trail :=
  if index < trail.bounds.length then { trail with bounds := trail.bounds.set index (some place) }
  else
    { trail with
      bounds := trail.bounds ++
        List.replicate (index - trail.bounds.length) none ++ [some place] }

/-- The trail of a way that failed, its bounds taken back to an earlier trail. -/
def takenBack (trail before : Trail) (isRepeated : Bool) : Trail :=
  { trail with
    bounds :=
      if isRepeated then before.bounds else trail.bounds.take before.bounds.length }

/-- Where a group began and ended, if it did. -/
def group? (trail : Trail) (number : Nat) : Option (Nat × Nat) :=
  match (trail.bounds[2 * (number - 1)]?).join, (trail.bounds[2 * (number - 1) + 1]?).join with
  | some first, some last => some (first, last)
  | _, _ => none

/-- Where a group began and ended, if it did so in this order. -/
def extent? (trail : Trail) (number : Nat) : Option (Nat × Nat) :=
  (trail.group? number).filter fun (first, last) => first ≤ last

/-- Whether some group ended before it began. -/
def isCrossed (trail : Trail) : Bool :=
  (List.range (trail.bounds.length / 2)).any fun index =>
    (trail.group? (index + 1)).isSome && (trail.extent? (index + 1)).isNone

/-- A search that takes its stand stands there. -/
@[simp]
theorem stand_standing (trail : Trail) (place : Nat) : (trail.standing place).stand = place := rfl

end Trail

/-! ## Ways -/

/-- Going on from a trail: whether that works, and the trail afterwards. -/
abbrev Way := Trail → Bool × Trail

/-- What follows a pattern: the way from a place, and what it begins with. -/
structure Onward where
  go : Nat → Way
  opening : Opening := .other

namespace Onward

/-- Nothing follows: the search takes its stand where it has come to. -/
def stop : Onward where
  go place trail := (true, trail.standing place)

end Onward

/-- A way from a place where the search takes its stand. -/
def standAt (go : Nat → Way) (place : Nat) : Way :=
  fun trail => go place (trail.standing place)

/-- A way from a place; if it fails, the search takes its stand there again. -/
def standAgain (go : Nat → Way) (place : Nat) : Way := fun trail =>
  let (works, after) := standAt go place trail
  (works, if works then after else after.standing place)

/-- One way, and if it fails another one with the trail taken back. -/
def orElse (isRepeated : Bool) (first second : Way) : Way := fun trail =>
  let (works, after) := first trail
  if works then (true, after) else second (after.takenBack trail isRepeated)

/-- The way that does not work. -/
def failing : Way := fun trail => (false, trail)

/-! ## Turns of several characters -/

/-- A turn of a repetition, from a place, given what follows the turn. -/
abbrev Turn := Onward → Nat → Way

/-- A number of turns, and what goes on from there. -/
def inTurns (turn : Turn) (go : Nat → Way) : (turns : Nat) → Nat → Way
  | 0, place => go place
  | turns + 1, place => standAgain (turn { go := inTurns turn go turns }) place

/-- Up to a number of turns, as many as possible first.  A turn that stays at its place is the last
one. -/
def asManyTurns (turn : Turn) (onward : Onward) : (turns : Nat) → (last : Option Nat) → Nat → Way
  | 0, _, place => standAgain onward.go place
  | turns + 1, last, place =>
    if last = some place then standAgain onward.go place
    else
      orElse true (standAt (turn { go := asManyTurns turn onward turns (some place) }) place)
        (standAgain onward.go place)

/-- Up to a number of turns, as few as possible first. -/
def asFewTurns (isRepeated : Bool) (turn : Turn) (onward : Onward) :
    (turns : Nat) → (last : Option Nat) → Nat → Way
  | 0, _, place =>
    orElse isRepeated (standAt onward.go place) fun trail => (false, trail.standing place)
  | turns + 1, last, place =>
    orElse isRepeated (standAt onward.go place) fun trail =>
      if last = some place then (false, trail.standing place)
      else
        standAgain (turn { go := asFewTurns isRepeated turn onward turns (some place) }) place trail

/-- A number of turns of which none is given up, each from where the one before has left the stand.
-/
def keptTurns (turn : Turn) : (turns : Nat) → Way
  | 0, trail => (true, trail)
  | turns + 1, trail =>
    let (works, after) := turn .stop trail.stand trail
    if works then keptTurns turn turns after else (false, after)

/-- Up to a number of turns of which none is given up, and the trail after the last of them.  A turn
that fails leaves the stand where it is. -/
def manyKeptTurns (turn : Turn) : (turns : Nat) → (last : Option Nat) → Trail → Trail
  | 0, _, trail => trail
  | turns + 1, last, trail =>
    if last = some trail.stand then trail
    else
      let (works, after) := turn .stop trail.stand trail
      if works then manyKeptTurns turn turns (some trail.stand) after
      else after.takenBack trail true

/-- The turns beyond the least number that a repetition may make in a text: each but the last one
takes a character at least. -/
def turnsLeft (text : Array Char) (least : Nat) (most : Option Nat) : Nat :=
  match most with
  | some limit => min (limit - least) (text.size + 1)
  | none => text.size + 1

/-- A repetition of turns. -/
def repeated (text : Array Char) (isRepeated : Bool) (turn : Bool → Turn) (least : Nat)
    (most : Option Nat) (eagerness : Eagerness) (onward : Onward) (place : Nat) : Way :=
  match eagerness with
  | .greedy =>
    standAt (inTurns (turn true)
      (asManyTurns (turn true) onward (turnsLeft text least most) none) least) place
  | .lazy =>
    standAt (inTurns (turn true)
      (asFewTurns isRepeated (turn true) onward (turnsLeft text least most) none) least) place
  | .possessive => fun trail =>
    let (works, after) := keptTurns (turn isRepeated) least (trail.standing place)
    if works then
      let kept := manyKeptTurns (turn isRepeated) (turnsLeft text least most) none after
      onward.go kept.stand kept
    else (false, after.standing place)

/-! ## Turns of one character -/

/-- How many characters of a text are accepted from a place on, up to a number. -/
def countAccepted (text : Array Char) (accepts : Char → Bool) : (limit : Nat) → Nat → Nat
  | 0, _ => 0
  | limit + 1, place =>
    match text[place]? with
    | some c => if accepts c then countAccepted text accepts limit (place + 1) + 1 else 0
    | none => 0

/-- What follows, from each of several places, the last one first; where it begins with a letter,
places without the letter are passed over. -/
def fromLast (text : Array Char) (isRepeated : Bool) (onward : Onward) (first : Nat) :
    (further : Nat) → Way
  | 0 =>
    if onward.opening.allowsLetter text[first]? then standAt onward.go first else failing
  | further + 1 =>
    let place := first + (further + 1)
    if onward.opening.allowsLetter text[place]? then
      orElse isRepeated (standAt onward.go place) (fromLast text isRepeated onward first further)
    else fromLast text isRepeated onward first further

/-- What follows, from each of several places, the first one first, as long as the characters
between are accepted. -/
def fromFirst (text : Array Char) (isRepeated : Bool) (accepts : Char → Bool) (onward : Onward) :
    (further : Nat) → (place : Nat) → Way
  | 0, place =>
    orElse isRepeated (standAt onward.go place) fun trail => (false, trail.standing place)
  | further + 1, place =>
    orElse isRepeated (standAt onward.go place) fun trail =>
      if (text[place]?.map accepts).getD false then
        fromFirst text isRepeated accepts onward further (place + 1) (trail.standing place)
      else (false, trail.standing place)

/-- A repetition of single characters. -/
def repeatedStep (text : Array Char) (isRepeated : Bool) (accepts : Char → Bool) (least : Nat)
    (most : Option Nat) (eagerness : Eagerness) (onward : Onward) (place : Nat) : Way :=
  let room := text.size - place
  let most := min (most.getD room) room
  if room < least then failing
  else
    match eagerness with
    | .greedy => fun trail =>
      let count := countAccepted text accepts most place
      if count < least then (false, trail.standing place)
      else fromLast text isRepeated onward (place + least) (count - least) (trail.standing place)
    | .lazy => fun trail =>
      if countAccepted text accepts least place < least then (false, trail.standing place)
      else
        fromFirst text isRepeated accepts onward (most - least) (place + least)
          (trail.standing place)
    | .possessive => fun trail =>
      let count := countAccepted text accepts most place
      if count < least then (false, trail.standing place)
      else onward.go (place + count) (trail.standing place)

/-! ## Places and words -/

/-- Whether a place of a text is as a pattern wants it.  A text without characters has no edges of
words, nor places that are none. -/
def Place.holds (text : Array Char) (place : Nat) : Place → Bool
  | textStart => place = 0
  | textEnd => text.size ≤ place
  | lastLineEnd => text.size ≤ place || (text[place]? = some '\n' && text.size ≤ place + 1)
  | lineStart => place = 0 || text[place - 1]? = some '\n'
  | lineEnd => text.size ≤ place || text[place]? = some '\n'
  | wordEdge isAscii negated =>
    let isWord (c : Option Char) := (c.map (CharKind.word.holds isAscii)).getD false
    let previous := if place = 0 then none else text[place - 1]?
    !text.isEmpty && (isWord previous != isWord text[place]?) != negated

/-- The place behind a word, if a word that counts as the same stands at a place. -/
def behindWord? (text : Array Char) (casing : Casing) (place : Nat) : List Char → Option Nat
  | [] => some place
  | c :: word =>
    match text[place]? with
    | some d => if casing.alike c d then behindWord? text casing (place + 1) word else none
    | none => none

/-! ## Patterns -/

/-- What follows, behind one character that is accepted. -/
def behindStep (text : Array Char) (accepts : Char → Bool) (onward : Onward) (place : Nat) : Way :=
  if (text[place]?.map accepts).getD false then onward.go (place + 1) else failing

/-- A look at a text from a place, and what follows if it finds something, or nothing if it should
not. -/
def looking (isRepeated : Bool) (look : Way) (negated : Bool) (place : Nat)
    (onward : Onward) : Way := fun trail =>
  let (works, after) := look trail
  if negated then
    if works then (false, after) else onward.go place (after.takenBack trail isRepeated)
  else if works then onward.go place after
  else (false, after)

/-- The search from a place, for a pattern and what follows it; groups may come up more than once in
a part of a pattern that is repeated. -/
def Regex.search (text : Array Char) : Regex → (isRepeated : Bool) → Onward → (start : Nat) → Way
  | empty, _, onward, start => onward.go start
  | never, _, _, _ => failing
  | letter code casing negated, _, onward, start =>
    behindStep text (fun c => (letter code casing negated).accepts c) onward start
  | any acceptsBreaks, _, onward, start =>
    behindStep text (fun c => (any acceptsBreaks).accepts c) onward start
  | chars cls _, _, onward, start => behindStep text cls.accepts onward start
  | seq first second, isRepeated, onward, start =>
    first.search text isRepeated
      ⟨second.search text isRepeated onward, second.opening onward.opening⟩ start
  | alt first others, isRepeated, onward, start =>
    if (first.opening .other).allows text[start]? then
      orElse isRepeated (standAt (first.search text isRepeated ⟨onward.go, .other⟩) start)
        (others.search text isRepeated onward start)
    else others.search text isRepeated onward start
  | many inner least most eagerness, isRepeated, onward, start =>
    if inner.isStep then
      repeatedStep text isRepeated (fun c => inner.accepts c) least most eagerness onward start
    else
      repeated text isRepeated (fun isRepeated => inner.search text isRepeated) least most eagerness
        onward start
  | .place mark, _, onward, start => if mark.holds text start then onward.go start else failing
  | group number inner, isRepeated, onward, start => fun trail =>
    inner.search text isRepeated
      ⟨fun stop trail => onward.go stop (trail.bounded (2 * (number - 1) + 1) stop), .other⟩
      start (trail.bounded (2 * (number - 1)) start)
  | part inner, isRepeated, onward, start => inner.search text isRepeated onward start
  | again number casing, _, onward, start => fun trail =>
    match trail.extent? number with
    | some (first, last) =>
      match behindWord? text casing start (text.extract first last).toList with
      | some stop => onward.go stop trail
      | none => failing trail
    | none => failing trail
  | ifGroup number present absent, isRepeated, onward, start => fun trail =>
    if (trail.extent? number).isSome then
      let opening := if absent = empty then onward.opening else .other
      present.search text isRepeated ⟨onward.go, opening⟩ start trail
    else absent.search text isRepeated onward start trail
  | atomic inner, isRepeated, onward, start => fun trail =>
    let (works, after) := standAgain (inner.search text isRepeated .stop) start trail
    if works then onward.go after.stand after else (false, after)
  | ahead inner negated, isRepeated, onward, start =>
    looking isRepeated (standAt (inner.search text isRepeated .stop) start) negated start onward
  | behind width inner negated, isRepeated, onward, start =>
    if width ≤ start then
      looking isRepeated (standAt (inner.search text isRepeated .stop) (start - width)) negated
        start onward
    else if negated then onward.go start
    else failing

/-! ## Occurrences -/

/-- A pattern to search texts for: the fewest characters that it matches, and whether the options of
the whole of it hold kinds of characters to ASCII. -/
structure SearchPattern where
  regex : Regex
  least : Nat
  isAscii : Bool

/-- What became of the search for a pattern: it does not occur, it occurs, or it occurs with a group
that ended before it began. -/
inductive Occurrence where
  | absent
  | present
  | crossed
deriving DecidableEq, Repr

namespace SearchPattern

/-- The class of the characters that a pattern may begin with, if it begins with a class. -/
def firstClass? (isAscii : Bool) : Regex → Option CharClass
  | .chars cls _ => cls.heldTo? isAscii
  | .seq first _ => firstClass? isAscii first
  | .group _ inner => firstClass? isAscii inner
  | .part inner => firstClass? isAscii inner
  | _ => none

/-- The places of a text where a pattern may begin. -/
def starts (pattern : SearchPattern) (text : Array Char) : List Nat :=
  if text.size < pattern.least then []
  else if pattern.least = 0 then List.range (text.size + 1)
  else
    match firstClass? pattern.isAscii pattern.regex with
    | some cls =>
      (List.range text.size).filter fun place => (text[place]?.map cls.accepts).getD false
    | none => List.range (text.size - (pattern.least - 1) + 1)

/-- Whether a pattern occurs in a text. -/
def occurrence (pattern : SearchPattern) (s : String) : Occurrence :=
  let text := s.toList.toArray
  let found := (pattern.starts text).findSome? fun place =>
    let (works, after) := pattern.regex.search text false .stop place ⟨place, []⟩
    if works then some after else none
  match found with
  | some trail => if trail.isCrossed then .crossed else .present
  | none => .absent

end SearchPattern

end TypeRegistry
