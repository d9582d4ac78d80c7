import TypeRegistry.Regex.Basic
import TypeRegistry.Regex.Options
import TypeRegistry.Text.NameCharacter

/-!
# Progress in reading a pattern

How far the reading of a pattern has come, the small steps it takes on the signs left, and what it
keeps about groups: their numbers, their names, and the extents of those that are closed.

Main definitions:

- `RegexFault`: why a text spells no pattern.
- `Progress`, `Reading`: the state of the reading, and steps that change it or fail.
- `openGroup`, `closeGroup`: the bounds of a group.
- `readAgain`, `readCondition`: what refers to a group.
-/

namespace TypeRegistry

/-- Why a text spells no pattern, or the pattern cannot be searched for: it is malformed, a number of
turns cannot be counted or has too many digits, its options exclude each other, or a group of it
ended before it began. -/
inductive RegexFault where
  | malformed
  | tooManyTurns
  | numeralTooLong
  | conflictingOptions
  | crossedGroup
deriving DecidableEq, Repr

namespace Regex

/-! ## Signs left -/

/-- How far the reading of a pattern has come: the signs left, the extents of the groups opened so
far (none while a group is open), the names of groups, the groups that conditions ask for, while a
look behind is read the number of groups that were opened before it, and whether something was read
that no search can follow. -/
structure Progress where
  signs : List Sign
  groups : List (Option Extent) := []
  names : List (String × Nat) := []
  conditions : List Nat := []
  horizon : Option Nat := none
  isUnfit : Bool := false

/-- A step in the reading of a pattern, which may find that a text spells none. -/
abbrev Reading := StateT Progress (Except RegexFault)

/-- The text spells no pattern. -/
def malformed {α : Type} : Reading α := throw .malformed

/-- The sign at the front, if any is left. -/
def peek? : Reading (Option Sign) := do
  return (← get).signs.head?

/-- Go on with other signs.  A backslash with nothing behind it may not come up. -/
def goTo (signs : List Sign) : Reading Unit := do
  if signs.head? = some .dangling then malformed
  modify fun progress => { progress with signs }

/-- The sign at the front, which is passed. -/
def next : Reading Sign := do
  match (← get).signs with
  | sign :: rest => goTo rest; return sign
  | [] => malformed

/-- Whether a character stands at the front, which is passed then. -/
def accept (c : Char) : Reading Bool := do
  match (← get).signs with
  | .plain d :: rest => if c = d then goTo rest; return true else return false
  | _ => return false

/-- Pass a character that has to stand at the front. -/
def expect (c : Char) : Reading Unit := do
  unless ← accept c do malformed

/-- The characters of a sort at the front, up to a number of them, which are passed. -/
def takeUpTo (count : Nat) (sort : Char → Bool) : Reading (List Char) := do
  let signs := (← get).signs
  let taken := (signs.take count).takeWhile (·.isPlain sort)
  goTo (signs.drop taken.length)
  return taken.flatMap Sign.text

/-- The text in front of a closing character, which is passed; it may not be empty. -/
def nameUpTo (closing : Char) : Reading (List Char) := do
  let signs := (← get).signs
  let taken := signs.takeWhile (· ≠ .plain closing)
  match signs.drop taken.length with
  | _ :: rest =>
    goTo rest
    if taken.isEmpty then malformed else return taken.flatMap Sign.text
  | [] => malformed

/-- Pass remarks and, if asked to, blanks. -/
def passRemarks (isSpaced : Bool) : Reading Unit := do
  let signs := (← get).signs
  match behindRemarks? isSpaced signs.length signs with
  | some rest => goTo rest
  | none => malformed

/-- Note that something was read that no search can follow. -/
def noteUnfit : Reading Unit :=
  modify fun progress => { progress with isUnfit := true }

/-! ## Groups -/

/-- Open the next group, perhaps with a name, and give its number. -/
def openGroup (name? : Option String) : Reading Nat := do
  let progress ← get
  let number := progress.groups.length + 1
  match name? with
  | none => set { progress with groups := progress.groups ++ [none] }
  | some name =>
    if progress.names.any (·.1 = name) then malformed
    set { progress with
      groups := progress.groups ++ [none], names := progress.names ++ [(name, number)] }
  return number

/-- The extent of a group; a group that is open has none. -/
def Progress.extentOf? (progress : Progress) (number : Nat) : Option Extent :=
  if number = 0 then none else (progress.groups[number - 1]?).join

/-- The extent of a pattern, by the groups closed so far. -/
def Progress.extent (progress : Progress) (pattern : Regex) : Extent :=
  pattern.extent fun number => (progress.extentOf? number).getD (.exactly 0)

/-- Close a group. -/
def closeGroup (number : Nat) (inner : Regex) : Reading Unit :=
  modify fun progress =>
    { progress with groups := progress.groups.set (number - 1) (some (progress.extent inner)) }

/-- Whether a look behind that is being read allows a group to be asked for. -/
def Progress.isWithinHorizon (progress : Progress) (number : Nat) : Bool :=
  match progress.horizon with
  | some opened => number ≤ opened && (progress.extentOf? number).isSome
  | none => true

/-- What a group has matched, once more. -/
def readAgain (options : Options) (number : Nat) : Reading Regex := do
  let progress ← get
  if (progress.extentOf? number).isSome && progress.isWithinHorizon number then
    return again number options.casing
  else malformed

/-- The name of a group in front of a closing character. -/
def groupName (closing : Char) : Reading String := do
  let name ← nameUpTo closing
  if Text.isName name then return String.ofList name else malformed

/-- The number of the group that has a name. -/
def groupNamed (name : String) : Reading Nat := do
  match (← get).names.find? (·.1 = name) with
  | some (_, number) => return number
  | none => malformed

/-- The group that a condition asks for, by name or by number. -/
def readCondition : Reading Nat := do
  let name ← nameUpTo ')'
  let number ← if Text.isName name then groupNamed (String.ofList name) else
    match Text.wholeNumber? (String.ofList name) with
    | some number =>
      if 0 < number then
        modify fun progress =>
          { progress with conditions := progress.conditions ++ [number.toNat] }
        pure number.toNat
      else malformed
    | none => malformed
  if (← get).isWithinHorizon number then return number else malformed

end Regex

end TypeRegistry
