import TypeRegistry.Json.Path
import TypeRegistry.Schema.Assertion

/-!
# Findings and the choice among them

A finding says what is wrong, where in the instance it is wrong, and whether the instance has at
least the type that the finding schema declares, if that can be told.  A finding about a choice
between schemas carries the findings of each of them.  Of all findings one is reported: the least
deep, and of equally deep ones the last in the order of paths; of those at one place findings about
choices come after others, and instances of the declared type after others.  From a choice the
search goes on to the finding inside it that is least by the same order, as long as that is a single
one.  A finding that has to be put in order, but about which it cannot be told whether the instance
has the declared type, breaks the choice down.

Main definitions:

- `Finding`: what is wrong, where, and the findings behind it.
- `Rank`, `Rank.less`: the order of findings.
- `Finding.settle`, `reported`: the finding that is reported.
-/

namespace TypeRegistry

/-- Whether one path comes before another, step by step. -/
def pathLess : List PathStep → List PathStep → Bool
  | [], [] => false
  | [], _ :: _ => true
  | _ :: _, [] => false
  | s :: path, t :: other => if s = t then pathLess path other else s.less t

/-- What is wrong, where it is, whether the instance there has the declared type, and, for a choice
between schemas, what each of them finds. -/
inductive Finding where
  | mk (cause : FindingCause) (path : List PathStep) (typeMatches : Except Breakdown Bool)
    (context : List Finding)

namespace Finding

/-- What is wrong. -/
def cause : Finding → FindingCause
  | mk cause _ _ _ => cause

/-- Where it is wrong. -/
def path : Finding → List PathStep
  | mk _ path _ _ => path

/-- The finding, seen from one step further up. -/
def under (step : PathStep) : Finding → Finding
  | mk cause path typeMatches context => mk cause (step :: path) typeMatches context

end Finding

/-! ## The order of findings -/

/-- What findings are ordered by. -/
structure Rank where
  path : List PathStep
  isChoice : Bool
  typeMatches : Bool
deriving DecidableEq, Repr

/-- Whether one truth value comes before another. -/
def falseFirst (a b : Bool) : Bool :=
  !a && b

/-- Whether one rank is less than another: deeper ones are less, then paths decide, then choices are
less than others, then findings on instances of the declared type are less than others. -/
def Rank.less (a b : Rank) : Bool :=
  if a.path.length ≠ b.path.length then b.path.length < a.path.length
  else if a.path ≠ b.path then pathLess a.path b.path
  else if a.isChoice ≠ b.isChoice then a.isChoice
  else falseFirst (!a.typeMatches) (!b.typeMatches)

/-- The rank of a finding. -/
def Finding.rank : Finding → Except Breakdown Rank
  | mk cause path typeMatches _ => typeMatches.map fun holds => ⟨path, cause.isChoice, holds⟩

/-! ## The choice -/

/-- A finding that is reported: its cause, and where in the whole instance it is. -/
structure Settled where
  cause : FindingCause
  path : List PathStep

/-- The first of the ranked entries with the least rank. -/
def leastRanked? {α : Type} : List (Rank × α) → Option (Rank × α)
  | [] => none
  | entry :: rest =>
    match leastRanked? rest with
    | some other => if other.1.less entry.1 then some other else some entry
    | none => some entry

/-- The first of the ranked entries with the greatest rank. -/
def greatestRanked? {α : Type} : List (Rank × α) → Option (Rank × α)
  | [] => none
  | entry :: rest =>
    match greatestRanked? rest with
    | some other => if entry.1.less other.1 then some other else some entry
    | none => some entry

/-- The single entry of least rank, unless two entries share it. -/
def singleLeast? {α : Type} (entries : List (Rank × α)) : Option α :=
  match leastRanked? entries with
  | none => none
  | some least =>
    if 1 < (entries.filter fun entry => entry.1 = least.1).length then none else some least.2

mutual

/-- What is reported for a finding: itself, or what its context singles out. -/
def Finding.settle : Finding → Except Breakdown Settled
  | .mk cause path _ context => do
    match singleLeast? (← settleAll context) with
    | some inner =>
      let settled ← inner
      return ⟨settled.cause, path ++ settled.path⟩
    | none => return ⟨cause, path⟩

/-- What would be reported for each of several findings, with their ranks. -/
def settleAll : List Finding → Except Breakdown (List (Rank × Except Breakdown Settled))
  | [] => .ok []
  | .mk cause path typeMatches context :: rest => do
    let rank ← (Finding.mk cause path typeMatches context).rank
    return (rank, Finding.settle (.mk cause path typeMatches context)) :: (← settleAll rest)

end

/-- The finding that is reported of some with their ranks. -/
def reported (ranked : List (Rank × Finding)) : Except Breakdown (Option Settled) :=
  match greatestRanked? ranked with
  | some (_, finding) => finding.settle.map some
  | none => .ok none

/-- The wording of a reported finding, with the place unless that is the whole instance. -/
def Settled.message (settled : Settled) : String :=
  let place := Text.joinWith "/" (settled.path.map PathStep.text)
  "validation error: " ++ settled.cause.message ++
    (if place.isEmpty then "" else " at path: " ++ place)

/-- Of some entries one has the greatest rank. -/
theorem greatestRanked?_eq_none_iff {α : Type} {entries : List (Rank × α)} :
    greatestRanked? entries = none ↔ entries = [] := by
  cases entries with
  | nil => simp [greatestRanked?]
  | cons entry rest =>
    simp only [greatestRanked?]
    split
    · split <;> simp
    · simp

/-- Nothing is reported only if nothing is found. -/
theorem reported_eq_none_iff {ranked : List (Rank × Finding)} :
    reported ranked = .ok none ↔ ranked = [] := by
  rw [← greatestRanked?_eq_none_iff, reported]
  split
  · rename_i finding h
    cases hs : finding.settle <;> simp [Except.map, h]
  · simp_all

end TypeRegistry
