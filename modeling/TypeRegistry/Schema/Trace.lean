import TypeRegistry.Schema.Finding
import TypeRegistry.Schema.Resolution

/-!
# Traces

The outcome of an evaluation is a trace: the findings, and the identifiers that references made it
look up, in the order in which they come about.  A reference that leads nowhere and a breakdown end
the trace; they are met only when their keyword is evaluated, and a test whether an instance is
valid looks no further than the first finding.

Main definitions:

- `Trace`: what an evaluation brings about, with `append`, `under`, `verdict` and `ranked`.
- `inTurn`: the traces of the items of a list one after the other.
-/

namespace TypeRegistry

/-- What comes about in an evaluation. -/
inductive TraceEvent where
  | found (finding : Finding)
  | asked (id : String)

/-- What came about, in order, and the fault that ended it, if one did. -/
structure Trace where
  events : List TraceEvent := []
  fault : Option EvaluationFault := none

namespace Trace

/-- One trace after another; nothing comes after a fault. -/
def append (first second : Trace) : Trace :=
  match first.fault with
  | some _ => first
  | none => ⟨first.events ++ second.events, second.fault⟩

/-- The trace of findings. -/
def ofFindings (findings : List Finding) : Trace :=
  ⟨findings.map .found, none⟩

/-- The trace of identifiers that are looked up. -/
def ofAsked (ids : List String) : Trace :=
  ⟨ids.map .asked, none⟩

/-- The trace of a fault. -/
def ofFault (fault : EvaluationFault) : Trace :=
  ⟨[], some fault⟩

/-- The trace of a breakdown. -/
def ofBreakdown (cause : Breakdown) : Trace :=
  ofFault (.breakdown cause)

/-- Work on with a value, unless finding it breaks down. -/
def ofExcept {α : Type} (value : Except Breakdown α) (next : α → Trace) : Trace :=
  match value with
  | .ok value => next value
  | .error cause => ofBreakdown cause

/-- The findings of a trace. -/
def findings (trace : Trace) : List Finding :=
  trace.events.filterMap fun
    | .found finding => some finding
    | .asked _ => none

/-- The identifiers looked up in a trace. -/
def asked (trace : Trace) : List String :=
  trace.events.filterMap fun
    | .found _ => none
    | .asked id => some id

/-- The trace, seen from one step further up. -/
def under (step : PathStep) (trace : Trace) : Trace :=
  ⟨trace.events.map fun
    | .found finding => .found (finding.under step)
    | .asked id => .asked id, trace.fault⟩

/-- The test of the remaining events for a finding, given what was looked up before. -/
def verdictOf (fault : Option EvaluationFault) (asked : List String) :
    List TraceEvent → Trial Bool
  | [] =>
    match fault with
    | some fault => ⟨.error fault, asked⟩
    | none => ⟨.ok true, asked⟩
  | .found _ :: _ => ⟨.ok false, asked⟩
  | .asked id :: rest => verdictOf fault (asked ++ [id]) rest

/-- Whether the instance is valid.  The test ends at the first finding. -/
def verdict (trace : Trace) : Trial Bool :=
  verdictOf trace.fault [] trace.events

/-- All findings of a trace. -/
def allFindings (trace : Trace) : Trial (List Finding) :=
  match trace.fault with
  | some fault => ⟨.error fault, trace.asked⟩
  | none => ⟨.ok trace.findings, trace.asked⟩

/-- The findings of the remaining events with their ranks, given what was looked up before.  They are
ranked as they come about. -/
def rankedOf (fault : Option EvaluationFault) (asked : List String) :
    List TraceEvent → Trial (List (Rank × Finding))
  | [] =>
    match fault with
    | some fault => ⟨.error fault, asked⟩
    | none => ⟨.ok [], asked⟩
  | .found finding :: rest =>
    match finding.rank with
    | .error cause => ⟨.error (.breakdown cause), asked⟩
    | .ok rank =>
      (rankedOf fault asked rest).mapValue fun others =>
        others.map fun others => (rank, finding) :: others
  | .asked id :: rest => rankedOf fault (asked ++ [id]) rest

/-- All findings of a trace with their ranks. -/
def ranked (trace : Trace) : Trial (List (Rank × Finding)) :=
  rankedOf trace.fault [] trace.events

/-- What is ranked are the findings. -/
theorem map_snd_of_rankedOf {fault : Option EvaluationFault} {events : List TraceEvent}
    {asked : List String} {ranked : List (Rank × Finding)}
    (h : (rankedOf fault asked events).value = .ok ranked) :
    ranked.map (·.2) = findings ⟨events, fault⟩ := by
  induction events generalizing asked ranked with
  | nil =>
    cases fault <;> simp_all [rankedOf, findings]
  | cons event rest ih =>
    cases event with
    | asked id => simpa [findings] using ih (by simpa [rankedOf] using h)
    | found finding =>
      simp only [rankedOf] at h
      split at h
      · simp at h
      · cases hv : (rankedOf fault asked rest).value with
        | error fault => simp [Consulted.mapValue, Except.map, hv] at h
        | ok others =>
          simp only [Consulted.mapValue, hv, Except.map, Except.ok.injEq] at h
          subst h
          simpa [findings] using ih hv

/-- Work on with the answer of a trial. -/
def ofTrial {α : Type} (trial : Trial α) (next : α → Trace) : Trace :=
  (ofAsked trial.asked).append
    (match trial.value with
      | .error fault => ofFault fault
      | .ok answer => next answer)

end Trace

/-- The traces of the items of a list one after the other; nothing comes after a fault. -/
def inTurn {α : Type} (each : α → Trace) : List α → Trace
  | [] => {}
  | a :: rest =>
    let first := each a
    match first.fault with
    | some _ => first
    | none => first.append (inTurn each rest)

/-- The trace of the first item comes before those of the others. -/
theorem inTurn_cons {α : Type} (each : α → Trace) (a : α) (rest : List α) :
    inTurn each (a :: rest) = (each a).append (inTurn each rest) := by
  simp only [inTurn, Trace.append]
  split <;> simp_all

end TypeRegistry
