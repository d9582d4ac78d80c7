import TypeRegistry.Schema.Evaluation
import TypeRegistry.Schema.Form

/-!
# Validating instances

An instance is valid under a schema if the schema has the form of its dialect and finds nothing
wrong with the instance.  Otherwise the one fault that is reported is that of the form, that of a
reference that leads nowhere, or the finding that says most.  There is no telling either if the
evaluation breaks down.

Main definitions:

- `ValidationFault`: why an instance is not valid.
- `Verdict`: validity, a fault, or a breakdown.
- `formOf`, `validate`: the check of a schema and of an instance.
-/

namespace TypeRegistry

/-- Why an instance is not valid. -/
inductive ValidationFault where
  | badSchema (fault : FormFault)
  | unresolved (fault : ResolutionFault) (isNamed : Bool)
  | finding (settled : Settled)

/-- The wording of a fault. -/
def ValidationFault.message : ValidationFault → String
  | badSchema fault => "invalid schema: " ++ fault.message
  | unresolved fault isNamed => fault.message isNamed
  | finding settled => settled.message

/-- What a check ends with: nothing wrong, a fault, or a breakdown. -/
abbrev Verdict (ε : Type) := Except Breakdown (Except ε Unit)

namespace Verdict

/-- Nothing is wrong. -/
def valid {ε : Type} : Verdict ε :=
  .ok (.ok ())

/-- Something is wrong. -/
def invalid {ε : Type} (fault : ε) : Verdict ε :=
  .ok (.error fault)

/-- The verdict of a check of a form. -/
def ofForm (check : FormCheck) : Verdict ValidationFault :=
  match check.fault, check.breakdown with
  | some fault, _ => invalid (.badSchema fault)
  | none, some cause => .error cause
  | none, none => valid

/-- The verdict of an evaluation, with what was looked up for it. -/
def ofTrace (trace : Trace) : Consulted (Verdict ValidationFault) :=
  trace.ranked.mapValue fun
    | .error (.breakdown cause) => .error cause
    | .error (.unresolved fault isNamed) => invalid (.unresolved fault isNamed)
    | .ok ranked => (reported ranked).map fun
      | some settled => .error (.finding settled)
      | none => .ok ()

end Verdict

/-- The check of a schema for its form. -/
def formOf (schema : Json) : Verdict ValidationFault :=
  (Dialect.draft202012.adopt schema).bind fun dialect =>
    Verdict.ofForm (formCheck dialect schema)

/-- The check of an instance under a schema whose references lead to registered schemas. -/
def validate (store : Store) (schema subject : Json) : Consulted (Verdict ValidationFault) :=
  match formOf schema with
  | .ok (.ok ()) => Verdict.ofTrace (schemaTrace store schema subject)
  | verdict => .pure verdict

end TypeRegistry
