import Intake.Event
import Intake.Validation.Outcome

/-
  This file says which events a validation logs: one for every
  parameter of every schema that is run, after the events of
  the schemas nested in it, and one at the end.

  Key definitions include:
    * `Schema.trace`
    * `Engine.trace`
    * `Engine.traceRaw`
-/

namespace Intake

/- The result has a value. -/
def succeeded : Except ε α → Bool
  | .ok _ => true
  | .error _ => false

/-
  The events of the objects of an array, up to the first
  element that is no object or fails.
-/
def traceElements
    (validate : Bucket → Except (List ErrorRecord) Params)
    (trace : Bucket → List Event) : List Raw → List Event
  | .object fields :: rest =>
      trace fields ++
        (if succeeded (validate fields) then
          traceElements validate trace rest
        else [])
  | _ => []

mutual

/- The events of running a schema on an input at a depth. -/
def Schema.trace
    (limit depth : Nat) : Schema → Input → List Event
  | ⟨name, params, _, _, _⟩, input =>
      traceParams limit depth name params input

/- The events of resolving parameters, in order. -/
def traceParams
    (limit depth : Nat)
    (schemaName : String) :
    List (Parameter Schema) → Input → List Event
  | [], _ => []
  | param :: rest, input =>
      param.trace limit depth input ++
        (.paramResolved schemaName param.name depth
            (succeeded (param.resolve limit depth input)) ::
          traceParams limit depth schemaName rest input)

/- The events of the schemas nested in a parameter. -/
def Parameter.trace
    (limit depth : Nat) :
    Parameter Schema → Input → List Event
  | ⟨name, type, resolved, required, source, default, check⟩, input =>
      resolved.trace limit depth
        ((⟨name, type, resolved, required, source, default, check⟩ :
          Parameter Schema).effective input)

/- The events of the schemas that raw data is coerced by. -/
def Resolved.trace
    (limit depth : Nat) :
    Resolved Schema → Raw → List Event
  | .coerced _ _, _ => []
  | .nested schema, raw =>
      match raw with
      | .object fields =>
          if limit < depth + 1 then []
          else schema.trace limit (depth + 1) (.nested fields)
      | _ => []
  | .nestedList schema, raw =>
      match raw with
      | .array items =>
          if limit < depth + 1 then []
          else
            traceElements
              (fun fields => schema.run limit (depth + 1) (.nested fields))
              (fun fields => schema.trace limit (depth + 1) (.nested fields))
              items
      | _ => []

end

namespace Engine

/- The event at the end of a validation. -/
def finished
    (schema : Schema)
    (outcome : Outcome) : Event :=
  .validationFinished schema.name outcome.records.isEmpty
    outcome.records.length

/- The events of validating an input. -/
def trace
    (engine : Engine)
    (schema : Schema)
    (input : Input) : List Event :=
  schema.trace engine.maxDepth 0 input ++
    [finished schema (engine.validate schema input)]

/- The events of validating raw data. -/
def traceRaw
    (engine : Engine)
    (schema : Schema) : Raw → List Event
  | .object fields => engine.trace schema (.ofAuto fields)
  | _ => [finished schema (.invalid [.invalidInput])]

end Engine

end Intake
