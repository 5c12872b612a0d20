import Intake.Validation.Metrics

/-
  This file defines the entry points of engines as they are
  called: each of them leaves behind what is counted about the
  outcome, and then gives its answer.

  Only entry points record.  A nested schema is run as a part of
  the schema above it, and nothing is counted for it.

  Key definitions include:
    * `Recorded`
    * `Engine.finish`
    * `Engine.validateRecorded`
    * `Engine.validateRawRecorded`
    * `Engine.bindRecorded`
    * `Call`
    * `Metrics.after`
-/

namespace Intake

/- What is done while counts are kept. -/
abbrev Recorded :=
  StateM Metrics

------------------------------------------------------------
-- Entry Points
------------------------------------------------------------

namespace Engine

/- Record the outcome of a validation at its end. -/
def finish
    (schema : Schema)
    (outcome : Outcome) : Recorded Unit :=
  modify fun metrics => metrics.record schema outcome

/- Validate an input and record the outcome. -/
def validateRecorded
    (engine : Engine)
    (schema : Schema)
    (input : Input) : Recorded Outcome := do
  let outcome := engine.validate schema input
  finish schema outcome
  return outcome

/-
  Validate raw data and record the outcome.  An object is handed
  on, so its outcome is recorded there; other data is recorded
  here.
-/
def validateRawRecorded
    (engine : Engine)
    (schema : Schema) : Raw → Recorded Outcome
  | .object fields => engine.validateRecorded schema (.ofAuto fields)
  | _ => do
      let outcome : Outcome := .invalid [.invalidInput]
      finish schema outcome
      return outcome

/- Bind an input and record the outcome of validating it. -/
def bindRecorded
    (engine : Engine)
    (schema : Schema)
    (input : Input)
    (render : ErrorBody → R) : Recorded (Except R Params) := do
  match ← engine.validateRecorded schema input with
  | .valid params => return .ok params
  | .invalid records =>
      return .error (render (.ofRecords engine.collapse records))

end Engine

------------------------------------------------------------
-- Calls
------------------------------------------------------------

/- A call of an entry point of some engine, on some schema. -/
inductive Call where
  | validate (engine : Engine) (schema : Schema) (input : Input)
  | validateRaw (engine : Engine) (schema : Schema) (raw : Raw)
  | bind {R : Type} (engine : Engine) (schema : Schema) (input : Input)
      (render : ErrorBody → R)

namespace Call

/- The schema that a call is about. -/
def schema : Call → Schema
  | .validate _ schema _ => schema
  | .validateRaw _ schema _ => schema
  | .bind _ schema _ _ => schema

/- The outcome of the validation that a call asks for. -/
def outcome : Call → Outcome
  | .validate engine schema input => engine.validate schema input
  | .validateRaw engine schema raw => engine.validateRaw schema raw
  | .bind engine schema input _ => engine.validate schema input

/- Make a call, whatever its answer is. -/
def perform : Call → Recorded Unit
  | .validate engine schema input =>
      discard (engine.validateRecorded schema input)
  | .validateRaw engine schema raw =>
      discard (engine.validateRawRecorded schema raw)
  | .bind engine schema input render =>
      discard (engine.bindRecorded schema input render)

end Call

/- The counts after calls in order, starting without any. -/
def Metrics.after
    (calls : List Call) : Metrics :=
  ((calls.forM Call.perform).run []).2

end Intake
