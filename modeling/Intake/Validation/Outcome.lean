import Intake.Validation

/-
  This file defines the engine, which validates inputs under
  its limits, and the outcome of a validation.

  Key definitions include:
    * `Engine`
    * `Outcome`
    * `Engine.validate`
    * `Engine.validateRaw`
    * `Engine.bind`
-/

namespace Intake

------------------------------------------------------------
-- Outcomes
------------------------------------------------------------

/- All parameters with their values, or the records of all errors. -/
inductive Outcome where
  | valid (params : Params)
  | invalid (records : List ErrorRecord)

namespace Outcome

/- The outcome of a result. -/
def ofResult : Except (List ErrorRecord) Params → Outcome
  | .ok params => .valid params
  | .error records => .invalid records

/- The validation has succeeded. -/
def isValid : Outcome → Bool
  | .valid _ => true
  | .invalid _ => false

/- The values of a valid outcome. -/
def params? : Outcome → Option Params
  | .valid params => some params
  | .invalid _ => none

/- The records of an outcome; a valid one has none. -/
def records : Outcome → List ErrorRecord
  | .valid _ => []
  | .invalid records => records

/- What is sent for an invalid outcome. -/
def body?
    (collapse : Bool) : Outcome → Option ErrorBody
  | .valid _ => none
  | .invalid records => some (.ofRecords collapse records)

end Outcome

------------------------------------------------------------
-- Engines
------------------------------------------------------------

/-
  The limits of validations: how deep schemas may be nested,
  and whether a single record is sent bare.
-/
structure Engine where
  maxDepth : Nat
  collapse : Bool
deriving DecidableEq, Inhabited

namespace Engine

/- The limits that hold where nothing is said. -/
def standard : Engine :=
  ⟨32, true⟩

/- Validate an input. -/
def validate
    (engine : Engine)
    (schema : Schema)
    (input : Input) : Outcome :=
  .ofResult (schema.run engine.maxDepth 0 input)

/- Validate raw data, which has to be an object. -/
def validateRaw
    (engine : Engine)
    (schema : Schema) : Raw → Outcome
  | .object fields => engine.validate schema (.ofAuto fields)
  | _ => .invalid [.invalidInput]

/-
  The values of an input, or the result of rendering what is
  sent for its errors.
-/
def bind
    (engine : Engine)
    (schema : Schema)
    (input : Input)
    (render : ErrorBody → R) : Except R Params :=
  match engine.validate schema input with
  | .valid params => .ok params
  | .invalid records => .error (render (.ofRecords engine.collapse records))

end Engine

end Intake
